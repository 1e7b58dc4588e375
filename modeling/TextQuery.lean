import TextQuery.Engine.Script
import TextQuery.Main
import TextQuery.Proofs.Expression.Operand
import TextQuery.Proofs.Expression.Operands
import TextQuery.Proofs.Candidate
import TextQuery.Proofs.Engine.Attempt
import TextQuery.Proofs.Validator.Outcome
import TextQuery.Proofs.Validator.Calls
import TextQuery.Proofs.Engine.Keeping
import TextQuery.Proofs.Engine.RowKeeping
import TextQuery.Proofs.Engine.StatementKeeping
import TextQuery.Proofs.Engine.RunKeeping
import TextQuery.Proofs.Session.Faithful
import TextQuery.Proofs.Session.Reachable
import TextQuery.Proofs.Engine.Matching
import TextQuery.Proofs.Engine.Failing
import TextQuery.Proofs.Session.Helpers
import TextQuery.Proofs.Session.Indexes
import TextQuery.Proofs.Session.Modes
import TextQuery.Proofs.Engine.Declaring
import TextQuery.Proofs.Session.Regular
import TextQuery.Proofs.Catalog.Looking
import TextQuery.Proofs.Catalog.Picking
import TextQuery.Proofs.Catalog.PrimaryKey
import TextQuery.Proofs.ForeignKey.Grouping
import TextQuery.Proofs.ForeignKey.Declared
import TextQuery.Proofs.Session.ForeignKeys
import TextQuery.Proofs.Described
import TextQuery.Proofs.Session.Provisions
import TextQuery.Proofs.Session.Replies
import TextQuery.Proofs.Session.Undisturbed
import TextQuery.Proofs.Validator.Afresh
import TextQuery.Proofs.Engine.Repeating
import TextQuery.Proofs.Session.LostTokens
import TextQuery.Proofs.Session.Repeated
import TextQuery.Proofs.Engine.Agreeing
import TextQuery.Proofs.Session.Joining
import TextQuery.Proofs.Frame.Growing
import TextQuery.Proofs.Frame.Opening
import TextQuery.Proofs.Frame.Answering
import TextQuery.Proofs.Frame.Lookups
import TextQuery.Proofs.Frame.Gaining
import TextQuery.Proofs.Session.Framed
import TextQuery.Proofs.Engine.Storing
import TextQuery.Proofs.Engine.Ordering
import TextQuery.Proofs.Session.Orderly
import TextQuery.Proofs.ForeignKey.Violating
import TextQuery.Proofs.ForeignKey.Checking
import TextQuery.Proofs.ForeignKey.Describing
import TextQuery.Proofs.Session.Violations
import TextQuery.Proofs.Session.Checks
import TextQuery.Proofs.Session.SchemaNames
import TextQuery.Proofs.Catalog.Searching
import TextQuery.Proofs.Session.Resolving
import TextQuery.Proofs.Session.Noting
import TextQuery.Proofs.Engine.Pairing
import TextQuery.Proofs.Session.Twins
import TextQuery.Proofs.Session.Spellings
import TextQuery.Proofs.Validator.Mentioning
import TextQuery.Proofs.Engine.Texts
import TextQuery.Proofs.Session.Declarations
import TextQuery.Proofs.Canonical.Normalizing
import TextQuery.Proofs.Token.Plain
import TextQuery.Proofs.Session.PlainWords
import TextQuery.Proofs.Settings.Accepting
import TextQuery.Proofs.Settings.Making
import TextQuery.Proofs.Settings.Merging
import TextQuery.Proofs.Datum.Reading
import TextQuery.Proofs.Settings.Layering
import TextQuery.Proofs.ForeignKey.Gathering
import TextQuery.Proofs.Tokenizer.Calls
import TextQuery.Proofs.Engine.Evening
import TextQuery.Proofs.Engine.Refusing
import TextQuery.Proofs.Engine.Locked
import TextQuery.Proofs.Engine.Guarding
import TextQuery.Proofs.Engine.Witnessing
import TextQuery.Proofs.Session.Refused
import TextQuery.Proofs.Session.Removing
import TextQuery.Proofs.Cell.Reading
import TextQuery.Proofs.Report
import TextQuery.Proofs.Tokenizer.Descriptors
import TextQuery.Proofs.Settings.Probing
import TextQuery.Proofs.Engine.Lexemes
import TextQuery.Proofs.Engine.Identifiers
import TextQuery.Proofs.Log.Course
import TextQuery.Proofs.Program.Opening
import TextQuery.Proofs.Program.Records
import TextQuery.Proofs.Program.Reporting
import TextQuery.Proofs.Program.Outcomes
