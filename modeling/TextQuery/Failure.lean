import TextQuery.ForeignKey
import TextQuery.Text.Loose

set_option autoImplicit false

namespace TextQuery

/-- The classes under which the engine reports faults. A warning is no error. -/
inductive FaultKind where
  | warning
  | general
  | interface
  | database
  | data
  | operational
  | integrity
  | internal
  | programming
  | unsupported
  | overflow
deriving DecidableEq, Repr

structure Fault where
  kind : FaultKind
  message : String
  code : Option Int
deriving DecidableEq, Repr

namespace Fault

def operational (message : String) : Fault := ⟨.operational, message, some 1⟩

def busy : Fault := ⟨.operational, "database is locked", some 5⟩

def notADatabase : Fault := ⟨.database, "file is not a database", some 26⟩

def cannotOpen : Fault := ⟨.operational, "unable to open database file", some 14⟩

def nulInText : Fault := ⟨.programming, "the query contains a null character", none⟩

def noSuchTable (schema table : String) : Fault :=
  .operational ("no such table: " ++ schema ++ "." ++ table)

def noSuchColumn (name : String) : Fault := .operational ("no such column: " ++ name)

def unknownDatabase (name : String) : Fault := .operational ("unknown database " ++ name)

def syntaxError (token : String) : Fault := operational ("near \"" ++ token ++ "\": syntax error")

def taken (isView : Bool) (name : String) : Fault :=
  operational ((if isView then "view " else "table ") ++ name ++ " already exists")

def reserved (name : String) : Fault :=
  operational ("object name reserved for internal use: " ++ name)

def tooManyColumns (table : String) : Fault := operational ("too many columns on " ++ table)

def circular (view : String) : Fault := .operational ("view " ++ view ++ " is circularly defined")

def recursiveContents : Fault := .operational "recursively defined fts5 content table"

def malformedImage : Fault := ⟨.database, "database disk image is malformed", some 267⟩

def logicError : Fault := .operational "SQL logic error"

def tooLarge : Fault := ⟨.overflow, "Python int too large to convert to SQLite INTEGER", none⟩

def noMatching : Fault := .operational "unable to use function MATCH in the requested context"

end Fault

inductive Subject where
  | database
  | schema
  | grammar (expression : String)
  | foreignKey (violation : Violation)
deriving DecidableEq, Repr

structure Diagnostic where
  subject : Subject
  message : String
  resultCode : Option Int
  extendedCode : Option Int
deriving DecidableEq, Repr

namespace Diagnostic

def errorCode : Int := 1

def constraintCode : Int := 19

def foreignKeyCode : Int := 787

def plain (subject : Subject) (message : String) (code extended : Option Int) : Diagnostic :=
  ⟨subject, message, code, extended.or code⟩

def schema (message : String) : Diagnostic := plain .schema message (some errorCode) none

def grammar (expression message : String) (code : Int) : Diagnostic :=
  ⟨.grammar expression, message, some (code % 256), some code⟩

/-- An expression that the engine rejected. A missing code and the code zero stand for an unspecified
error. -/
def rejected (expression : String) (fault : Fault) : Diagnostic :=
  let code := match fault.code with
    | none => errorCode
    | some code => if code = 0 then errorCode else code
  grammar expression fault.message code

def violated (message : String) (violation : Violation) : Diagnostic :=
  ⟨.foreignKey violation, message, some constraintCode, some foreignKeyCode⟩

def noSuchSchema (name : String) : Diagnostic := schema ("no such schema: " ++ name)

def noSuchTable (name : String) : Diagnostic := schema ("no such table: " ++ name)

def noSuchTableIn (schemaName name : String) : Diagnostic :=
  schema ("no such table: " ++ schemaName ++ "." ++ name)

def notFullText (schemaName name : String) : Diagnostic :=
  schema ("not an fts5 table: " ++ schemaName ++ "." ++ name)

def probeNotCreated (fault : Fault) : Diagnostic :=
  schema ("cannot create FTS5 probe table: " ++ fault.message)

def codeText : Option Int → String
  | some code => toString code
  | none => "None"

def text (diagnostic : Diagnostic) : String :=
  "SQLite error " ++ codeText diagnostic.resultCode ++ ": " ++ diagnostic.message

end Diagnostic

inductive SettingFault where
  | missing (key : String)
  | notAnObject (key : String)
  | notAString (key : String)
  | notABoolean (key : String)
  | notAList (key : String)
  | unknownLevel
  | blankLogDirectory
  | blankDatabasePath
  | notAnIdentifier (key : String)
  | blankProbeTable
  | columnsBesideProbeTable
  | schemaWithoutProbeTable
  | blankColumn (index : Nat)
  | duplicateColumns
  | rootNotAMapping
  | unencodable (text : Loose)
deriving DecidableEq, Repr

namespace SettingFault

def isTypeFault : SettingFault → Bool
  | .notAnObject _ | .notAString _ | .notABoolean _ | .notAList _ => true
  | _ => false

def message : SettingFault → String
  | .missing key => "Missing required config: " ++ key
  | .notAnObject key => key ++ " must be an object"
  | .notAString key => key ++ " must be a string"
  | .notABoolean key => key ++ " must be a boolean"
  | .notAList key => key ++ " must be a list"
  | .unknownLevel =>
    "log.level must be one of ['CRITICAL', 'DEBUG', 'ERROR', 'INFO', 'WARNING']"
  | .blankLogDirectory => "log.dir must not be empty when log.to_file is true"
  | .blankDatabasePath => "storage.db_path must not be empty"
  | .notAnIdentifier key => key ++ " must contain only letters, digits and underscores"
  | .blankProbeTable => "pattern.probe_table must not be empty"
  | .columnsBesideProbeTable =>
    "pattern.columns only applies when pattern.probe_table is not set"
  | .schemaWithoutProbeTable => "pattern.probe_schema requires pattern.probe_table"
  | .blankColumn index => "pattern.columns[" ++ toString index ++ "] must not be empty"
  | .duplicateColumns => "pattern.columns must not contain duplicates"
  | .rootNotAMapping => "Config root must be a mapping/object"
  | .unencodable text => text.encodingFault

end SettingFault

inductive FileFault where
  | notFound (path : String)
  | occupied (path : String)
  | notADirectory (path : String)
  | isADirectory (path : String)
  | tooLong (path : String)
  | nulInPath
deriving DecidableEq, Repr

namespace FileFault

def message : FileFault → String
  | .notFound path => "[Errno 2] No such file or directory: " ++ Text.quoted path
  | .occupied path => "[Errno 17] File exists: " ++ Text.quoted path
  | .notADirectory path => "[Errno 20] Not a directory: " ++ Text.quoted path
  | .isADirectory path => "[Errno 21] Is a directory: " ++ Text.quoted path
  | .tooLong path => "[Errno 36] File name too long: " ++ Text.quoted path
  | .nulInPath => "embedded null byte"

end FileFault

inductive CalendarPart where
  | year
  | month
  | day
  | hour
  | minute
  | second
deriving DecidableEq, Repr

namespace CalendarPart

def message : CalendarPart → String
  | .year => "year 0 is out of range"
  | .month => "month must be in 1..12"
  | .day => "day is out of range for month"
  | .hour => "hour must be in 0..23"
  | .minute => "minute must be in 0..59"
  | .second => "second must be in 0..59"

end CalendarPart

inductive ScalarFault where
  | notACharacter
  | codeTooLarge
  | empty
  | notAnInteger (base : Nat) (text : Loose)
  | tooManyDigits (count : Nat)
  | notAReal (text : Loose)
  | placeTooLarge
  | notATruth (text : Loose)
  | notAMoment
  | notAText
  | notInCalendar (part : CalendarPart)
  | offsetTooLarge (offset : Int)
deriving DecidableEq, Repr

namespace ScalarFault

def mostDigits : Nat := 4300

def shownLength : Nat := 200

def spanText (minutes : Int) : String :=
  let seconds := minutes % 1440 * 60
  "datetime.timedelta(days=" ++ toString (minutes / 1440)
    ++ (if seconds == 0 then "" else ", seconds=" ++ toString seconds) ++ ")"

def message : ScalarFault → String
  | .notACharacter => "chr() arg not in range(0x110000)"
  | .codeTooLarge => "Python int too large to convert to C int"
  | .empty => "string index out of range"
  | .notAnInteger base text =>
    "invalid literal for int() with base " ++ toString base ++ ": "
      ++ String.ofList (text.quoted.toList.take shownLength)
  | .tooManyDigits count =>
    "Exceeds the limit (" ++ toString mostDigits
      ++ " digits) for integer string conversion: value has " ++ toString count
      ++ " digits; use sys.set_int_max_str_digits() to increase the limit"
  | .notAReal text => "could not convert string to float: " ++ text.quoted
  | .placeTooLarge => "int too large to convert to float"
  | .notATruth text => text.quoted
  | .notAMoment => "'NoneType' object has no attribute 'groupdict'"
  | .notAText => "expected string or bytes-like object, got 'list'"
  | .notInCalendar part => part.message
  | .offsetTooLarge offset =>
    "offset must be a timedelta strictly between -timedelta(hours=24) and timedelta(hours=24), not "
      ++ spanText offset ++ "."

end ScalarFault

/-- Why a token that is no text cannot be part of a candidate: it has nothing to put marks into, nothing to
look through, or bytes in place of characters. -/
inductive TokenFault where
  | noReplacing (type : String)
  | noCharacters (type : String)
  | bytesReplaced
  | byteLookedAt
deriving DecidableEq, Repr

namespace TokenFault

def message : TokenFault → String
  | .noReplacing type => "'" ++ type ++ "' object has no attribute 'replace'"
  | .noCharacters type => "'" ++ type ++ "' object is not iterable"
  | .bytesReplaced => "a bytes-like object is required, not 'str'"
  | .byteLookedAt => "ord() expected string of length 1, but int found"

end TokenFault

inductive Failure where
  | diagnostic (found : Diagnostic)
  | engine (fault : Fault)
  | noCode
  | closed (path : String)
  | engineTooOld (version : String)
  | invalidTokenizer (name : String)
  | schemaWithoutTable
  | columnsBesideTable
  | notAMode (name : String)
  | unsupportedMode (name : String)
  | namelessMode
  | token (fault : TokenFault)
  | unknownFormat (name : String)
  | unknownLevel (text : String)
  | notALevel (shown : String)
  | setting (fault : SettingFault)
  | malformed
  | endless
  | scalar (fault : ScalarFault)
  | file (fault : FileFault)
deriving DecidableEq, Repr

namespace Failure

def message : Failure → String
  | .diagnostic found => found.message
  | .engine fault => fault.message
  | .noCode => "unsupported operand type(s) for &: 'NoneType' and 'int'"
  | .closed path => "Database connection already closed: " ++ path
  | .engineTooOld version =>
    "SQLite " ++ version ++ " is too old, 3.9.0 or newer is required for FTS5"
  | .invalidTokenizer name => "Invalid tokenizer name: " ++ Text.quoted name
  | .schemaWithoutTable => "schema requires a probe table"
  | .columnsBesideTable => "columns only apply to the private probe table"
  | .notAMode name => Text.quoted name ++ " is not a valid ConstructionMode"
  | .unsupportedMode name => "Unsupported construction mode: " ++ Text.quoted name
  | .namelessMode => "'str' object has no attribute 'value'"
  | .token fault => fault.message
  | .unknownFormat name => "Unsupported output format: " ++ name
  | .unknownLevel text => "Unknown level: " ++ Text.quoted text
  | .notALevel shown => "Level not an integer or a valid string: " ++ shown
  | .setting fault => fault.message
  | .malformed => "the text is not a document"
  | .endless => "maximum recursion depth exceeded in comparison"
  | .scalar fault => fault.message
  | .file fault => fault.message

def ofRejection (expression message : String) : Option Int → Failure
  | some code => .diagnostic (.grammar expression message code)
  | none => .noCode

def text : Failure → String
  | .diagnostic found => found.text
  | failure => failure.message

end Failure

end TextQuery
