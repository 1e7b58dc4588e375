import TextQuery.Engine.Run

set_option autoImplicit false

namespace TextQuery.Engine

inductive Reply where
  | done
  | values (rows : List Cell)
  | fault (fault : Fault)
deriving DecidableEq, Repr

inductive Purpose where
  | creation
  | query
  | lookup
deriving DecidableEq, Repr

def Statement.purpose {α : Type} : Statement α → Purpose
  | .createTokens _ _ | .createProbe _ _ => .creation
  | .selectTokens _ _ | .matchProbe _ _ => .query
  | _ => .lookup

/-- Prepared answers, and what the statements so far were for. When the answers are used up, a
statement succeeds without a row. -/
structure Script where
  replies : List Reply
  asked : List Purpose := []
deriving DecidableEq, Repr

namespace Script

def reply {α : Type} : Statement α → Reply → Except Fault α
  | _, .fault fault => .error fault
  | .selectTokens _ _, .values rows => .ok rows
  | statement, _ => .ok statement.noRows

def answer {α : Type} (statement : Statement α) (script : Script) : Except Fault α × Script :=
  (reply statement (script.replies.head?.getD .done),
    { replies := script.replies.tail, asked := script.asked ++ [statement.purpose] })

instance : TextQuery.Engine Script := ⟨answer⟩

end Script

structure Listing where
  databases : List String
  tables : List (String × List String)
  keyColumns : List (String × List KeyColumn)
  columns : List (String × List ColumnInfo)
  violations : List Violation
  rows : List (Int × Row)

namespace Listing

def answer {α : Type} (listing : Listing) : Statement α → α
  | .databaseList => listing.databases
  | .tableExists schema table => ((listing.tables.lookup schema).getD []).contains table
  | .tableInfo _ table => (listing.columns.lookup table).getD []
  | .foreignKeyList _ table => (listing.keyColumns.lookup table).getD []
  | .foreignKeyCheck _ _ => listing.violations
  | .selectRow _ _ rowid => listing.rows.lookup rowid
  | statement => statement.noRows

instance : TextQuery.Engine Listing :=
  ⟨fun statement listing => (.ok (listing.answer statement), listing)⟩

end Listing

end TextQuery.Engine
