import TextQuery.Cell
import TextQuery.Failure
import TextQuery.Text.Enclosed

set_option autoImplicit false

namespace TextQuery.Engine

structure TokenizerChoice where
  name : String
  arguments : List String
deriving DecidableEq, Repr

def TokenizerChoice.descriptor (choice : TokenizerChoice) : String :=
  String.intercalate ", " (choice.name :: choice.arguments.map Text.literal)

inductive Target where
  | helper (table : String)
  | located (schema table : String)
deriving DecidableEq, Repr

namespace Target

def schema : Target → String
  | .helper _ => "temp"
  | .located schema _ => schema

def table : Target → String
  | .helper table => table
  | .located _ table => table

end Target

structure ColumnInfo where
  name : String
  keyPosition : Int
deriving DecidableEq, Repr

structure KeyColumn where
  id : Int
  sequence : Int
  table : String
  origin : String
  destination : Option String
  onUpdate : String
  onDelete : String
  matching : String
deriving DecidableEq, Repr

inductive Statement : Type → Type where
  | createTokens (table : String) (choice : TokenizerChoice) : Statement Unit
  | selectTokens (table input : String) : Statement (List Cell)
  | createProbe (table : String) (columns : List String) : Statement Unit
  | matchProbe (target : Target) (expression : String) : Statement Unit
  | databaseList : Statement (List String)
  | tableExists (schema table : String) : Statement Bool
  | tableSql (schema table : String) : Statement (Option String)
  | tableInfo (schema table : String) : Statement (List ColumnInfo)
  | foreignKeyList (schema table : String) : Statement (List KeyColumn)
  | foreignKeyCheck (schema : String) (table : Option String) : Statement (List Violation)
  | selectRow (schema table : String) (rowid : Int) : Statement (Option Row)

namespace Statement

open Text

def catalog (schema : String) : String := identifier schema ++ ".sqlite_master"

def pragma (schema name : String) : String := "PRAGMA " ++ identifier schema ++ "." ++ name

def source : Target → String
  | .helper table => "temp." ++ identifier table
  | .located schema table => identifier schema ++ "." ++ identifier table

def text {α : Type} : Statement α → String
  | .createTokens table choice =>
    "CREATE VIRTUAL TABLE IF NOT EXISTS temp." ++ identifier table
      ++ " USING fts3tokenize(" ++ choice.descriptor ++ ")"
  | .selectTokens table _ =>
    "SELECT token FROM temp." ++ identifier table ++ " WHERE input = ? ORDER BY position"
  | .createProbe table columns =>
    "CREATE VIRTUAL TABLE IF NOT EXISTS temp." ++ identifier table ++ " USING fts5("
      ++ String.intercalate ", " (columns.map identifier) ++ ")"
  | .matchProbe target _ =>
    "SELECT rowid FROM " ++ source target ++ " WHERE " ++ identifier target.table ++ " MATCH ?"
  | .databaseList => "PRAGMA database_list"
  | .tableExists schema _ =>
    "SELECT 1 FROM " ++ catalog schema
      ++ " WHERE type IN ('table', 'view') AND name = ? COLLATE NOCASE"
  | .tableSql schema _ =>
    "SELECT sql FROM " ++ catalog schema
      ++ " WHERE type = 'table' AND name = ? COLLATE NOCASE"
  | .tableInfo schema table => pragma schema "table_info(" ++ identifier table ++ ")"
  | .foreignKeyList schema table => pragma schema "foreign_key_list(" ++ identifier table ++ ")"
  | .foreignKeyCheck schema none => pragma schema "foreign_key_check"
  | .foreignKeyCheck schema (some table) =>
    pragma schema "foreign_key_check(" ++ identifier table ++ ")"
  | .selectRow schema table _ =>
    "SELECT * FROM " ++ identifier schema ++ "." ++ identifier table ++ " WHERE rowid = ?"

def noRows {α : Type} : Statement α → α
  | .createTokens _ _ | .createProbe _ _ | .matchProbe _ _ => ()
  | .selectTokens _ _ => []
  | .databaseList => []
  | .tableExists _ _ => false
  | .tableSql _ _ => none
  | .tableInfo _ _ => []
  | .foreignKeyList _ _ => []
  | .foreignKeyCheck _ _ => []
  | .selectRow _ _ _ => none

end Statement

end TextQuery.Engine
