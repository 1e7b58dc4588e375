import TextQuery.Engine.Affinity
import TextQuery.Engine.Statement
import TextQuery.Expression.Machine
import TextQuery.Token.Indexing

set_option autoImplicit false

namespace TextQuery.Engine

open Text

structure Column where
  name : String
  declared : String := ""
deriving DecidableEq, Repr

def Column.type (column : Column) : ColumnType := .ofDeclared column.declared

structure Reference where
  columns : List String
  table : String
  destinations : Option (List String) := none
  onUpdate : Option String := none
  onDelete : Option String := none
  matching : Option String := none
deriving DecidableEq, Repr

structure TableDeclaration where
  columns : List Column
  primaryKey : List String := []
  unique : List (List String) := []
  references : List Reference := []
  withoutRowid : Bool := false
deriving DecidableEq, Repr

structure StoredRow where
  rowid : Int
  cells : List Cell
deriving DecidableEq, Repr

/-- Where a full-text table has the values of its rows: in a table of its own, in a table of the caller,
or nowhere. -/
inductive Contents where
  | own
  | table (name : String)
  | none
deriving DecidableEq, Repr

structure FullText where
  columns : List String := []
  unindexed : List String := []
  detail : Expression.Detail := .full
  splitter : Option Token.Indexing := none
  contents : Contents := .own
  contentsKey : Option String := none
  keepsSizes : Bool := true
  prefixes : Nat := 0
deriving DecidableEq, Repr

/-- Rows stand in the order in which they are read. -/
inductive Body where
  | ordinary (declaration : TableDeclaration) (rows : List StoredRow)
  | fullText (index : FullText)
  | splitter (splitter : Token.Splitter)
  | view (source : String)
  | catalog
deriving DecidableEq, Repr

structure Table where
  name : String
  sql : String
  body : Body
deriving DecidableEq, Repr

def Column.find? (columns : List Column) (name : String) : Option Column :=
  columns.find? fun column => sameName column.name name

def Column.cell (columns : List Column) (row : StoredRow) (name : String) : Cell :=
  ((columns.zip row.cells).find? fun entry => sameName entry.1.name name).elim .null Prod.snd

def rowidName : String := "rowid"

namespace TableDeclaration

def column? (declaration : TableDeclaration) (name : String) : Option Column :=
  Column.find? declaration.columns name

def isNumbering (column : Column) : Bool := sameName column.declared "INTEGER"

def rowidColumn? (declaration : TableDeclaration) : Option Column :=
  match declaration.withoutRowid, declaration.primaryKey with
  | false, [name] =>
    match declaration.column? name with
    | some column => if isNumbering column then some column else none
    | none => none
  | _, _ => none

def hasIntegerKey (declaration : TableDeclaration) : Bool :=
  match declaration.primaryKey with
  | [name] => (declaration.column? name).any isNumbering
  | _ => false

def sameKey (a b : List String) : Bool := a.map asciiFold == b.map asciiFold

/-- A key is looked up before those that were there already. One that is there already is not added. -/
def addKey (keys : List (List String)) (key : List String) : List (List String) :=
  if key.isEmpty || keys.any (sameKey key) then keys else key :: keys

/-- The keys whose values no two rows share: the row number first, and of the others the last declared
one. -/
def uniqueKeys (declaration : TableDeclaration) : List (List String) :=
  let first := if declaration.hasIntegerKey then [] else [declaration.primaryKey]
  let keys := (first ++ declaration.unique).foldl addKey []
  if !declaration.hasIntegerKey then keys
  -- Without row numbers the integer key is one like the others, and comes in last.
  else if declaration.withoutRowid then addKey keys declaration.primaryKey
  else declaration.primaryKey :: keys

def cell (declaration : TableDeclaration) (row : StoredRow) (name : String) : Cell :=
  Column.cell declaration.columns row name

def cells (declaration : TableDeclaration) (row : StoredRow) (names : List String) : List Cell :=
  names.map (declaration.cell row)

def keyPosition (declaration : TableDeclaration) (name : String) : Nat :=
  match declaration.primaryKey.findIdx? fun key => sameName key name with
  | some index => index + 1
  | none => 0

def columnList (names : List String) : String :=
  "(" ++ String.intercalate ", " (names.map identifier) ++ ")"

def clause (word : String) : Option String → String
  | some value => " " ++ word ++ " " ++ value
  | none => ""

def columnText (column : Column) : String :=
  if column.declared.isEmpty then identifier column.name
  else identifier column.name ++ " " ++ column.declared

def referenceText (reference : Reference) : String :=
  "FOREIGN KEY " ++ columnList reference.columns ++ " REFERENCES " ++ identifier reference.table
    ++ (reference.destinations.elim "" fun names => " " ++ columnList names)
    ++ clause "ON UPDATE" reference.onUpdate ++ clause "ON DELETE" reference.onDelete
    ++ clause "MATCH" reference.matching

def sql (declaration : TableDeclaration) (name : String) : String :=
  let key := if declaration.primaryKey.isEmpty then []
    else ["PRIMARY KEY " ++ columnList declaration.primaryKey]
  let parts := declaration.columns.map columnText ++ key
    ++ declaration.unique.map (fun names => "UNIQUE " ++ columnList names)
    ++ declaration.references.map referenceText
  "CREATE TABLE " ++ identifier name ++ " (" ++ String.intercalate ", " parts ++ ")"
    ++ (if declaration.withoutRowid then " WITHOUT ROWID" else "")

end TableDeclaration

namespace FullText

def countWords (index : FullText) (text : String) : Nat :=
  (index.splitter.getD .default).countWords text

def scope (index : FullText) : Expression.Scope where
  columns := index.columns
  detail := index.detail
  countWords := index.countWords

end FullText

namespace Table

def isView (table : Table) : Bool :=
  match table.body with
  | .view _ => true
  | _ => false

def isFullText (table : Table) : Bool :=
  match table.body with
  | .fullText _ => true
  | _ => false

def find? (tables : List Table) (name : String) : Option Table :=
  tables.find? fun table => sameName table.name name

end Table

end TextQuery.Engine
