import TextQuery.Engine.Creation
import TextQuery.Engine.IndexAccess

set_option autoImplicit false

namespace TextQuery.Engine

open Text

namespace Database

def selectTokens (database : Database) (table input : String) : Except Fault (List Cell) := do
  let (home, held) ← database.locate database.temp.name table
  match held.body with
  | .splitter splitter =>
    return (← (splitter.tokens input).mapError TokenTable.undecodable).map .text
  | _ =>
    let relation ← database.relationOf home held
    let token ← relation.column "token"
    let key ← relation.column "input"
    let position ← relation.column "position"
    database.touch relation.home
    relation.tokens token key position input

def listed (database : Database) (schema : String) : Except Fault Schema := do
  let found ← database.schemaOr schema (.noSuchTable schema "sqlite_master")
  database.touch found.name
  return found

def tableExists (database : Database) (schema table : String) : Except Fault Bool := do
  return (Table.find? (← database.listed schema).tables table).isSome

def tableSql (database : Database) (schema table : String) : Except Fault (Option String) := do
  let found ← database.listed schema
  return ((Table.find? found.tables table).filter fun held => !held.isView).map Table.sql

def described (database : Database) (schema : String) : Except Fault Schema :=
  database.schemaOr schema (.unknownDatabase (identifier schema))

def tableInfo (database : Database) (schema table : String) : Except Fault (List ColumnInfo) := do
  let found ← database.described schema
  let columns ← match found.find? table with
    | none => pure []
    | some held =>
      match held.body with
      | .ordinary declaration _ =>
        pure (declaration.columns.map fun column =>
          ⟨column.name, declaration.keyPosition column.name⟩)
      | _ =>
        let relation ← database.relationOf found held
        pure (relation.columns.map fun column => ⟨column.name, 0⟩)
  database.touch found.name
  return columns

def foreignKeyList (database : Database) (schema table : String) :
    Except Fault (List KeyColumn) := do
  let found ← database.described schema
  match (found.find? table).map Table.keyColumns with
  | none | some [] => return []
  | some columns =>
    database.touch found.name
    return columns

/-- The violations in one table, or in all of them. Nothing is read of tables without foreign keys. -/
def foreignKeyCheck (database : Database) (schema : String) (table : Option String) :
    Except Fault (List Violation) := do
  let found ← database.described schema
  let tables ← match table with
    | none => pure found.inOrder
    | some name =>
      match found.find? name with
      | some held => pure [held]
      | none => throw (.noSuchTable schema name)
  let violations ← tables.mapM (Table.violations found.find?)
  if tables.any Table.hasReferences then database.touch found.name
  return violations.flatten

def pragmaSchema? {α : Type} : Statement α → Option String
  | .tableInfo schema _ | .foreignKeyList schema _ | .foreignKeyCheck schema _ => some schema
  | _ => none

def usedSchema? {α : Type} : Statement α → Option String
  | .createTokens _ _ | .createProbe _ _ => some "temp"
  | .tableExists schema _ | .tableSql schema _ => some schema
  | _ => none

def target? {α : Type} : Statement α → Option (String × String)
  | .matchProbe target _ => some (target.schema, target.table)
  | .selectRow schema table _ | .tableInfo schema table => some (schema, table)
  | _ => none

def looksUp {α : Type} : Statement α → Bool
  | .databaseList => false
  | _ => true

end Database

namespace Change

/-- The first row with a number. What the statement says is looked at before the number is. -/
def selectRow (schema table : String) (rowid : Int) : Change (Option Row) := do
  let (home, held) ← find fun database => database.locate schema table
  let relation ← find fun database => database.relationOf home held
  lift relation.checkNumbered
  if !Affinity.fits rowid then throw .tooLarge
  touch relation.home
  beginReading home.name held
  let rows ← lift (relation.rowsOfNumber rowid)
  return rows.head?.map fun row => (relation.columns.map Column.name).zip row.cells

/-- Matches an expression against a table. A table without an index fails as soon as there is a row. -/
def matchProbe (target : Target) (expression : String) : Change Unit := do
  let wording := [(Statement.matchProbe target expression).text]
  let (home, held) ← find fun database => database.locate target.schema target.table
  match held.body with
  | .fullText index =>
    start wording home.name
    let query ← lift ((Expression.query? index.scope expression).mapError fun fault =>
      .operational fault.message)
    query.forM (search home.name held.name index)
  | _ =>
    let relation ← find fun database => database.relationOf home held
    -- The statement is refused before it runs; a match is refused only once there is a row.
    lift relation.checkNumbered
    start wording relation.home
    if !(← lift relation.rows).isEmpty then throw .noMatching

def respond {α : Type} : Statement α → Change α
  | .createTokens table choice => createTokens table choice
  | .createProbe table columns => createProbe table columns
  | .selectTokens table input => find fun database => database.selectTokens table input
  | .matchProbe target expression => matchProbe target expression
  | .databaseList => return (← get).schemas.map Schema.name
  | .tableExists schema table => find fun database => database.tableExists schema table
  | .tableSql schema table => find fun database => database.tableSql schema table
  | .tableInfo schema table => find fun database => database.tableInfo schema table
  | .foreignKeyList schema table => find fun database => database.foreignKeyList schema table
  | .foreignKeyCheck schema table => find fun database => database.foreignKeyCheck schema table
  | .selectRow schema table rowid => selectRow schema table rowid

/-- Answers a statement. One whose text holds the character zero is not read at all. -/
def answer {α : Type} (statement : Statement α) : Change α := do
  if statement.text.toList.contains '\x00' then throw .nulInText
  resume [statement.text]
  (Database.pragmaSchema? statement).forM fun schema => do
    let _ ← find fun database => database.described schema
    use schema
  if Database.looksUp statement then readCatalog
  (Database.usedSchema? statement).forM use
  (Database.target? statement).forM fun (schema, table) => do
    match (← get).locate schema table with
    | .ok (home, held) => openTable home held
    -- Whether a missing table is a fault is seen to later.
    | .error _ => pure ()
  respond statement

end Change

instance : TextQuery.Engine Database := ⟨fun statement database => (Change.answer statement) database⟩

end TextQuery.Engine
