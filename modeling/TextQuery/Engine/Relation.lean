import TextQuery.Engine.Database

set_option autoImplicit false

namespace TextQuery.Engine

open Text

/-- How the rows of a relation are numbered: each has its number, there are no numbers to ask for, or the
numbers are open. -/
inductive Numbering where
  | numbered
  | unnumbered
  | unknown
deriving DecidableEq, Repr

/-- What a query reads: columns, rows, the keys by which rows are found, and the schema where they are
stored. Rows may turn out to be missing only when they are read. -/
structure Relation where
  columns : List Column
  numbering : Numbering := .numbered
  keys : List (List String) := []
  home : String
  rows : Except Fault (List StoredRow)

namespace Relation

def column (relation : Relation) (name : String) : Except Fault Column :=
  match Column.find? relation.columns name with
  | some column => .ok column
  | none => .error (.noSuchColumn name)

def cell (relation : Relation) (row : StoredRow) (name : String) : Cell :=
  Column.cell relation.columns row name

def hidingColumn? (relation : Relation) : Option Column :=
  Column.find? relation.columns rowidName

def checkNumbered (relation : Relation) : Except Fault Unit :=
  if relation.numbering = .unnumbered && relation.hidingColumn?.isNone then
    .error (.noSuchColumn rowidName)
  else .ok ()

def sortedByKey (relation : Relation) (column : Column) (rows : List StoredRow) : List StoredRow :=
  match relation.keys.find? fun key => key.head?.any (sameName column.name) with
  | none => rows
  | some key =>
    let values (row : StoredRow) : List Cell := key.map (relation.cell row)
    rows.mergeSort fun a b => Affinity.notAfter (values a) (values b)

def rowsOfNumber (relation : Relation) (rowid : Int) : Except Fault (List StoredRow) :=
  match relation.hidingColumn?, relation.numbering with
  | some column, _ => do
    -- The column is compared instead of the row number, in the form that it stores.
    let sought := Affinity.compared column.type (.int rowid)
    let rows := (← relation.rows).filter fun row =>
      (relation.columns.zip row.cells).any fun entry =>
        entry.1 == column && Affinity.same sought entry.2
    return relation.sortedByKey column rows
  | none, .numbered => do
    return (← relation.rows).filter fun row => row.rowid == rowid
  -- An open number is not equal to any, so nothing is read.
  | none, _ => .ok []

def tokens (relation : Relation) (token input position : Column) (text : String) :
    Except Fault (List Cell) := do
  let sought := Affinity.compared input.type (.text text)
  let rows := (← relation.rows).filter fun row =>
    Affinity.same sought (relation.cell row input.name)
  let sorted := (relation.sortedByKey position rows).mergeSort fun a b =>
    Affinity.notAfter [relation.cell a position.name] [relation.cell b position.name]
  return sorted.map fun row => relation.cell row token.name

end Relation

namespace FullText

def numberOf? (column : Column) (cell : Cell) : Option Int :=
  match Affinity.toNumber cell with
  | .int number =>
    if Affinity.same (Affinity.compared column.type (.int number)) cell then some number else none
  | .real number => number.toInt?
  | _ => none

def rowidNames : List String := [rowidName, "_rowid_", "oid"]

def numbering (source : Relation) (key : String) : Except Fault (StoredRow → Option Int) :=
  match Column.find? source.columns key with
  | some column => .ok fun row => numberOf? column (source.cell row column.name)
  | none =>
    if !rowidNames.any (sameName key) then .error (.noSuchColumn ("T." ++ key))
    else match source.numbering with
      | .numbered => .ok fun row => some row.rowid
      | .unnumbered => .error (.noSuchColumn ("T." ++ key))
      | .unknown => .ok fun _ => none

def sourceNames (index : FullText) : List String :=
  if index.contents = .own then index.contentNames else index.columns

def rowsOf (index : FullText) (source : Relation) : Except Fault (List StoredRow) := do
  let number ← numbering source (index.contentsKey.getD rowidName)
  let columns ← index.sourceNames.mapM fun name =>
    match Column.find? source.columns name with
    | some column => Except.ok column.name
    | none => Except.error (Fault.noSuchColumn ("T." ++ name))
  return (← source.rows).filterMap fun row =>
    (number row).map fun rowid => ⟨rowid, columns.map (source.cell row)⟩

def emptyRowsOf (index : FullText) (sizes : Relation) : Except Fault (List StoredRow) := do
  let number ← numbering sizes (index.contentsKey.getD rowidName)
  return (← sizes.rows).filterMap fun row =>
    (number row).map fun rowid => ⟨rowid, index.columns.map fun _ => .null⟩

end FullText

namespace Database

def splitterColumns : List Column :=
  FullText.plainColumns ["input", "token", "start", "end", "position"]

def catalogColumns : List Column :=
  [⟨"type", "TEXT"⟩, ⟨"name", "TEXT"⟩, ⟨"tbl_name", "TEXT"⟩, ⟨"rootpage", "INT"⟩, ⟨"sql", "TEXT"⟩]

def catalogRows (schema : Schema) : List StoredRow :=
  (List.range schema.tables.length).zip schema.tables |>.map fun (position, table) =>
    ⟨position + 1, [.text (if table.isView then "view" else "table"), .text table.name,
      .text table.name, .int 0, .text table.sql]⟩

def sourceTables (database : Database) (schema : Schema) (source : String) :
    List (Schema × Table) × Fault :=
  let inside (schemas : List Schema) : List (Schema × Table) :=
    schemas.filterMap fun schema => (schema.find? source).map fun table => (schema, table)
  if schema.name == database.temp.name then
    (inside (database.temp :: database.main :: database.attached),
      .operational ("no such table: " ++ source))
  else (inside [schema], .noSuchTable schema.name source)

def contentsTable (schema : Schema) (name : String) : Except Fault Table :=
  match schema.find? name with
  | some held => .ok held
  | none => .error (.noSuchTable schema.name name)

/-- What a query reads of a table. The tables that are being read are given, so that none is read for its
own sake; the fuel bounds their number. -/
def relation (database : Database) : Nat → (above : List (String × String)) → Schema → Table →
    Except Fault Relation
  | 0, _, _, table => .error (.circular table.name)
  | fuel + 1, above, schema, table =>
    let isAbove := above.contains (schema.name, table.name)
    let below := (schema.name, table.name) :: above
    match table.body with
    | .ordinary declaration rows =>
      .ok {
        columns := declaration.columns
        numbering := if declaration.withoutRowid then .unnumbered else .numbered
        keys := declaration.searchKeys
        home := schema.name
        rows := .ok rows }
    | .splitter _ => .ok { columns := splitterColumns, home := schema.name, rows := .ok [] }
    | .catalog =>
      .ok { columns := catalogColumns, home := schema.name, rows := .ok (catalogRows schema) }
    | .view source =>
      if isAbove then .error (.circular table.name)
      else match database.sourceTables schema source with
        | ((home, held) :: _, _) => do
          let source ← database.relation fuel below home held
          return { source with numbering := .unknown }
        | ([], missing) => .error missing
    | .fullText index =>
      let contents (name : String) (rows : Relation → Except Fault (List StoredRow)) :
          Except Fault (List StoredRow) := do
        if isAbove then throw .recursiveContents
        let held ← contentsTable schema name
        rows (← database.relation fuel below schema held)
      .ok {
        columns := FullText.plainColumns index.columns
        home := schema.name
        rows := match index.contents with
          | .own => contents (FullText.indexName table.name FullText.contentsPart) index.rowsOf
          | .table name => contents name index.rowsOf
          | .none =>
            -- Without contents only the sizes tell which rows there are.
            if index.keepsSizes then
              contents (FullText.indexName table.name FullText.sizesPart) index.emptyRowsOf
            else .error (.operational (table.name ++ ": table does not support scanning")) }

def tableFuel (database : Database) : Nat :=
  (database.schemas.map fun schema => schema.tables.length).foldr (· + ·) 0 + 2

def underlying (database : Database) : Nat → Schema → Table → Schema × Table
  | 0, schema, table => (schema, table)
  | fuel + 1, schema, table =>
    match table.body with
    | .view source =>
      match (database.sourceTables schema source).1 with
      | (home, held) :: _ => database.underlying fuel home held
      | [] => (schema, table)
    | _ => (schema, table)

def relationOf (database : Database) (home : Schema) (held : Table) : Except Fault Relation :=
  database.relation database.tableFuel [] home held

def read (database : Database) (schema table : String) : Except Fault Relation := do
  let (home, held) ← database.locate schema table
  database.relationOf home held

end Database

end TextQuery.Engine
