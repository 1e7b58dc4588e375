import TextQuery.Engine.Creation
import TextQuery.Engine.IndexAccess

set_option autoImplicit false

namespace TextQuery.Engine

open Text

def integrity (message : String) (code : Int) : Fault := ⟨.integrity, message, some code⟩

def datatypeMismatch : Fault := integrity "datatype mismatch" 20

def noneFree : Fault := ⟨.operational, "database or disk is full", some 13⟩

def columnNames (table : String) (columns : List String) : String :=
  String.intercalate ", " (columns.map fun column => table ++ "." ++ column)

def notUnique (table : String) (columns : List String) : Fault :=
  integrity ("UNIQUE constraint failed: " ++ columnNames table columns) 2067

def sameCells (a b : List Cell) : Bool := (a.zip b).all fun (x, y) => Affinity.same x y

namespace TableDeclaration

def clashes (declaration : TableDeclaration) (rows : List StoredRow) (row : StoredRow)
    (key : List String) : Bool :=
  let values := declaration.cells row key
  !values.contains .null && rows.any fun other => sameCells (declaration.cells other key) values

def rowidTrials : Nat := 100

def nextRowid (rows : List StoredRow) : Except Fault Int :=
  match rows.getLast? with
  | none => .ok 1
  | some last =>
    if Affinity.fits (last.rowid + 1) then .ok (last.rowid + 1)
    else
      -- Any free number would do. The lowest ones are tried.
      let trials := (List.range' 1 rowidTrials).map Int.ofNat
      match trials.find? fun number => rows.all fun row => row.rowid != number with
      | some number => .ok number
      | none => .error noneFree

def rowidOf (declaration : TableDeclaration) (rows : List StoredRow) (cells : List Cell) :
    Except Fault Int :=
  match declaration.rowidColumn? with
  | none => nextRowid rows
  | some column =>
    match Affinity.toNumber (declaration.cell ⟨0, cells⟩ column.name) with
    | .null => nextRowid rows
    | .int value => .ok value
    | _ => .error datatypeMismatch

def storedCells (declaration : TableDeclaration) (rowid : Int) (cells : List Cell) : List Cell :=
  (declaration.columns.zip cells).map fun (column, cell) =>
    if declaration.rowidColumn? = some column then .int rowid
    else Affinity.store column.type cell

def readBefore (declaration : TableDeclaration) (a b : StoredRow) : Bool :=
  if declaration.withoutRowid then
    Affinity.notAfter (declaration.cells a declaration.primaryKey)
      (declaration.cells b declaration.primaryKey)
  else a.rowid ≤ b.rowid

def placeRow (declaration : TableDeclaration) (row : StoredRow) : List StoredRow → List StoredRow
  | [] => [row]
  | other :: rest =>
    if declaration.readBefore other row then other :: declaration.placeRow row rest
    else row :: other :: rest

def missingKey? (declaration : TableDeclaration) (row : StoredRow) : Option String :=
  if declaration.withoutRowid then
    (declaration.columns.map Column.name).find? fun name =>
      declaration.keyPosition name ≠ 0 && declaration.cell row name = .null
  else none

def newRow (declaration : TableDeclaration) (table : String) (rows : List StoredRow)
    (cells : List Cell) : Except Fault StoredRow := do
  let rowid ← declaration.rowidOf rows cells
  let row : StoredRow := ⟨rowid, declaration.storedCells rowid cells⟩
  match declaration.missingKey? row with
  | some name => throw (integrity ("NOT NULL constraint failed: " ++ columnNames table [name]) 1299)
  | none => return row

def addRow (declaration : TableDeclaration) (table : String) (rows : List StoredRow)
    (cells : List Cell) : Except Fault (StoredRow × List StoredRow) := do
  let row ← declaration.newRow table rows cells
  match declaration.uniqueKeys.find? (declaration.clashes rows row) with
  | some key => throw (notUnique table (key.map declaration.declaredName))
  | none => return (row, declaration.placeRow row rows)

def replaceRow (declaration : TableDeclaration) (table : String) (rows : List StoredRow)
    (cells : List Cell) : Except Fault (List StoredRow) := do
  let row ← declaration.newRow table rows cells
  let isApart (other : StoredRow) : Bool :=
    !declaration.uniqueKeys.any (declaration.clashes [other] row)
  return declaration.placeRow row (rows.filter isApart)

end TableDeclaration

namespace Table

def readOnly? (table : Table) : Option Fault :=
  match table.body with
  | .view _ => some (.operational ("cannot modify " ++ table.name ++ " because it is a view"))
  | .splitter _ | .catalog => some (.operational ("table " ++ table.name ++ " may not be modified"))
  | _ => none

end Table

namespace Change

def replaceEntry (home table part : String) (cells : List Cell) : Change Unit := do
  let (name, declaration, rows) ← writable home table part cells.length
  setRows home name (← lift (declaration.replaceRow name rows cells))

def writeIndex (home table : String) (totals : List Nat) (hasWords : Bool) : Change Unit := do
  replaceEntry home table FullText.dataPart (IndexRecord.totalsCells totals)
  if hasWords then
    let count ← segments home table
    lift ((← schemaNow home).checkTerms table)
    replaceEntry home table FullText.dataPart (IndexRecord.segmentsCells (count + 1))
    forgetSegments fun entry => entry == (home, table)

def addEntry (home table : String) (index : FullText) (cells : List Cell) : Change Unit := do
  let rowid ← match index.contents, index.keepsSizes with
    | .own, _ => do
      let (name, declaration, rows) ← writable home table FullText.contentsPart (cells.length + 1)
      let (row, rows) ← lift (declaration.addRow name rows (.null :: cells))
      setRows home name rows
      pure row.rowid
    | _, true => do
      let (_, _, rows) ← writable home table FullText.sizesPart 2
      lift (TableDeclaration.nextRowid rows)
    -- No table gives the row its number.
    | _, false => throw datatypeMismatch
  let sizes := IndexRecord.sizes index cells
  let totals ← totals home table sizes.length fun totals => some (IndexRecord.count totals sizes)
  if index.keepsSizes then
    replaceEntry home table FullText.sizesPart (IndexRecord.sizesCells rowid sizes)
  writeIndex home table totals (IndexRecord.hasWords sizes)

def removeEntries (home : Schema) (held : Table) (index : FullText) : Change Unit := do
  let table := held.name
  beginReading home.name held
  let rows ← find fun database => do (← database.relationOf home held).rows
  if rows.isEmpty then return
  if index.contents = .none then
    throw (.operational ("cannot DELETE from contentless fts5 table: " ++ table))
  let sizes := rows.map fun row => IndexRecord.sizes index row.cells
  let without (sizes : List (List Nat)) : Change (List Nat) :=
    totals home.name table index.columns.length fun totals =>
      sizes.foldlM IndexRecord.uncount? totals
  -- The first row is removed from all tables before the others are counted.
  let _ ← without (sizes.take 1)
  let rowids := rows.map StoredRow.rowid
  if index.keepsSizes then removeNumbered home.name table FullText.sizesPart rowids
  if index.contents = .own then removeNumbered home.name table FullText.contentsPart rowids
  let totals ← without sizes
  writeIndex home.name table totals (sizes.any IndexRecord.hasWords)

def modifiable (schema table : String) : Change (Schema × Table) := do
  readCatalog
  let (home, held) ← find fun database => database.locate schema table
  openTable home held
  -- A view that cannot be read is not told from a table before that.
  if held.isView then
    let _ ← find fun database => database.relationOf home held
  match held.readOnly? with
  | some fault => throw fault
  | none => return (home, held)

def fitsCell : Cell → Bool
  | .int value => Affinity.fits value
  | _ => true

def bound : Cell → Cell
  | .real .nan => .null
  | cell => cell

def checkWidth (schema table : String) (columns : Nat) (cells : List Cell) : Change Unit :=
  if cells.length = columns then pure ()
  else throw (.operational ("table " ++ schema ++ "." ++ table ++ " has " ++ toString columns
    ++ " columns but " ++ toString cells.length ++ " values were supplied"))

def insertRow (schema table : String) (cells : List Cell) : Change Unit := do
  let wording := ["insert", schema, table, toString cells.length]
  -- Values are bound before a statement runs.
  if cells.all fitsCell then resume wording
  if cells.isEmpty then throw (.syntaxError ")")
  let (home, held) ← modifiable schema table
  let columns ← find fun database => return (← database.relationOf home held).columns
  checkWidth schema table columns.length cells
  if !cells.all fitsCell then throw .tooLarge
  let cells := cells.map bound
  start wording home.name
  match held.body with
  | .ordinary declaration rows =>
    let (_, rows) ← lift (declaration.addRow held.name rows cells)
    setRows home.name held.name rows
  | .fullText index =>
    changeIndex home.name held.name (addEntry home.name held.name index cells)
  | _ => pure ()

def insert (schema table : String) (rows : List (List Cell)) : Change Unit :=
  rows.forM fun cells => wholly (insertRow schema table cells)

def deleteRows (schema table : String) : Change Unit := do
  let wording := ["delete", schema, table]
  resume wording
  let (home, held) ← modifiable schema table
  start wording home.name
  match held.body with
  | .ordinary _ _ => setRows home.name held.name []
  | .fullText index => changeIndex home.name held.name (removeEntries home held index)
  | _ => pure ()

def delete (schema table : String) : Change Unit := wholly (deleteRows schema table)

def dropped (table : Table) : List String :=
  match table.body with
  | .fullText index =>
    let parts := [FullText.dataPart, FullText.termsPart, FullText.settingsPart, FullText.sizesPart,
      FullText.contentsPart]
    (parts.filter index.indexParts.contains).map (FullText.indexName table.name) ++ [table.name]
  | _ => [table.name]

def drop (schema table : String) : Change Unit := do
  let wording := ["drop", schema, table]
  resume wording
  readCatalog
  let (home, held) ← find fun database => database.locate schema table
  match held.body with
  | .catalog => throw (.operational ("table " ++ held.name ++ " may not be dropped"))
  | .view _ => throw (.operational ("use DROP VIEW to delete view " ++ held.name))
  | _ =>
    openTable home held
    start wording home.name
    let names := dropped held
    -- A view in the place of one of the tables is in the way. Tables before it come back, but then the
    -- catalog has to be read again.
    match (names.filterMap (Table.find? home.tables)).span fun other => !other.isView with
    | (_, []) => pure ()
    | ([], _) => throw .logicError
    | _ => construct (.error .logicError)
    forgetIndexes fun entry => entry.1 == home.name && names.any (sameName entry.2)
    alter home.name fun tables =>
      tables.filter fun other => !names.any (sameName other.name)

end Change

end TextQuery.Engine
