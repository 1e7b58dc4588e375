import TextQuery.Engine.Relation

set_option autoImplicit false

namespace TextQuery.Engine

open Text

def FullText.hasWords (index : FullText) (query : Expression.Query) : Bool :=
  query.phrases.any fun phrase => index.scope.wordsOf phrase != 0

namespace Schema

def indexRows (home : Schema) (table : String) : Except Fault (List StoredRow) :=
  match (home.find? (FullText.indexName table FullText.dataPart)).map Table.body with
  | some (.ordinary _ rows) => .ok rows
  | _ => .error .malformedImage

/-- The table of the terms has to have its columns. Nothing else is asked of it. -/
def checkTerms (home : Schema) (table : String) : Except Fault Unit :=
  match (home.find? (FullText.indexName table FullText.termsPart)).map Table.body with
  | some (.ordinary declaration _) =>
    if ["segid", "term", "pgno"].all fun name => (declaration.column? name).isSome then .ok ()
    else .error .logicError
  | _ => .error .logicError

def damagedIndex (table : String) : Fault :=
  { Fault.malformedImage with message := (constructorFailed table).message }

def versionOf (settings : Relation) : Except Fault Int := do
  let key ← settings.column "k"
  let value ← settings.column "v"
  return (← settings.rows).foldl (fun version row =>
    match settings.cell row key.name, Affinity.toNumber (settings.cell row value.name) with
    | .text name, .int number => if sameName name "version" then number else version
    | _, _ => version) 0

def formatVersion : Int := 4

def checkVersion (version : Int) : Except Fault Unit :=
  if version = formatVersion then .ok ()
  else .error (.operational ("invalid fts5 file format (found " ++ toString version ++ ", expected "
    ++ toString formatVersion ++ ") - run 'rebuild'"))

def indexTable (home : Schema) (table part : String) (columns : Nat) :
    Except Fault (String × TableDeclaration × List StoredRow) :=
  let name := FullText.indexName table part
  match (home.find? name).map Table.body with
  | some (.ordinary declaration rows) =>
    if declaration.columns.length = columns then .ok (name, declaration, rows)
    else .error .logicError
  | _ => .error .logicError

end Schema

namespace Change

def schemaNow (name : String) : Change Schema :=
  find fun database => database.schemaOr name (.unknownDatabase name)

def setRows (home name : String) (rows : List StoredRow) : Change Unit :=
  within home fun tables => tables.map fun table =>
    match table.body with
    | .ordinary declaration _ =>
      if Text.sameName table.name name then { table with body := .ordinary declaration rows }
      else table
    | _ => table

def forgetSegments (of : String × String → Bool) : Change Unit :=
  modify fun database =>
    { database with segments := database.segments.filter fun entry => !of entry.1 }

def forgetIndexes (of : String × String → Bool) : Change Unit :=
  modify fun database =>
    { database with
      unopened := database.unopened.filter fun entry => !of entry
      segments := database.segments.filter fun entry => !of entry.1 }

def segments (home table : String) : Change Nat := do
  let database ← get
  match database.segments.lookup (home, table) with
  | some count => return count
  | none =>
    match IndexRecord.segments? (← lift ((← schemaNow home).indexRows table)) with
    | some count =>
      set { database with segments := ((home, table), count) :: database.segments }
      return count
    | none => throw .malformedImage

def openIndex (home : Schema) (table : String) : Change Unit := do
  let database ← get
  if home.name == database.main.name && database.condition == .locked then
    throw (constructorFailed table)
  tryCatch (do let _ ← segments home.name table) fun _ => throw (Schema.damagedIndex table)
  let settings := do
    database.read home.name (FullText.indexName table FullText.settingsPart)
  match settings.bind Schema.versionOf with
  | .ok version => lift (Schema.checkVersion version)
  | .error _ => throw (constructorFailed table)
  modify fun database =>
    { database with unopened := database.unopened.erase (home.name, table) }

def openTable (home : Schema) (held : Table) : Change Unit := do
  let database ← get
  let (home, held) := database.underlying database.tableFuel home held
  if database.unopened.contains (home.name, held.name) then openIndex home held.name

def changeIndex {α : Type} (home table : String) (change : Change α) : Change α :=
  tryCatch change fun fault => do
    forgetSegments fun entry => entry == (home, table)
    throw fault

def beginReading (home : String) (held : Table) : Change Unit :=
  if held.isFullText then do let _ ← segments home held.name else pure ()

-- Segments are only counted. Their rows are not read, as if nobody but the table itself had written them.
def search (home table : String) (index : FullText) (query : Expression.Query) : Change Unit := do
  if (← segments home table) ≠ 0 && index.hasWords query then
    let schema ← schemaNow home
    lift (schema.checkTerms table)
    if (IndexRecord.segments? (← lift (schema.indexRows table))).isNone then throw .malformedImage

def writable (home table part : String) (columns : Nat) :
    Change (String × TableDeclaration × List StoredRow) := do
  lift ((← schemaNow home).indexTable table part columns)

def removeNumbered (home table part : String) (rowids : List Int) : Change Unit := do
  let name := FullText.indexName table part
  match ((← schemaNow home).find? name).map Table.body with
  | some (.ordinary declaration rows) =>
    match declaration.column? FullText.idColumn.name with
    | none => throw .logicError
    | some column =>
      setRows home name (rows.filter fun row => !rowids.any fun rowid =>
        Affinity.same (Affinity.compared column.type (.int rowid))
          (declaration.cell row column.name))
  | _ => throw .logicError

def totals (home table : String) (columns : Nat) (change : List Nat → Option (List Nat)) :
    Change (List Nat) := do
  match (IndexRecord.totals? (← lift ((← schemaNow home).indexRows table)) columns).bind change with
  | some totals => return totals
  | none => throw .malformedImage

end Change

end TextQuery.Engine
