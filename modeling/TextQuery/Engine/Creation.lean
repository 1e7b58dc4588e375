import TextQuery.Engine.Relation

set_option autoImplicit false

namespace TextQuery.Engine

open Text

namespace TableDeclaration

def columnLimit : Nat := 2000

def columnFault? (table : String) : (before : List String) → List String → Option Fault
  | _, [] => none
  | before, name :: rest =>
    if before.length ≥ columnLimit then some (.tooManyColumns table)
    else if before.any (sameName name) then
      some (.operational ("duplicate column name: " ++ name))
    else columnFault? table (name :: before) rest

def firstWord (declaration : TableDeclaration) : String :=
  if !declaration.primaryKey.isEmpty then "PRIMARY"
  else if !declaration.unique.isEmpty then "UNIQUE"
  else if !declaration.references.isEmpty then "FOREIGN"
  else ")"

def keyFault? (declaration : TableDeclaration) (key : List String) : Option Fault :=
  if key.isEmpty then some (.syntaxError ")")
  else if key.any fun name => (declaration.column? name).isNone then
    some (.operational "expressions prohibited in PRIMARY KEY and UNIQUE constraints")
  else none

def actions : List String := ["SET NULL", "SET DEFAULT", "CASCADE", "RESTRICT", "NO ACTION"]

def referenceFault? (declaration : TableDeclaration) (reference : Reference) : Option Fault :=
  let stray := reference.columns.find? fun name => (declaration.column? name).isNone
  if reference.columns.isEmpty || reference.destinations.any (·.isEmpty) then
    some (.syntaxError ")")
  else if reference.destinations.any (·.length != reference.columns.length) then
    some (.operational ("number of columns in foreign key does not match the number of columns in "
      ++ "the referenced table"))
  else stray.map fun name =>
    .operational ("unknown column \"" ++ name ++ "\" in foreign key definition")

def fault? (declaration : TableDeclaration) (table : String) : Option Fault :=
  let primary := if declaration.primaryKey.isEmpty then [] else [declaration.primaryKey]
  if declaration.columns.isEmpty then some (.syntaxError declaration.firstWord)
  else (columnFault? table [] (declaration.columns.map Column.name)).or
    (((primary ++ declaration.unique).findSome? declaration.keyFault?).or
    ((declaration.references.findSome? declaration.referenceFault?).or
    (if declaration.withoutRowid && declaration.primaryKey.isEmpty then
      some (.operational ("PRIMARY KEY missing on table " ++ table))
    else none)))

end TableDeclaration

namespace FullText

def checkVacant (schema : Schema) (table part : String) : Except Fault Unit :=
  let name := indexName table part
  let written := String.ofList (doubled '\'' name.toList)
  match schema.find? name with
  | none => .ok ()
  | some held =>
    .error (.operational ("fts5: error creating shadow table " ++ written ++ ": "
      ++ (Fault.taken held.isView (enclosed '\'' name)).message))

def make (schema : Schema) (table sql : String) (arguments : List (List Char)) :
    Except Fault (List Table) := do
  let index ← ofArguments table arguments
  index.indexParts.forM (checkVacant schema table)
  checkColumns table index
  return ⟨table, sql, .fullText index⟩ :: index.indexTables table

end FullText

def fullTextClause : String := "USING fts5"

namespace Change

def reservedStart : String := "sqlite_"

def vacant (schema name : String) : Change Schema := do
  let found ← find fun database => database.schemaOr schema (.unknownDatabase (identifier schema))
  if startsWith (asciiFold name) reservedStart then throw (.reserved name)
  readCatalog
  match found.find? name with
  | some held => throw (.taken held.isView (identifier name))
  | none =>
    use found.name
    return found

def alter (schema : String) (edit : List Table → List Table) : Change Unit := do
  within schema edit
  if sameName schema (← get).temp.name then recheck

def addTables (schema : String) (tables : List Table) : Change Unit := alter schema (· ++ tables)

def createTable (schema table : String) (declaration : TableDeclaration) : Change Unit := do
  let sql := declaration.sql table
  resume [schema, sql]
  let home ← vacant schema table
  match declaration.fault? table with
  | some fault => throw fault
  | none =>
    start [schema, sql] home.name
    addTables home.name [⟨table, sql, .ordinary declaration []⟩]

def createView (schema view source : String) : Change Unit := do
  let sql := "CREATE VIEW " ++ identifier view ++ " AS SELECT * FROM " ++ identifier source
  resume [schema, sql]
  let home ← vacant schema view
  start [schema, sql] home.name
  addTables home.name [⟨view, sql, .view source⟩]

def moduleOf (clause : String) : String :=
  let behind := (Arguments.dropUnread none clause.toList).drop "USING".length
  let rest := Arguments.trim (Arguments.dropUnread none behind)
  match Arguments.readWord rest with
  | some (word, _) => String.ofList word.text
  | none => String.ofList rest

def makeTables (home : Schema) (name table sql : String) (arguments : List (List Char)) :
    Except Fault (List Table) :=
  match asciiFold name with
  | "fts5" => FullText.make home table sql arguments
  | "fts3tokenize" => do
    let words := arguments.map fun argument =>
      String.ofList (((Arguments.readWord argument).map fun found => found.1.text).getD argument)
    let splitter ← TokenTable.splitter table (words.headD "simple") words.tail
    return [⟨table, sql, .splitter splitter⟩]
  | _ => .error (.operational ("no such module: " ++ name))

def createVirtual (schema table : String) (columns options : List String) (clause : String) :
    Change Unit := do
  let names := columns.map identifier
  let sql := FullText.sql table (clause ++ " ") (names ++ options)
  resume [schema, sql]
  let home ← vacant schema table
  let arguments := names.map String.toList
    ++ (← lift (Arguments.split (String.intercalate ", " options)))
  -- Arguments are counted while they are read.
  if arguments.length > FullText.argumentLimit then throw (.tooManyColumns table)
  start [schema, sql] home.name
  recheck
  addTables home.name
    (← construct (makeTables home (moduleOf clause) table sql arguments))

def temporary : Change Schema := return (← get).temp

def createTokens (table : String) (choice : TokenizerChoice) : Change Unit := do
  -- The statement is read before the engine looks whether the table is there.
  let name ← lift (TokenTable.readName choice.name)
  let home ← temporary
  if (home.find? table).isNone then
    let splitter ← construct (TokenTable.splitter table name choice.arguments)
    addTables home.name [⟨table, TokenTable.sql table choice, .splitter splitter⟩]

def createProbe (table : String) (columns : List String) : Change Unit := do
  let home ← temporary
  if (home.find? table).isNone then
    if columns.length > FullText.argumentLimit then throw (.tooManyColumns table)
    let names := columns.map identifier
    let sql := FullText.sql table fullTextClause names
    addTables home.name (← construct (FullText.make home table sql (names.map String.toList)))

end Change

end TextQuery.Engine
