import TextQuery.Engine.NameOrder
import TextQuery.Engine.References
import TextQuery.Engine.Run
import TextQuery.Engine.SearchCost
import TextQuery.Engine.VirtualTable

-- A database: schemas with their tables, and whether they can be read. Before anything is looked up by its name
-- the catalog of the main schema has to be read, once.

set_option autoImplicit false

namespace TextQuery.Engine

open Text

structure Schema where
  name : String
  tables : List Table
  order : NameOrder
deriving DecidableEq, Repr

namespace Schema

def catalogNames (name : String) : List String :=
  (if name == "temp" then ["sqlite_temp_master", "sqlite_temp_schema"] else [])
    ++ ["sqlite_master", "sqlite_schema"]

def catalog (name : String) : Table := ⟨(catalogNames name).headD "", "", .catalog⟩

def orderedNames (name : String) (tables : List Table) : List String :=
  (catalog name).name :: tables.map Table.name

def ofTables (name : String) (tables : List Table) : Schema :=
  ⟨name, tables, .ofNames (orderedNames name tables)⟩

def change (schema : Schema) (edit : List Table → List Table) : Schema :=
  let tables := edit schema.tables
  { schema with tables, order := schema.order.follow (orderedNames schema.name tables) }

def find? (schema : Schema) (name : String) : Option Table :=
  match Table.find? schema.tables name with
  | some table => some table
  | none =>
    if (catalogNames schema.name).any (sameName name) then some (catalog schema.name) else none

def inOrder (schema : Schema) : List Table :=
  schema.order.names.filterMap (Table.find? schema.tables)

end Schema

inductive Condition where
  | usable
  | locked
  | notADatabase
deriving DecidableEq, Repr

abbrev Wording := List String

structure Database where
  temp : Schema := .ofTables "temp" []
  main : Schema := .ofTables "main" []
  attached : List Schema := []
  condition : Condition := .usable
  isRead : Bool := false
  unopened : List (String × String) := []
  /-- Statements on the main schema that have been found sound. They are looked at again when they run,
  and before that only after a change that concerns all schemas. -/
  sound : List Wording := []
  segments : List ((String × String) × Nat) := []
  isTempUsed : Bool := false
deriving DecidableEq, Repr

/-- A statement on a database. What it did before it failed is kept. -/
abbrev Change (α : Type) := ExceptT Fault (StateM Database) α

namespace Database

def schemas (database : Database) : List Schema :=
  database.main :: database.temp :: database.attached

def schema? (database : Database) (name : String) : Option Schema :=
  database.schemas.find? fun schema => sameName schema.name name

def schemaOr (database : Database) (name : String) (missing : Fault) : Except Fault Schema :=
  match database.schema? name with
  | some schema => .ok schema
  | none => .error missing

def locate (database : Database) (schema table : String) : Except Fault (Schema × Table) := do
  let found ← database.schemaOr schema (.noSuchTable schema table)
  match found.find? table with
  | some held => return (found, held)
  | none => throw (.noSuchTable schema table)

def touch (database : Database) (schema : String) : Except Fault Unit :=
  if database.condition == .locked && sameName schema database.main.name then .error .busy
  else .ok ()

def within (database : Database) (name : String) (edit : List Table → List Table) : Database :=
  if sameName name database.main.name then
    { database with main := database.main.change edit }
  else if sameName name database.temp.name then
    { database with temp := database.temp.change edit }
  else { database with
    attached := database.attached.map fun schema =>
      if sameName schema.name name then schema.change edit else schema }

def forget (database : Database) : Database :=
  let read (schema : Schema) : Schema := .ofTables schema.name schema.tables
  { database with
    main := read database.main
    temp := read database.temp
    attached := database.attached.map read
    isRead := false
    sound := []
    segments := []
    unopened := database.schemas.flatMap fun schema =>
      (schema.tables.filter Table.isFullText).map fun table => (schema.name, table.name) }

/-- A database as a new connection finds it: only what its main schema stores is left. -/
def reopened (database : Database) : Database :=
  forget { main := database.main, condition := database.condition }

end Database

namespace Change

variable {α : Type}

def lift (result : Except Fault α) : Change α := ExceptT.mk (pure result)

def find (look : Database → Except Fault α) : Change α := do
  lift (look (← get))

def readCatalog : Change Unit := do
  let database ← get
  match database.condition with
  | .notADatabase => throw .notADatabase
  | .locked => if !database.isRead then throw .busy
  | .usable => set { database with isRead := true }

def wholly (change : Change α) : Change α := fun database =>
  match change database with
  | (.error fault, after) =>
    (.error fault, { after with
      main := database.main
      temp := database.temp
      attached := database.attached })
  | done => done

def touch (schema : String) : Change Unit := find fun database => database.touch schema

/-- A statement that is known to be sound runs at once, so nothing but the lock is noticed. If it does run
it is looked at again. -/
def resume (wording : Wording) : Change Unit := do
  let database ← get
  if database.sound.contains wording then
    touch database.main.name
    set { database with sound := database.sound.filter (· != wording) }

def start (wording : Wording) (schema : String) : Change Unit := do
  modify fun database =>
    if sameName schema database.main.name then { database with sound := wording :: database.sound }
    else database
  touch schema

def recheck : Change Unit := modify fun database => { database with sound := [] }

def within (schema : String) (edit : List Table → List Table) : Change Unit :=
  modify fun database => database.within schema edit

def use (schema : String) : Change Unit :=
  modify fun database =>
    { database with isTempUsed := database.isTempUsed || sameName schema database.temp.name }

def construct (made : Except Fault α) : Change α := do
  match made with
  | .ok result => return result
  | .error fault =>
    modify Database.forget
    throw fault

end Change

end TextQuery.Engine
