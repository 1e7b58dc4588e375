import TextQuery.Engine.Answer
import TextQuery.Engine.Rows

set_option autoImplicit false

namespace TextQuery.Engine

open Text

inductive Building where
  | attach (schema : String)
  | detach (schema : String)
  | createTable (schema table : String) (declaration : TableDeclaration)
  | createFullText (schema table : String) (columns options : List String) (clause : String)
  | createView (schema view source : String)
  | insert (schema table : String) (rows : List (List Cell))
  | delete (schema table : String)
  | drop (schema table : String)
  | lock
  | unlock
deriving DecidableEq, Repr

namespace Building

def texts : Building → List String
  | .attach schema | .detach schema => [schema]
  | .createTable schema table declaration => [schema, declaration.sql table]
  | .createFullText schema table columns options clause =>
    schema :: table :: clause :: columns ++ options
  | .createView schema view source => [schema, view, source]
  | .insert _ _ [] => []
  | .insert schema table _ | .delete schema table | .drop schema table => [schema, table]
  | .lock | .unlock => []

end Building

namespace Change

def attachedLimit : Nat := 10

def attach (name : String) : Change Unit := do
  readCatalog
  let database ← get
  if database.attached.length ≥ attachedLimit then
    throw (.operational ("too many attached databases - max " ++ toString attachedLimit))
  if (database.schema? name).isSome then
    throw (.operational ("database " ++ name ++ " is already in use"))
  set { database with attached := database.attached ++ [Schema.ofTables name []] }

def detach (name : String) : Change Unit := do
  readCatalog
  let database ← get
  let missing := Fault.operational ("no such database: " ++ name)
  let kept := Fault.operational ("cannot detach database " ++ name)
  if sameName name database.main.name then throw kept
  if sameName name database.temp.name then
    -- The temporary schema is made when it is first used.
    throw (if database.isTempUsed then kept else missing)
  if (database.schema? name).isNone then throw missing
  forgetIndexes fun entry => sameName entry.1 name
  modify fun database => { database with
    attached := database.attached.filter fun schema => !sameName schema.name name }
  recheck

def setCondition (condition : Condition) : Change Unit :=
  modify fun database => { database with condition }

def build (building : Building) : Change Unit := do
  if building.texts.any (·.toList.contains '\x00') then throw .nulInText
  match building with
  | .attach schema => attach schema
  | .detach schema => detach schema
  | .createTable schema table declaration => createTable schema table declaration
  | .createFullText schema table columns options clause =>
    createVirtual schema table columns options clause
  | .createView schema view source => createView schema view source
  | .insert schema table rows => insert schema table rows
  | .delete schema table => delete schema table
  | .drop schema table => drop schema table
  | .lock => setCondition .locked
  | .unlock => setCondition .usable

end Change

end TextQuery.Engine
