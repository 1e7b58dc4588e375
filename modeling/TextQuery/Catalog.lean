import TextQuery.Engine.Run
import TextQuery.Text.Case

set_option autoImplicit false

namespace TextQuery.Catalog

open Engine

variable {σ : Type} [Engine σ]

def standing : List String := ["temp", "main"]

def lookupOrder (listed : List String) : List String :=
  -- The standing schemas come first however the engine lists them.
  standing ++ listed.filter fun name => !standing.contains (Text.lower name)

def schemaNames : Attempt σ (List String) := do
  return lookupOrder (← Attempt.ask .databaseList)

def canonical? (names : List String) (schema : String) : Option String :=
  names.find? fun name => Text.lower name == Text.lower schema

def ensureSchema (schema : String) : Attempt σ String := do
  match canonical? (← schemaNames) schema with
  | some name => return name
  | none => Attempt.fail (.noSuchSchema schema)

def tableExists (table schema : String) : Attempt σ Bool := Attempt.ask (.tableExists schema table)

def firstHolding (table : String) : List String → Attempt σ (Option String)
  | [] => return none
  | schema :: rest => do
    if ← tableExists table schema then return some schema else firstHolding table rest

def resolve (table : String) : Option String → Attempt σ String
  | some schema => do
    let name ← ensureSchema schema
    if ← tableExists table name then return name
    else Attempt.fail (.noSuchTableIn schema table)
  | none => do
    match ← firstHolding table (← schemaNames) with
    | some name => return name
    | none => Attempt.fail (.noSuchTable table)

def tableSql (table schema : String) : Attempt σ String := do
  return (← Attempt.ask (.tableSql schema table)).getD ""

def beforeInKey (a b : ColumnInfo) : Bool :=
  a.keyPosition < b.keyPosition || (a.keyPosition == b.keyPosition && a.name ≤ b.name)

def rowNumber : String := "rowid"

def keyColumns (columns : List ColumnInfo) : List String :=
  match columns.filter fun column => column.keyPosition != 0 with
  | [] => [rowNumber]
  | keyed => (keyed.mergeSort beforeInKey).map ColumnInfo.name

def primaryKeyColumns (table schema : String) : Attempt σ (List String) := do
  return keyColumns (← Attempt.ask (.tableInfo schema table))

end TextQuery.Catalog
