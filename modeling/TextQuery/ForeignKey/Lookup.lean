import TextQuery.Catalog
import TextQuery.ForeignKey

set_option autoImplicit false

namespace TextQuery.ForeignKey

open Engine

variable {σ : Type} [Engine σ]

def listedIds (columns : List KeyColumn) : List Int := (columns.map KeyColumn.id).eraseDups

def columnsOf (columns : List KeyColumn) (id : Int) : List KeyColumn :=
  (columns.filter fun column => column.id == id).mergeSort fun a b => a.sequence ≤ b.sequence

def named? (columns : List KeyColumn) : Option (List String) :=
  columns.mapM KeyColumn.destination

/-- The columns that a key points at: those of the primary key if it does not name them all. -/
def destinationsOf (columns : List KeyColumn) (table schema : String) :
    Attempt σ (List String) :=
  match named? columns with
  | some names => return names
  | none => Catalog.primaryKeyColumns table schema

def pairUp (columns : List KeyColumn) (destinations : List String) : List ColumnPair :=
  columns.zipWith (fun column destination => ⟨column.origin, destination⟩) destinations

def ofColumns (schema : String) (id : Int) : List KeyColumn → Attempt σ (Option ForeignKey)
  | [] => return none
  | first :: rest => do
    let destinations ← destinationsOf (first :: rest) first.table schema
    return some {
      id
      destinationTable := first.table
      mapping := pairUp (first :: rest) destinations
      onUpdate := first.onUpdate
      onDelete := first.onDelete
      matching := first.matching }

def ofListing (schema : String) (columns : List KeyColumn) : List Int → Attempt σ (List ForeignKey)
  | [] => return []
  | id :: rest => do
    let key ← ofColumns schema id (columnsOf columns id)
    let keys ← ofListing schema columns rest
    return key.toList ++ keys

def declared (table : String) (schema : Option String) : Attempt σ (List ForeignKey) := do
  let resolved ← Catalog.resolve table schema
  let columns ← Attempt.ask (.foreignKeyList resolved table)
  let keys ← ofListing resolved columns (listedIds columns)
  Attempt.debug ("Found " ++ toString keys.length ++ " foreign keys on " ++ resolved ++ "." ++ table)
  return keys

/-- The schema that a check looks at, and the violations in it. A check of all tables looks at the main
schema unless another is named. -/
def check (table schema : Option String) : Attempt σ (String × List Violation) := do
  let resolved ← match table, schema with
    | some table, schema => Catalog.resolve table schema
    | none, some schema => Catalog.ensureSchema schema
    -- Nothing is looked up here, so the name needs no check.
    | none, none => pure "main"
  return (resolved, ← Attempt.ask (.foreignKeyCheck resolved table))

def violations (table schema : Option String) : Attempt σ (List Violation) := do
  return (← check table schema).2

def columnList (columns : List String) : String := String.intercalate ", " columns

def describeKey (violation : Violation) (key : ForeignKey) : String :=
  " - from " ++ violation.originTable ++ "(" ++ columnList key.originColumns ++ ") to "
    ++ key.destinationTable ++ "(" ++ columnList key.destinationColumns ++ ")"

def describeRow : Option Row → String
  | none | some [] => ""
  | some row => ", in [" ++ row.describe ++ "]"

def describe (violation : Violation) (schema : String) : Attempt σ String := do
  let keys ← declared violation.originTable (some schema)
  let key := match keys.find? fun key => key.id == violation.foreignKeyId with
    | some key => describeKey violation key
    | none => ""
  let row ← match violation.originRowid with
    -- The row is read from the schema as it was named, not from the one that was resolved.
    | some rowid => Attempt.ask (.selectRow schema violation.originTable rowid)
    | none => pure none
  return "FOREIGN KEY constraint violation" ++ key ++ describeRow row

def ensureNone (table schema : Option String) : Attempt σ Unit := do
  match ← check table schema with
  | (_, []) => return ()
  | (resolved, violation :: _) =>
    let message ← describe violation resolved
    Attempt.debug ("Foreign key check failed: " ++ message)
    Attempt.fail (.violated message violation)

end TextQuery.ForeignKey
