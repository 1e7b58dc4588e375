import TextQuery.Engine.Table

set_option autoImplicit false

namespace TextQuery.Engine

open Text

namespace TableDeclaration

def numberedReferences (declaration : TableDeclaration) : List (Nat × Reference) :=
  (List.range declaration.references.length).zip declaration.references.reverse

def declaredName (declaration : TableDeclaration) (name : String) : String :=
  (declaration.column? name).elim name Column.name

end TableDeclaration

namespace Reference

def noAction : String := "NO ACTION"

def action : Option String → String
  | some action => String.ofList (action.toList.map Char.toUpper)
  | none => noAction

def placed (reference : Reference) : List (Nat × String × Option String) :=
  let destinations := match reference.destinations with
    | some names => names.map some
    | none => reference.columns.map fun _ => none
  (List.range reference.columns.length).zip (reference.columns.zip destinations)

def listed (declaration : TableDeclaration) (id : Nat) (reference : Reference) : List KeyColumn :=
  reference.placed.map fun (sequence, origin, destination) => {
    id
    sequence
    table := reference.table
    origin := declaration.declaredName origin
    destination
    onUpdate := action reference.onUpdate
    onDelete := action reference.onDelete
    matching := "NONE" }

abbrev Pairing := List (String × Column)

def pairNamed? (parent : TableDeclaration) (columns destinations : List String)
    (key : List String) : Option Pairing :=
  if key.length = columns.length then
    key.mapM fun name => do
      let column ← parent.column? name
      let pair ← (destinations.zip columns).find? fun pair => sameName pair.1 name
      return (pair.2, column)
  else none

def pairPrimary? (parent : TableDeclaration) (columns : List String) : Option Pairing :=
  if !parent.primaryKey.isEmpty && parent.primaryKey.length = columns.length then
    (columns.zip parent.primaryKey).mapM fun (origin, name) =>
      (parent.column? name).map fun column => (origin, column)
  else none

/-- How a key is compared with the rows of its parent. Its destinations have to be the primary key, or
columns that are declared unique. -/
def pairing? (reference : Reference) (parent : TableDeclaration) : Option Pairing :=
  match reference.destinations with
  | none => pairPrimary? parent reference.columns
  | some destinations =>
    -- Any order of the columns will do, but neither more nor fewer of them.
    let keys := (parent.primaryKey :: parent.unique).filter (!·.isEmpty)
    keys.findSome? (pairNamed? parent reference.columns destinations)

def mismatch (child : String) (reference : Reference) : Fault :=
  .operational ("foreign key mismatch - " ++ identifier child ++ " referencing "
    ++ identifier reference.table)

inductive Parent where
  | missing
  | found (pairing : Pairing) (declaration : TableDeclaration) (rows : List StoredRow)
deriving Repr

def parent (find : String → Option Table) (child : String) (reference : Reference) :
    Except Fault Parent :=
  match find reference.table with
  | none => .ok .missing
  | some table =>
    match table.body with
    | .ordinary declaration rows =>
      match reference.pairing? declaration with
      | some pairing => .ok (.found pairing declaration rows)
      | none => .error (mismatch child reference)
    | _ => .error (mismatch child reference)

def agrees (declaration : TableDeclaration) (pairing : Pairing) (values : List Cell)
    (row : StoredRow) : Bool :=
  (pairing.zip values).all fun ((_, column), value) =>
    Affinity.same (Affinity.compared column.type value) (declaration.cell row column.name)

def compared (reference : Reference) : Parent → List String
  | .missing => reference.columns
  | .found pairing _ _ => pairing.map Prod.fst

def isAnswered (values : List Cell) : Parent → Bool
  | .missing => false
  | .found pairing declaration rows => rows.any (agrees declaration pairing values)

/-- Whether a child row violates a key. A row with a missing value among its columns does not. -/
def isViolated (declaration : TableDeclaration) (row : StoredRow) (reference : Reference)
    (parent : Parent) : Bool :=
  -- A row with an open value refers to nothing.
  let values := declaration.cells row (reference.compared parent)
  !values.contains .null && !isAnswered values parent

end Reference

namespace Table

def parents (find : String → Option Table) (name : String) (declaration : TableDeclaration) :
    Except Fault (List (Nat × Reference × Reference.Parent)) :=
  declaration.numberedReferences.mapM fun (id, reference) => do
    return (id, reference, ← reference.parent find name)

def rowViolations (name : String) (declaration : TableDeclaration)
    (keys : List (Nat × Reference × Reference.Parent)) (row : StoredRow) : List Violation :=
  (keys.filter fun (_, reference, parent) => reference.isViolated declaration row parent).map
    fun (id, reference, _) =>
      ⟨name, if declaration.withoutRowid then none else some row.rowid, reference.table, id⟩

def violations (find : String → Option Table) (table : Table) : Except Fault (List Violation) :=
  match table.body with
  | .ordinary declaration rows => do
    let keys ← parents find table.name declaration
    return rows.flatMap (rowViolations table.name declaration keys)
  | _ => .ok []

def hasReferences (table : Table) : Bool :=
  match table.body with
  | .ordinary declaration _ => !declaration.references.isEmpty
  | _ => false

def keyColumns (table : Table) : List KeyColumn :=
  match table.body with
  | .ordinary declaration _ =>
    declaration.numberedReferences.flatMap fun (id, reference) => reference.listed declaration id
  | _ => []

end Table

end TextQuery.Engine
