import TextQuery.Datum

set_option autoImplicit false

namespace TextQuery.Settings

open Datum

mutual

def mergeValue (base : Option Datum) : Datum → Datum
  | .mapping entries =>
    match base with
    | some (.mapping below) => .mapping (merge below entries)
    | _ => .mapping entries
  | .leaf value => .leaf value
  | .list items => .list items
  | .set members => .set members
  | .again levels => .again levels

def merge (base : Entries) : List (Leaf × Datum) → Entries
  | [] => base
  | (key, value) :: rest => merge (Entries.put key (mergeValue (Entries.get? base key) value) base) rest

end

abbrev Trail := List Entries

def Trail.into (trail : Trail) : Datum → Option Trail
  | .mapping entries => some (entries :: trail)
  | .again levels => if levels < trail.length then some (trail.drop levels) else none
  | _ => none

/-- Whether two mappings have ever further mappings at the same keys. The fuel bounds the keys. -/
def endless : (fuel : Nat) → (base override : Trail) → Bool
  | 0, _, _ => true
  | fuel + 1, base, override => (override.headD []).any fun (key, value) =>
    match (Entries.get? (base.headD []) key).bind base.into, override.into value with
    | some base, some override => endless fuel base override
    | _, _ => false

mutual

def mappings : Datum → Nat
  | .mapping entries => 1 + mappingsIn entries
  | .leaf _ | .list _ | .set _ | .again _ => 0

def mappingsIn : List (Leaf × Datum) → Nat
  | [] => 0
  | (_, value) :: rest => mappings value + mappingsIn rest

end

/-- Whether the merge of two mappings has no end. A longer way leads to the same two mappings again. -/
def mergesEndlessly (base override : Entries) : Bool :=
  endless (mappings (.mapping base) * mappings (.mapping override) + 1) [base] [override]

end TextQuery.Settings
