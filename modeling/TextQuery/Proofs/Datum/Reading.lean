import TextQuery.Datum.YamlReader
import TextQuery.Proofs.Datum.Entries
import TextQuery.Proofs.Engine.Keeping

set_option autoImplicit false

namespace TextQuery.Datum

open Engine

-- Neither a mapping nor one of the collections around.
def IsPlain : Datum → Prop
  | .mapping _ | .again _ => False
  | .leaf _ | .list _ | .set _ => True

-- A value within so many collections. Nothing is said of what is in lists, to which no keys lead.
inductive Sound : Nat → Datum → Prop
  | mapping {depth : Nat} {entries : Entries} (apart : Apart (entries.map Prod.fst))
      (within : ∀ entry ∈ entries, Sound (depth + 1) entry.2) : Sound depth (.mapping entries)
  | again {depth levels : Nat} (around : levels < depth) : Sound depth (.again levels)
  | plain {depth : Nat} {value : Datum} (is : value.IsPlain) : Sound depth value

variable {depth : Nat} {entries : Entries}

theorem sound_mapping_iff : Sound depth (.mapping entries) ↔
    Apart (entries.map Prod.fst) ∧ ∀ entry ∈ entries, Sound (depth + 1) entry.2 := by
  refine ⟨fun sound => ?_, fun ⟨apart, within⟩ => .mapping apart within⟩
  cases sound with
  | mapping apart within => exact ⟨apart, within⟩
  | plain is => exact is.elim

theorem Sound.deeper {value : Datum} (sound : Sound depth value) : Sound (depth + 1) value := by
  induction sound with
  | mapping apart _ ih => exact .mapping apart ih
  | again around => exact .again (Nat.lt_succ_of_lt around)
  | plain is => exact .plain is

namespace Yaml

end Yaml

end TextQuery.Datum
