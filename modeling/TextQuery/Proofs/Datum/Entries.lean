import TextQuery.Datum

set_option autoImplicit false

namespace TextQuery.Datum

def Apart (keys : List Leaf) : Prop := keys.Pairwise fun one other => one.same other = false

instance decidableApart (keys : List Leaf) : Decidable (Apart keys) :=
  inferInstanceAs (Decidable (keys.Pairwise fun one other => one.same other = false))

namespace Entries

variable {α : Type} {entries : Entries} {key other : Leaf} {value : Datum}

theorem get?_congr (same : key.same other = true) : entries.get? key = entries.get? other := by
  have alike (name : Leaf) : name.same key = name.same other :=
    Bool.eq_iff_iff.2 ⟨(Leaf.same_trans · same), (Leaf.same_trans · (Leaf.same_symm same))⟩
  simp only [get?, alike]

theorem exists_of_get? (found : entries.get? key = some value) :
    ∃ name, (name, value) ∈ entries ∧ name.same key = true := by
  obtain ⟨⟨name, held⟩, first, rfl⟩ := Option.map_eq_some_iff.1 found
  have same : name.same key = true := by simpa using List.find?_some first
  exact ⟨name, List.mem_of_find?_eq_some first, same⟩

theorem get?_of_mem (apart : Apart (entries.map Prod.fst)) (member : (key, value) ∈ entries)
    (like : key.same key = true) : entries.get? key = some value := by
  induction entries with
  | nil => cases member
  | cons entry rest ih =>
    obtain ⟨name, held⟩ := entry
    rw [List.map_cons, Apart, List.pairwise_cons] at apart
    rw [get?_cons]
    obtain here | later := List.mem_cons.1 member
    · cases here
      exact if_pos like
    · rw [if_neg (by rw [apart.1 key (List.mem_map_of_mem later)]; exact Bool.false_ne_true)]
      exact ih apart.2 later

-- A value that is put where it is already changes nothing.
theorem put_of_get? (found : entries.get? key = some value) : put key value entries = entries := by
  induction entries with
  | nil => cases found
  | cons entry rest ih =>
    obtain ⟨name, held⟩ := entry
    rw [get?_cons] at found
    rw [put]
    split at found
    · cases found
      exact if_pos ‹_›
    · rw [if_neg ‹_›, ih found]

end Entries

end TextQuery.Datum
