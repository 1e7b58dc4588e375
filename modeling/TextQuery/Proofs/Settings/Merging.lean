import TextQuery.Proofs.Datum.Entries
import TextQuery.Settings.Merge

set_option autoImplicit false

namespace TextQuery

namespace Datum

def IsMapping (value : Datum) : Prop := ∃ entries, value = .mapping entries

def child? : Datum → Leaf → Option Datum
  | .mapping entries, key => Entries.get? entries key
  | _, _ => none

def at? (value : Datum) : List Leaf → Option Datum
  | [] => some value
  | key :: path => (value.child? key).bind fun child => child.at? path

/-- Every mapping that keys lead to has each of its keys once, and no key that is told from itself. -/
inductive KeysOnce : Datum → Prop
  | mapping {entries : Entries} (apart : Apart (entries.map Prod.fst))
      (like : ∀ entry ∈ entries, entry.1.same entry.1 = true) (within : ∀ entry ∈ entries, KeysOnce entry.2) :
      KeysOnce (.mapping entries)
  | other {value : Datum} (plain : ¬value.IsMapping) : KeysOnce value

theorem child?_of_not_isMapping {value : Datum} (plain : ¬value.IsMapping) (key : Leaf) :
    value.child? key = none := by
  unfold child?
  split
  · exact absurd ⟨_, rfl⟩ plain
  · rfl

theorem KeysOnce.apart {entries : Entries} (once : KeysOnce (.mapping entries)) : Apart (entries.map Prod.fst) := by
  cases once with
  | mapping apart => exact apart
  | other plain => exact absurd ⟨_, rfl⟩ plain

theorem KeysOnce.of_get? {entries : Entries} {key : Leaf} {value : Datum} (once : KeysOnce (.mapping entries))
    (found : entries.get? key = some value) : KeysOnce value := by
  obtain ⟨name, member, -⟩ := Entries.exists_of_get? found
  cases once with
  | mapping _ _ within => exact within _ member
  | other plain => exact absurd ⟨_, rfl⟩ plain

end Datum

namespace Settings

open Datum

variable {base override entries : Entries} {key : Leaf} {value : Datum} {below : Option Datum}

theorem mergeValue_mapping {under atop : Entries} :
    mergeValue (some (.mapping under)) (.mapping atop) = .mapping (merge under atop) := by
  rw [mergeValue]

-- What is not merged comes through as it is.
theorem mergeValue_of_not (apart : ¬(value.IsMapping ∧ ∃ under, below = some under ∧ under.IsMapping)) :
    mergeValue below value = value := by
  cases value with
  | mapping atop =>
    unfold mergeValue
    split
    · rename_i under
      exact absurd ⟨⟨atop, rfl⟩, .mapping under, rfl, under, rfl⟩ apart
    · rfl
  | _ => rw [mergeValue]

theorem get?_merge (apart : Apart (override.map Prod.fst)) (key : Leaf) :
    (merge base override).get? key =
      match override.get? key with
      | some value => some (mergeValue (base.get? key) value)
      | none => base.get? key := by
  induction override generalizing base with
  | nil => rfl
  | cons entry rest ih =>
    obtain ⟨name, value⟩ := entry
    rw [List.map_cons, Apart, List.pairwise_cons] at apart
    rw [merge, ih apart.2, Entries.get?_put, Entries.get?_cons]
    by_cases here : name.same key = true
    · have later : Entries.get? rest key = none := by
        cases found : Entries.get? rest key with
        | none => rfl
        | some other =>
          obtain ⟨again, member, same⟩ := Entries.exists_of_get? found
          have twice := Leaf.same_trans here (Leaf.same_symm same)
          rw [apart.1 again (List.mem_map_of_mem member)] at twice
          cases twice
      rw [later, if_pos here, if_pos here, Entries.get?_congr here]
    · rw [if_neg here, if_neg here]

-- What a mapping laid over a mapping has at a key.
theorem child?_mergeValue {under atop : Entries} (apart : Apart (atop.map Prod.fst)) (key : Leaf) :
    (mergeValue (some (.mapping under)) (.mapping atop)).child? key =
      match atop.get? key with
      | some value => some (mergeValue (under.get? key) value)
      | none => under.get? key := by
  rw [mergeValue_mapping]
  exact get?_merge apart key

theorem bind_at?_cons (base : Option Datum) (key : Leaf) (path : List Leaf) :
    base.bind (·.at? (key :: path)) = (base.bind (·.child? key)).bind (·.at? path) := by
  rw [Option.bind_assoc]
  rfl

-- A value that is laid over nothing, or over what is no mapping, comes through as it is.
theorem mergeValue_of_none (plain : ∀ under, below = some under → ¬under.IsMapping) :
    mergeValue below value = value :=
  mergeValue_of_not fun ⟨_, under, is, isMapping⟩ => plain under is isMapping

-- By induction on the path: at each of its keys, what the override has there is laid over what the base has.
theorem at?_mergeValue {base : Option Datum} {override value : Datum} (once : KeysOnce override)
    (path : List Leaf) (found : override.at? path = some value) :
    (mergeValue base override).at? path = some (mergeValue (base.bind (·.at? path)) value) := by
  induction path generalizing base override with
  | nil =>
    cases found
    cases base <;> rfl
  | cons key path ih =>
    rw [bind_at?_cons]
    obtain ⟨child, here, further⟩ := Option.bind_eq_some_iff.1 found
    by_cases merges : ∃ under, base = some (.mapping under)
    · obtain ⟨under, rfl⟩ := merges
      cases override with
      | mapping atop =>
        have within := once.of_get? here
        have merged : (mergeValue (some (.mapping under)) (.mapping atop)).child? key =
            some (mergeValue (Entries.get? under key) child) := by
          rw [child?_mergeValue once.apart, show Entries.get? atop key = some child from here]
        rw [at?, merged]
        exact ih within further
      | _ => cases here
    · have plain : ∀ under, base = some under → ¬under.IsMapping :=
        fun under is ⟨entries, same⟩ => merges ⟨entries, is.trans (congrArg some same)⟩
      have nothing : base.bind (·.child? key) = none := by
        cases base with
        | none => rfl
        | some under => exact child?_of_not_isMapping (plain under rfl) key
      rw [mergeValue_of_none plain, nothing, mergeValue_of_none (by simp)]
      exact found

/-- An override says nothing about a path if it has nothing there, and on the way there only mappings that are
not laid over anything else. -/
structure Untouched (base : Option Datum) (override : Datum) (path : List Leaf) : Prop where
  absent : override.at? path = none
  mappings : ∀ before, before <+: path → ∀ value, override.at? before = some value → value.IsMapping
  beneath : ∀ before, before <+: path → (override.at? before).isSome →
    ∀ under, base.bind (·.at? before) = some under → under.IsMapping

theorem untouched_cons {under atop : Entries} {path : List Leaf} (found : atop.get? key = some value) :
    Untouched (some (.mapping under)) (.mapping atop) (key :: path) ↔ Untouched (under.get? key) value path := by
  have within (path : List Leaf) : Datum.at? (.mapping atop) (key :: path) = value.at? path := by
    rw [at?, child?, found]
    rfl
  constructor
  · rintro ⟨absent, mappings, above⟩
    rw [within] at absent
    refine ⟨absent, fun before earlier => ?_, fun before earlier => ?_⟩
    · rw [← within]
      exact mappings (key :: before) (List.cons_prefix_cons.2 ⟨rfl, earlier⟩)
    · rw [← within]
      exact above (key :: before) (List.cons_prefix_cons.2 ⟨rfl, earlier⟩)
  · rintro ⟨absent, mappings, above⟩
    refine ⟨(within path).trans absent, fun before earlier => ?_, fun before earlier => ?_⟩
    · obtain rfl | ⟨rest, rfl, inside⟩ := List.prefix_cons_iff.1 earlier
      · rintro _ ⟨⟩
        exact ⟨atop, rfl⟩
      · rw [within]
        exact mappings rest inside
    · obtain rfl | ⟨rest, rfl, inside⟩ := List.prefix_cons_iff.1 earlier
      · rintro - _ ⟨⟩
        exact ⟨under, rfl⟩
      · rw [within]
        exact above rest inside

-- A key that the override does not have.
theorem untouched_of_missing {under atop : Entries} (missing : atop.get? key = none) (path : List Leaf) :
    Untouched (some (.mapping under)) (.mapping atop) (key :: path) := by
  have nothing (path : List Leaf) : Datum.at? (.mapping atop) (key :: path) = none := by
    rw [at?, child?, missing]
    rfl
  refine ⟨nothing path, fun before earlier => ?_, fun before earlier => ?_⟩
  · obtain rfl | ⟨rest, rfl, -⟩ := List.prefix_cons_iff.1 earlier
    · rintro _ ⟨⟩
      exact ⟨atop, rfl⟩
    · rw [nothing]
      rintro _ ⟨⟩
  · obtain rfl | ⟨rest, rfl, -⟩ := List.prefix_cons_iff.1 earlier
    · rintro - _ ⟨⟩
      exact ⟨under, rfl⟩
    · rw [nothing]
      rintro ⟨⟩

-- By induction on the path: what an override says nothing about is as it was, and where it takes away the mappings
-- on the way there is nothing left.
theorem at?_mergeValue_of_absent {base : Option Datum} {override : Datum} (once : KeysOnce override)
    (path : List Leaf) (absent : override.at? path = none) :
    (Untouched base override path → (mergeValue base override).at? path = base.bind (·.at? path)) ∧
      (¬Untouched base override path → (mergeValue base override).at? path = none) := by
  induction path generalizing base override with
  | nil => cases absent
  | cons key path ih =>
    by_cases merges : override.IsMapping ∧ ∃ under, base = some under ∧ under.IsMapping
    · obtain ⟨⟨atop, rfl⟩, _, rfl, under, rfl⟩ := merges
      have child := @child?_mergeValue under atop once.apart key
      cases here : Entries.get? atop key with
      | none =>
        have kept : (mergeValue (some (.mapping under)) (.mapping atop)).at? (key :: path) =
            Datum.at? (.mapping under) (key :: path) := by
          rw [at?, child, here]
          rfl
        exact ⟨fun _ => kept, fun touched => absurd (untouched_of_missing here path) touched⟩
      | some value =>
        have further : value.at? path = none := by
          rw [at?, child?, here] at absent
          exact absent
        rw [untouched_cons here, bind_at?_cons, at?, child, here]
        exact ih (once.of_get? here) further
    · rw [mergeValue_of_not merges, absent]
      refine ⟨fun untouched => ?_, fun _ => rfl⟩
      have isMapping := untouched.mappings [] List.nil_prefix _ rfl
      cases base with
      | none => rfl
      | some under => exact absurd ⟨isMapping, under, rfl, untouched.beneath [] List.nil_prefix rfl _ rfl⟩ merges

theorem merge_of_settled (settled : ∀ entry ∈ override,
      ∃ value, entries.get? entry.1 = some value ∧ mergeValue (some value) entry.2 = value) :
    merge entries override = entries := by
  induction override with
  | nil => rfl
  | cons entry rest ih =>
    obtain ⟨⟨value, found, same⟩, later⟩ := List.forall_mem_cons.1 settled
    obtain ⟨key, atop⟩ := entry
    rw [merge, found, same, Entries.put_of_get? found, ih later]

theorem mergeValue_again (once : KeysOnce value) (below : Option Datum) :
    mergeValue (some (mergeValue below value)) value = mergeValue below value := by
  induction once generalizing below with
  | other plain =>
    rename_i value
    have same (base : Option Datum) : mergeValue base value = value := mergeValue_of_not fun merges => plain merges.1
    rw [same, same]
  | @mapping atop apart like _ ih =>
    have again {entries : Entries} (settled : ∀ entry ∈ atop, ∃ below,
        entries.get? entry.1 = some (mergeValue below entry.2)) : merge entries atop = entries := by
      refine merge_of_settled fun entry member => ?_
      obtain ⟨below, found⟩ := settled entry member
      exact ⟨_, found, ih entry member below⟩
    by_cases merges : ∃ under, below = some (.mapping under)
    · obtain ⟨under, rfl⟩ := merges
      rw [mergeValue_mapping, mergeValue_mapping, again fun entry member => ?_]
      refine ⟨Entries.get? under entry.1, ?_⟩
      rw [get?_merge apart, Entries.get?_of_mem apart member (like entry member)]
    · have plain : mergeValue below (.mapping atop) = .mapping atop :=
        mergeValue_of_none fun under is ⟨entries, same⟩ => merges ⟨entries, is.trans (congrArg some same)⟩
      rw [plain, mergeValue_mapping, again fun entry member => ?_]
      exact ⟨none, by rw [Entries.get?_of_mem apart member (like entry member), mergeValue_of_none (by simp)]⟩

/-- What comes of settings laid over others, at every path. Where the override has something that is no mapping,
or a mapping where the base has none, it is that; where both have mappings it is one laid over the other; what the
override says nothing about is as the base has it; and there is nothing else. Laying the override over the result
changes nothing. -/
theorem merge_settled (base override : Entries) (once : KeysOnce (.mapping override)) (path : List Leaf) :
    let under := Datum.mapping base
    let atop := Datum.mapping override
    let merged := Datum.mapping (merge base override)
    (∀ value, atop.at? path = some value →
        (¬value.IsMapping ∨ ∀ below, under.at? path = some below → ¬below.IsMapping) →
      merged.at? path = some value) ∧
    (∀ below above, under.at? path = some (.mapping below) → atop.at? path = some (.mapping above) →
      merged.at? path = some (.mapping (merge below above))) ∧
    (Untouched (some under) atop path → merged.at? path = under.at? path) ∧
    (∀ value, merged.at? path = some value →
      (atop.at? path).isSome ∨ Untouched (some under) atop path ∧ under.at? path = some value) ∧
    merge (merge base override) override = merge base override := by
  intro under atop merged
  have laid : mergeValue (some under) atop = merged := mergeValue_mapping
  refine ⟨fun value found apart => ?_, fun below above foundBelow foundAbove => ?_, fun untouched => ?_,
    fun value found => ?_, ?_⟩
  · rw [← laid, at?_mergeValue once path found, mergeValue_of_not]
    rintro ⟨isMapping, below, is, also⟩
    exact apart.elim (· isMapping) (· below is also)
  · rw [← laid, at?_mergeValue once path foundAbove, Option.bind_some, foundBelow, mergeValue_mapping]
  · rw [← laid, (at?_mergeValue_of_absent once path untouched.absent).1 untouched]
    rfl
  · cases above : atop.at? path with
    | some value => exact .inl rfl
    | none =>
      obtain ⟨kept, gone⟩ := @at?_mergeValue_of_absent (some under) atop once path above
      rw [laid, found] at kept gone
      have untouched : Untouched (some under) atop path :=
        Classical.byContradiction fun touched => Option.some_ne_none _ (gone touched)
      exact .inr ⟨untouched, (kept untouched).symm⟩
  · have again := mergeValue_again once (some under)
    rw [laid, mergeValue_mapping] at again
    exact Datum.mapping.inj again

-- A null within a mapping that both have, and a mapping over a number.
theorem merge_settled_shared :
    let base : Entries := [("a", .mapping [("x", .int 1), ("y", .int 2)]), ("b", .int 3)]
    let override : Entries := [("a", .mapping [("x", .null)]), ("b", .mapping [("c", .list [])])]
    let merged := Datum.mapping (merge base override)
    KeysOnce (.mapping override) ∧
    merged.at? ["a", "x"] = some .null ∧ merged.at? ["a", "y"] = some (.int 2) ∧
    merged.at? ["a"] = some (.mapping [("x", .null), ("y", .int 2)]) ∧
    merged.at? ["b"] = some (.mapping [("c", .list [])]) ∧ merged.at? ["b", "d"] = none ∧
    merge (merge base override) override = merge base override := by
  intro base override merged
  have null : ¬(Datum.null).IsMapping := by rintro ⟨_, ⟨⟩⟩
  have list : ¬(Datum.list []).IsMapping := by rintro ⟨_, ⟨⟩⟩
  have once : KeysOnce (.mapping override) :=
    .mapping (by decide) (by decide) (by simpa [override] using
      ⟨.mapping (by decide) (by decide) (by simpa using .other null),
        .mapping (by decide) (by decide) (by simpa using .other list)⟩)
  have settled := merge_settled base override once
  refine ⟨once, (settled ["a", "x"]).1 .null rfl (.inl null), (settled ["a", "y"]).2.2.1 ?_,
    (settled ["a"]).2.1 _ _ rfl rfl, (settled ["b"]).1 _ rfl (.inr ?_), ?_, (settled []).2.2.2.2⟩
  · exact (untouched_cons rfl).2 (untouched_of_missing rfl [])
  · rintro _ ⟨⟩ ⟨_, ⟨⟩⟩
  · cases found : merged.at? ["b", "d"] with
    | none => rfl
    | some value =>
      obtain touched | ⟨-, there⟩ := (settled ["b", "d"]).2.2.2.1 value found
      · cases touched
      · cases there

end Settings

end TextQuery
