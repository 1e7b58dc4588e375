import TextQuery.Proofs.Datum.Reading
import TextQuery.Proofs.Settings.Merging
import TextQuery.Settings.Files

set_option autoImplicit false

namespace TextQuery

namespace Datum

mutual

-- Whether keys lead back to a mapping around. A key that is told from itself leads nowhere.
def turns : Datum → Bool
  | .again _ => true
  | .mapping entries => turnsIn entries
  | .leaf _ | .list _ | .set _ => false

def turnsIn : List (Leaf × Datum) → Bool
  | [] => false
  | (key, value) :: rest => key.same key && value.turns || turnsIn rest

end

theorem turnsIn_iff {entries : Entries} :
    turnsIn entries = true ↔ ∃ entry ∈ entries, entry.1.same entry.1 = true ∧ entry.2.turns = true := by
  induction entries with
  | nil => simp [turnsIn]
  | cons entry rest ih => simp [turnsIn, ih]

end Datum

namespace Settings

open Datum

variable {base override outer : Trail} {root entries : Entries} {text : String}

/-- A mapping within a sound root, with those around it, from which keys lead back. -/
inductive Trail.Turning : Trail → Prop
  | root {entries : Entries} (sound : Sound 0 (.mapping entries))
      (turns : (Datum.mapping entries).turns = true) : Turning [entries]
  | into {key : Leaf} {entries next : Entries} {outer : Trail} (around : Turning (next :: outer))
      (member : (key, .mapping entries) ∈ next) (turns : (Datum.mapping entries).turns = true) :
      Turning (entries :: next :: outer)

theorem Trail.Turning.sound (turning : Turning (entries :: outer)) : Sound outer.length (.mapping entries) := by
  generalize is : entries :: outer = trail at turning
  induction turning generalizing entries outer with
  | root sound =>
    cases is
    exact sound
  | into _ member _ ih =>
    cases is
    exact (sound_mapping_iff.1 (ih rfl)).2 _ member

theorem Trail.Turning.turns (turning : Turning (entries :: outer)) : (Datum.mapping entries).turns = true := by
  cases turning with
  | root _ turns => exact turns
  | into _ _ turns => exact turns

theorem Trail.Turning.drop {trail : Trail} (turning : Turning trail) {levels : Nat} (within : levels < trail.length) :
    Turning (trail.drop levels) := by
  induction levels generalizing trail with
  | zero => exact turning
  | succ levels ih =>
    cases turning with
    | root => simp at within
    | into around => exact ih around (by simpa using within)

-- A way on, within the same mappings or to one further in.
theorem Trail.Turning.step (turning : Turning (entries :: outer)) :
    ∃ key value next inside, (key, value) ∈ entries ∧ key.same key = true ∧
      Trail.into (entries :: outer) value = some (next :: inside) ∧ Turning (next :: inside) := by
  have turns := turning.turns
  rw [Datum.turns] at turns
  obtain ⟨⟨key, value⟩, member, like, turns⟩ := turnsIn_iff.1 turns
  cases value with
  | mapping inner => exact ⟨key, _, inner, entries :: outer, member, like, rfl, .into turning member turns⟩
  | again levels =>
    have sound := (sound_mapping_iff.1 turning.sound).2 _ member
    have within : levels < (entries :: outer).length := by
      cases sound with
      | again around => exact around
      | plain is => exact is.elim
    have turning := turning.drop within
    have back : Trail.into (entries :: outer) (.again levels) = some ((entries :: outer).drop levels) := if_pos within
    cases is : (entries :: outer).drop levels with
    | nil => exact absurd (List.drop_eq_nil_iff.1 is) (Nat.not_le_of_lt within)
    | cons next inside => exact ⟨key, _, next, inside, member, like, is ▸ back, is ▸ turning⟩
  | _ => cases turns

-- Where a setting is looked for, all mappings are alike.
def flat : Datum → Datum
  | .mapping _ => .mapping []
  | value => value

def Alike (entries others : Entries) : Prop :=
  ∀ field : Leaf, (entries.get? field).map flat = (others.get? field).map flat

inductive AlikeGroup : Option Datum → Option Datum → Prop
  | same {group : Option Datum} : AlikeGroup group group
  | mapping {entries others : Entries} (alike : Alike entries others) :
      AlikeGroup (some (.mapping entries)) (some (.mapping others))

section

variable {α : Type} {others other : Entries}

theorem Alike.map_get? (alike : Alike entries others) {next : Datum → α}
    (same : ∀ value, next (flat value) = next value) (field : Leaf) :
    (entries.get? field).map next = (others.get? field).map next := by
  have flattened (entries : Entries) : (entries.get? field).map next = ((entries.get? field).map flat).map next := by
    rw [Option.map_map]
    exact congrArg (Option.map · _) (funext fun value => (same value).symm)
  rw [flattened, flattened, alike field]

theorem Alike.required (alike : Alike entries others) {next : Datum → Check α}
    (same : ∀ value, next (flat value) = next value) (field key : String) :
    (requiredValue entries field key >>= next) = (requiredValue others field key >>= next) := by
  have mapped (entries : Entries) : (requiredValue entries field key >>= next) =
      ((entries.get? field).map next).getD (.error (.missing key)) := by
    unfold requiredValue
    cases entries.get? field <;> rfl
  rw [mapped, mapped, alike.map_get? same]

theorem Alike.getD (alike : Alike entries others) {next : Datum → α} (same : ∀ value, next (flat value) = next value)
    (field : String) (default : Datum) :
    next ((entries.get? field).getD default) = next ((others.get? field).getD default) := by
  rw [← Option.getD_map next, ← Option.getD_map next, alike.map_get? same]

variable (alike : ∀ group : Leaf, AlikeGroup (root.get? group) (other.get? group))
include alike

end

def Gives {α : Type} (answer : Except Failure α) (kind : α → Bool) : Prop :=
  ∃ value, answer = .ok value ∧ kind value = true

instance decidableGives {α : Type} (answer : Except Failure α) (kind : α → Bool) : Decidable (Gives answer kind) :=
  match answer with
  | .error _ => .isFalse fun ⟨_, nothing, _⟩ => by cases nothing
  | .ok value =>
    if is : kind value = true then .isTrue ⟨value, rfl, is⟩
    else .isFalse fun ⟨_, same, other⟩ => is (Except.ok.inj same ▸ other)

end Settings

end TextQuery
