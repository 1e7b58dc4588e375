import TextQuery.Number.Binary64
import TextQuery.Text.Loose

set_option autoImplicit false

namespace TextQuery

-- A day, a time that a clock shows somewhere, or a time with its zone. Days and microseconds are counted from
-- the beginning of the calendar, those of a time with a zone at offset zero.
inductive Stamp where
  | day (number : Int)
  | clock (microseconds : Int)
  | instant (microseconds : Int)
deriving DecidableEq, Repr

-- A scalar. What is no number is one and the same by its own sign, but is `stray` where it was computed.
inductive Leaf where
  | null
  | bool (value : Bool)
  | int (value : Int)
  | real (value : Number.Binary64)
  | stray
  | text (value : Loose)
  | moment (written : Loose) (stamp : Stamp)
  | bytes (content : List UInt8)
deriving DecidableEq, Repr, Inhabited

namespace Leaf

instance : Coe String Leaf := ⟨fun text => .text text⟩

-- What tells a key from other keys. Truth values are numbers among keys, and numbers and times are keys by
-- their value. A stray is told from all keys, itself included.
def key? : Leaf → Option Leaf
  | .stray => none
  | .bool value => some (.int (if value then 1 else 0))
  | .real value => some ((value.toInt?.map .int).getD (.real value))
  | .moment _ stamp => some (.moment "" stamp)
  | leaf => some leaf

def same (one other : Leaf) : Bool := one.key?.any fun key => other.key? == some key

theorem same_iff {one other : Leaf} :
    one.same other = true ↔ ∃ key, one.key? = some key ∧ other.key? = some key := by
  simp [same, Option.any_eq_true]

theorem same_symm {one other : Leaf} (same : one.same other = true) : other.same one = true := by
  obtain ⟨key, first, second⟩ := same_iff.1 same
  exact same_iff.2 ⟨key, second, first⟩

theorem same_trans {one other third : Leaf} (first : one.same other = true) (second : other.same third = true) :
    one.same third = true := by
  obtain ⟨key, is, middle⟩ := same_iff.1 first
  obtain ⟨key', middle', last⟩ := same_iff.1 second
  cases middle.symm.trans middle'
  exact same_iff.2 ⟨key, is, last⟩

theorem same_congr {one other : Leaf} (same : one.same other = true) (third : Leaf) :
    one.same third = other.same third :=
  Bool.eq_iff_iff.2 ⟨same_trans (same_symm same), same_trans same⟩

end Leaf

-- What a document of settings holds. A mapping keeps its entries in the order in which their keys first came.
-- What is `again` there is one of the lists and mappings around it: the innermost, or the one that many levels
-- further out.
inductive Datum where
  | leaf (value : Leaf)
  | list (items : List Datum)
  | set (members : List Leaf)
  | mapping (entries : List (Leaf × Datum))
  | again (levels : Nat)
deriving Inhabited, Repr

namespace Datum

@[match_pattern] protected abbrev null : Datum := .leaf .null
@[match_pattern] protected abbrev bool (value : Bool) : Datum := .leaf (.bool value)
@[match_pattern] protected abbrev int (value : Int) : Datum := .leaf (.int value)
@[match_pattern] protected abbrev text (value : Loose) : Datum := .leaf (.text value)

abbrev Entries := List (Leaf × Datum)

def Entries.get? (entries : Entries) (key : Leaf) : Option Datum :=
  (entries.find? fun entry => entry.1.same key).map Prod.snd

-- A key that comes again keeps its first form.
def Entries.put {α : Type} (key : Leaf) (value : α) : List (Leaf × α) → List (Leaf × α)
  | [] => [(key, value)]
  | entry :: rest =>
    if entry.1.same key then (entry.1, value) :: rest else entry :: Entries.put key value rest

theorem Entries.get?_cons (name : Leaf) (value : Datum) (rest : Entries) (key : Leaf) :
    Entries.get? ((name, value) :: rest) key = if name.same key then some value else Entries.get? rest key := by
  unfold get?
  rw [List.find?_cons]
  cases name.same key <;> rfl

theorem Entries.get?_put (entries : Entries) (key : Leaf) (value : Datum) (other : Leaf) :
    Entries.get? (Entries.put key value entries) other =
      if key.same other then some value else entries.get? other := by
  induction entries with
  | nil => exact get?_cons key value [] other
  | cons entry rest ih =>
    obtain ⟨name, old⟩ := entry
    rw [put]
    by_cases here : name.same key = true
    · rw [if_pos here, get?_cons, get?_cons, Leaf.same_congr here]
      split <;> rfl
    · rw [if_neg here, get?_cons, ih, get?_cons]
      by_cases found : key.same other = true
      · have apart : ¬name.same other = true :=
          fun same => here (Leaf.same_trans same (Leaf.same_symm found))
        rw [if_neg apart, if_pos found, if_pos found]
      · rw [if_neg found, if_neg found]

-- Null, false, zero and what is empty.
def isNothing : Datum → Bool
  | .leaf .null => true
  | .leaf (.bool value) => !value
  | .leaf (.int value) => value == 0
  | .leaf (.real value) => value.isZero
  | .leaf (.text value) => value.isEmpty
  | .leaf (.bytes content) => content.isEmpty
  | .leaf .stray | .leaf (.moment _ _) => false
  | .list items => items.isEmpty
  | .set members => members.isEmpty
  | .mapping entries => entries.isEmpty
  | .again _ => false

end Datum

end TextQuery
