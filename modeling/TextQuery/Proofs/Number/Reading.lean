import Mathlib.Data.List.Basic
import Mathlib.Data.List.TakeDrop
import TextQuery.Number.Digits

set_option autoImplicit false

namespace TextQuery.Number

theorem isDigit_of_mem_digitsOf {value : Nat} {c : Char} (inside : c ∈ digitsOf value) : isDigit c = true :=
  Nat.isDigit_of_mem_toDigits (by decide) (by decide) inside

theorem digitsOf_ne_nil (value : Nat) : digitsOf value ≠ [] := Nat.toDigits_ne_nil

theorem valueOf_digitsOf (value : Nat) : valueOf (digitsOf value) = value :=
  Nat.ofDigitChars_toDigits (by decide) (by decide)

theorem spanDigits_append {digits rest : List Char} (all : ∀ c ∈ digits, isDigit c = true)
    (ends : ∀ c, rest.head? = some c → isDigit c = false) : spanDigits (digits ++ rest) = (digits, rest) := by
  have stops : rest.takeWhile isDigit = [] ∧ rest.dropWhile isDigit = rest := by
    cases rest with
    | nil => exact ⟨rfl, rfl⟩
    | cons c rest => simp [ends c rfl]
  rw [spanDigits, List.span_eq_takeWhile_dropWhile, List.takeWhile_append_of_pos all,
    List.dropWhile_append_of_pos all, stops.1, stops.2, List.append_nil]

theorem spanDigits_digitsOf (value : Nat) {rest : List Char}
    (ends : ∀ c, rest.head? = some c → isDigit c = false) :
    spanDigits (digitsOf value ++ rest) = (digitsOf value, rest) :=
  spanDigits_append (fun _ => isDigit_of_mem_digitsOf) ends

theorem head_digitsOf (value : Nat) (rest : List Char) :
    ∃ c digits, digitsOf value ++ rest = c :: digits ∧ isDigit c = true := by
  cases digits : digitsOf value with
  | nil => exact absurd digits (digitsOf_ne_nil value)
  | cons c _ => exact ⟨c, _, rfl, isDigit_of_mem_digitsOf (digits ▸ List.mem_cons_self)⟩

-- By induction along the digits: none of them is a zero in front.
theorem head_digitsOf_ne_zero {value : Nat} (positive : 0 < value) : (digitsOf value).head? ≠ some '0' := by
  have single : ∀ digit < 10, 0 < digit → digit.digitChar ≠ '0' := by decide
  induction value using Nat.strongRecOn with
  | ind value ih =>
    by_cases short : value < 10
    · rw [digitsOf, Nat.toDigits_of_lt_base short, List.head?_cons]
      exact fun zero => single value short positive (Option.some.inj zero)
    · have front := ih (value / 10) (Nat.div_lt_self positive (by decide)) (by omega)
      rw [digitsOf, Nat.toDigits_of_base_le (by decide) (by omega)]
      rwa [digitsOf, ← List.head?_append_of_ne_nil _ Nat.toDigits_ne_nil] at front

theorem integerText_ofNat (value : Nat) : (integerText (.ofNat value)).toList = digitsOf value := by
  rw [integerText, show toString (Int.ofNat value) = value.repr from rfl, Nat.toList_repr]
  rfl

theorem integerText_negSucc (value : Nat) :
    (integerText (.negSucc value)).toList = '-' :: digitsOf (value + 1) := by
  rw [integerText, show toString (Int.negSucc value) = "-" ++ (value + 1).repr from rfl, String.toList_append,
    Nat.toList_repr]
  rfl

end TextQuery.Number
