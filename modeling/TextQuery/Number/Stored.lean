import TextQuery.Number.Arithmetic
import TextQuery.Number.Digits
import TextQuery.Number.Extended
import TextQuery.Number.Shortest

-- Decimal texts of numbers as columns store them. Both directions work with mantissas of 64 bits and round
-- after every step, so neither always gives the nearest number.

set_option autoImplicit false

namespace TextQuery.Number

structure Spelling where
  negative : Bool
  whole : List Char
  fraction : List Char
  power : Int
deriving DecidableEq, Repr

namespace Spelling

def powerOf (digits : List Char) : Nat :=
  digits.foldl (fun power c => if power < 10000 then 10 * power + digitValue c else 10000) 0

def digitsLimit : Nat := (Nat.pow 2 63 - 10) / 10

def takeWhole (significand : Nat × Int) (c : Char) : Nat × Int :=
  if significand.1 < digitsLimit then (10 * significand.1 + digitValue c, significand.2)
  else (significand.1, significand.2 + 1)

def takeFraction (significand : Nat × Int) (c : Char) : Nat × Int :=
  if significand.1 < digitsLimit then (10 * significand.1 + digitValue c, significand.2 - 1)
  else significand

def significand (number : Spelling) : Nat × Int :=
  number.fraction.foldl takeFraction (number.whole.foldl takeWhole (0, 0))

def multiplied : Nat → Nat → Nat × Nat
  | 0, value => (value, 0)
  | power + 1, value =>
    if value ≥ (Nat.pow 2 63 - 1) / 10 then (value, power + 1) else multiplied power (10 * value)

def divided : Nat → Nat → Nat × Nat
  | 0, value => (value, 0)
  | power + 1, value =>
    if value % 10 != 0 then (value, power + 1) else divided power (value / 10)

def lastPower : Binary64 := .ofDecimal false 1 308

def scaledUp (negative : Bool) (value power : Nat) : Binary64 :=
  let digits := Extended.ofNat value
  if power == 0 then digits.toBinary64 negative
  else if power ≤ 307 then (digits.mul (.powerOfTen power)).toBinary64 negative
  else if power < 342 then
    ((digits.mul (.powerOfTen (power - 308))).toBinary64 negative).mul lastPower
  else .infinite negative

def scaledDown (negative : Bool) (value power : Nat) : Binary64 :=
  let digits := Extended.ofNat value
  if power == 0 then digits.toBinary64 negative
  else if power ≤ 307 then (digits.div (.powerOfTen power)).toBinary64 negative
  else if power < 342 then
    ((digits.div (.powerOfTen (power - 308))).toBinary64 negative).div lastPower
  else .zero negative

def toBinary64 (number : Spelling) : Binary64 :=
  let (value, shift) := number.significand
  let power := number.power + shift
  if value == 0 then .zero number.negative
  else if 0 ≤ power then
    let (value, power) := multiplied power.toNat value
    scaledUp number.negative value power
  else
    let (value, power) := divided (-power).toNat value
    scaledDown number.negative value power

end Spelling

namespace Binary64

def widen (x : Extended) (factor : Extended) (step : Nat) :
    Nat → Extended × Nat → Extended × Nat
  | 0, scale => scale
  | fuel + 1, (scale, places) =>
    if (factor.mul scale).atMost x then widen x factor step fuel (scale.mul factor, places + step)
    else (scale, places)

def raise (bound factor : Extended) (step : Nat) : Nat → Extended × Int → Extended × Int
  | 0, x => x
  | fuel + 1, (x, places) =>
    if bound.atMost x then (x, places) else raise bound factor step fuel (x.mul factor, places - step)

def nearDecimal (digits : Nat) (exponent : Int) : Extended :=
  .ofMagnitude (.ofDecimal false digits exponent)

def normalize (x : Extended) : Extended × Int :=
  -- No number has more than 309 digits before the point or 324 zeros after it.
  let scale := widen x (nearDecimal 1 100) 100 4 (.ofNat 1, 0)
  let scale := widen x (nearDecimal 1 10) 10 16 scale
  let (scale, places) := widen x (.ofNat 10) 1 16 scale
  let small := raise (nearDecimal 1 (-8)) (nearDecimal 1 8) 8 64 (x.div scale, places)
  raise (.ofNat 1) (.ofNat 10) 1 16 small

def leadingDigits : Nat → Extended → Nat → Nat
  | 0, _, digits => digits
  | count + 1, x, digits =>
    leadingDigits count ((x.sub (.ofNat x.floor)).mul (.ofNat 10)) (10 * digits + x.floor)

def halfUnit : Extended :=
  .ofMagnitude ((Binary64.ofDecimal false 5 (-5)).mul (.ofDecimal false 1 (-10)))

def toFifteen (mantissa : Nat) (exponent : Int) : Decimal :=
  if mantissa == 0 then ⟨0, 0⟩
  else
    let (x, places) := normalize ⟨mantissa, exponent⟩
    let x := x.add halfUnit
    let (x, places) :=
      if (Extended.ofNat 10).atMost x then (x.mul (nearDecimal 1 (-1)), places + 1) else (x, places)
    Decimal.trimmed 15 ⟨leadingDigits 15 x 0, places - 14⟩

def storedLayout : Layout := ⟨15, true⟩

def storedText : Binary64 → String
  | .finite negative mantissa exponent =>
    sign (negative && mantissa != 0) ++ layOut storedLayout (toFifteen mantissa exponent)
  | .infinite negative => sign negative ++ "Inf"
  | .nan => "NaN"

end Binary64

end TextQuery.Number
