import TextQuery.Number.Binary64

set_option autoImplicit false

namespace TextQuery.Number

structure Decimal where
  digits : Nat
  exponent : Int
deriving DecidableEq, Repr

namespace Decimal

def powerOfTen (exponent : Int) : Nat × Nat :=
  if 0 ≤ exponent then (Nat.pow 10 exponent.toNat, 1) else (1, Nat.pow 10 (-exponent).toNat)

-- Drops the zeros at the end of the digits. The fuel bounds how many.
def trimmed : Nat → Decimal → Decimal
  | 0, number => number
  | fuel + 1, number =>
    if number.digits != 0 && number.digits % 10 == 0 then
      trimmed fuel ⟨number.digits / 10, number.exponent + 1⟩
    else number

def pointPlace (number : Decimal) : Int :=
  (Nat.toDigits 10 number.digits).length + number.exponent

end Decimal

namespace Binary64

def decimalPlaces (numerator denominator : Nat) : Int :=
  let whole := numerator / denominator
  if whole != 0 then (Nat.toDigits 10 whole).length
  else 1 - (Nat.toDigits 10 (denominator / numerator)).length
    + (if numerator * Nat.pow 10 (Nat.toDigits 10 (denominator / numerator)).length
          ≥ 10 * denominator then 1 else 0)

/-- The distances to the upper and to the lower end of the numbers that round to this one, in
quarters of its last place. The lower neighbour of a power of two is nearer. -/
def reach (mantissa : Nat) (exponent : Int) : Nat × Nat :=
  if mantissa == Nat.pow 2 (mantissaBits - 1) && exponent > leastExponent then (2, 1) else (2, 2)

def shortestOf (mantissa : Nat) (exponent : Int) (count : Nat) : Option Decimal :=
  let (num, den) := ratio mantissa exponent
  let scale := decimalPlaces num den - count
  let (up, down) := Decimal.powerOfTen scale
  -- The value is `num / den`; the grid is `up / down`; the quarter place is `quarter / (4 * den)`.
  let (quarter, _) := powerOfTwo exponent
  let (above, below) := reach mantissa exponent
  let unit := 4 * den * up
  let value := 4 * num * down
  let floor := value / unit
  let high := value + above * quarter * down
  let low := value - below * quarter * down
  let even := mantissa % 2 == 0
  let readsBack (point : Nat) : Bool :=
    if even then low ≤ point && point ≤ high else low < point && point < high
  let lower := floor * unit
  let upper := (floor + 1) * unit
  match readsBack lower && floor != 0, readsBack upper with
  | false, false => none
  | true, false => some ⟨floor, scale⟩
  | false, true => some ⟨floor + 1, scale⟩
  | true, true =>
    -- Both neighbours read back: the nearer one is taken, of two the even one.
    let down := value - lower
    let up := upper - value
    if down < up || (down == up && floor % 2 == 0) then some ⟨floor, scale⟩
    else some ⟨floor + 1, scale⟩

/-- The decimal number with the fewest digits that reads back, and of those the nearest. Seventeen
digits always suffice. -/
def shortest (mantissa : Nat) (exponent : Int) : Decimal :=
  if mantissa == 0 then ⟨0, 0⟩
  else ((List.range' 1 17).findSome? (shortestOf mantissa exponent)).elim ⟨0, 0⟩
    (Decimal.trimmed 400)

structure Layout where
  greatestPlace : Int
  pointBeforeExponent : Bool

def exponentText (exponent : Int) : String :=
  let digits := toString exponent.natAbs
  (if exponent < 0 then "e-" else "e+") ++ (if exponent.natAbs < 10 then "0" ++ digits else digits)

def layOut (layout : Layout) (number : Decimal) : String :=
  let digits := Nat.toDigits 10 number.digits
  let place := number.pointPlace
  if number.digits == 0 then "0.0"
  else if place ≤ -4 || place > layout.greatestPlace then
    let point := match digits.tail with
      | [] => if layout.pointBeforeExponent then ".0" else ""
      | rest => "." ++ String.ofList rest
    String.ofList (digits.take 1) ++ point ++ exponentText (place - 1)
  else if place ≤ 0 then
    "0." ++ String.ofList (List.replicate (-place).toNat '0' ++ digits)
  else
    let whole := digits.take place.toNat
    let fraction := digits.drop place.toNat
    String.ofList (whole ++ List.replicate (place.toNat - whole.length) '0') ++ "."
      ++ (if fraction.isEmpty then "0" else String.ofList fraction)

def sign (negative : Bool) : String := if negative then "-" else ""

def shortLayout : Layout := ⟨16, false⟩

def shortText : Binary64 → String
  | .finite negative mantissa exponent =>
    sign negative ++ layOut shortLayout (shortest mantissa exponent)
  | .infinite negative => sign negative ++ "inf"
  | .nan => "nan"

end Binary64

end TextQuery.Number
