
set_option autoImplicit false

namespace TextQuery.Number

/-- A number of the format. A finite one is the mantissa times two to the exponent; the mantissa lies
below `2 ^ 53`, and at or above `2 ^ 52` unless the exponent is the least one. -/
inductive Binary64 where
  | finite (negative : Bool) (mantissa : Nat) (exponent : Int)
  | infinite (negative : Bool)
  | nan
deriving DecidableEq, Repr, Inhabited

namespace Binary64

def leastExponent : Int := -1074
def greatestExponent : Int := 971
def mantissaBits : Nat := 53

def zero (negative : Bool) : Binary64 := .finite negative 0 leastExponent

def isZero : Binary64 → Bool
  | .finite _ 0 _ => true
  | _ => false

def powerOfTwo (exponent : Int) : Nat × Nat :=
  if 0 ≤ exponent then (Nat.pow 2 exponent.toNat, 1) else (1, Nat.pow 2 (-exponent).toNat)

def roundDiv (numerator denominator : Nat) : Nat :=
  let floor := numerator / denominator
  let rest := 2 * (numerator % denominator)
  if rest < denominator || (rest == denominator && floor % 2 == 0) then floor else floor + 1

/-- The mantissa of at most so many bits, and its exponent, whose value is nearest to a positive
fraction. The exponent is not below the least one. -/
def nearest (bits : Nat) (least : Int) (numerator denominator : Nat) : Nat × Int :=
  -- The fraction lies between two to the power `size - 1` and two to the power `size + 1`.
  let size : Int := (Nat.log2 numerator : Int) - (Nat.log2 denominator : Int)
  let (up, down) := powerOfTwo size
  let size := if denominator * up ≤ numerator * down then size else size - 1
  let exponent := max (size - (bits - 1)) least
  let (up, down) := powerOfTwo exponent
  let mantissa := roundDiv (numerator * down) (denominator * up)
  if mantissa == Nat.pow 2 bits then (Nat.pow 2 (bits - 1), exponent + 1) else (mantissa, exponent)

def ofRatio (negative : Bool) (numerator denominator : Nat) : Binary64 :=
  if numerator == 0 then zero negative
  else
    let (mantissa, exponent) := nearest mantissaBits leastExponent numerator denominator
    if exponent > greatestExponent then .infinite negative
    else .finite negative mantissa exponent

/-- The number nearest to `digits` times ten to the exponent. Numbers far outside the range of the
format are told by their count of digits. -/
def ofDecimal (negative : Bool) (digits : Nat) (exponent : Int) : Binary64 :=
  let places : Int := (Nat.toDigits 10 digits).length + exponent
  if digits == 0 || places < -400 then zero negative
  else if places > 400 then .infinite negative
  else if 0 ≤ exponent then ofRatio negative (digits * Nat.pow 10 exponent.toNat) 1
  else ofRatio negative digits (Nat.pow 10 (-exponent).toNat)

def ofInt (value : Int) : Binary64 := ofRatio (value < 0) value.natAbs 1

def ratio (mantissa : Nat) (exponent : Int) : Nat × Nat :=
  let (up, down) := powerOfTwo exponent
  (mantissa * up, down)

def toInt? : Binary64 → Option Int
  | .finite negative mantissa exponent =>
    let (numerator, denominator) := ratio mantissa exponent
    if numerator % denominator == 0 then
      let value : Int := (numerator / denominator : Nat)
      some (if negative then -value else value)
    else none
  | .infinite _ | .nan => none

def same : Binary64 → Binary64 → Bool
  | .finite n m e, .finite n' m' e' => (m == 0 && m' == 0) || (n == n' && m == m' && e == e')
  | .infinite n, .infinite n' => n == n'
  | _, _ => false

end Binary64

end TextQuery.Number
