import TextQuery.Number.Binary64

-- Positive binary numbers with mantissas of 64 bits. Every operation rounds its exact result to the nearest
-- such number, a half to the even neighbour.

set_option autoImplicit false

namespace TextQuery.Number

structure Extended where
  mantissa : Nat
  exponent : Int
deriving DecidableEq, Repr, Inhabited

namespace Extended

def leastExponent : Int := -16445

def zero : Extended := ⟨0, 0⟩

def ratio (x : Extended) : Nat × Nat := Binary64.ratio x.mantissa x.exponent

def ofRatio (numerator denominator : Nat) : Extended :=
  if numerator == 0 then zero
  else
    let (mantissa, exponent) := Binary64.nearest 64 leastExponent numerator denominator
    ⟨mantissa, exponent⟩

def ofNat (value : Nat) : Extended := ofRatio value 1

def ofMagnitude : Binary64 → Extended
  | .finite _ mantissa exponent => ⟨mantissa, exponent⟩
  | .infinite _ | .nan => zero

def toBinary64 (negative : Bool) (x : Extended) : Binary64 :=
  .ofRatio negative x.ratio.1 x.ratio.2

def mul (x y : Extended) : Extended :=
  ofRatio (x.ratio.1 * y.ratio.1) (x.ratio.2 * y.ratio.2)

def div (x y : Extended) : Extended :=
  ofRatio (x.ratio.1 * y.ratio.2) (x.ratio.2 * y.ratio.1)

def add (x y : Extended) : Extended :=
  ofRatio (x.ratio.1 * y.ratio.2 + y.ratio.1 * x.ratio.2) (x.ratio.2 * y.ratio.2)

def sub (x y : Extended) : Extended :=
  ofRatio (x.ratio.1 * y.ratio.2 - y.ratio.1 * x.ratio.2) (x.ratio.2 * y.ratio.2)

def atMost (x y : Extended) : Bool := x.ratio.1 * y.ratio.2 ≤ y.ratio.1 * x.ratio.2

def floor (x : Extended) : Nat := x.ratio.1 / x.ratio.2

def powerOfTen (power : Nat) : Extended :=
  ((List.range 9).foldl
    (fun (product, square) bit =>
      (if power.testBit bit then product.mul square else product, square.mul square))
    (ofNat 1, ofNat 10)).1

end Extended

end TextQuery.Number
