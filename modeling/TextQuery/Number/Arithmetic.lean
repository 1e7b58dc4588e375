import TextQuery.Number.Binary64

set_option autoImplicit false

namespace TextQuery.Number.Binary64

def negate : Binary64 → Binary64
  | .finite negative mantissa exponent => .finite (!negative) mantissa exponent
  | .infinite negative => .infinite (!negative)
  | .nan => .nan

def mul : Binary64 → Binary64 → Binary64
  | .finite n m e, .finite n' m' e' =>
    .ofRatio (n != n') ((ratio m e).1 * (ratio m' e').1) ((ratio m e).2 * (ratio m' e').2)
  | .infinite n, .infinite n' => .infinite (n != n')
  | .infinite n, .finite n' m _ | .finite n' m _, .infinite n =>
    if m == 0 then .nan else .infinite (n != n')
  | .nan, _ | _, .nan => .nan

def div : Binary64 → Binary64 → Binary64
  | .finite n m e, .finite n' m' e' =>
    if m' == 0 then if m == 0 then .nan else .infinite (n != n')
    else .ofRatio (n != n') ((ratio m e).1 * (ratio m' e').2) ((ratio m e).2 * (ratio m' e').1)
  | .finite n _ _, .infinite n' => zero (n != n')
  | .infinite n, .finite n' _ _ => .infinite (n != n')
  | .infinite _, .infinite _ | .nan, _ | _, .nan => .nan

def signedRatio (negative : Bool) (mantissa : Nat) (exponent : Int) : Int × Nat :=
  let (numerator, denominator) := ratio mantissa exponent
  (if negative then -(numerator : Int) else numerator, denominator)

def add : Binary64 → Binary64 → Binary64
  | .finite n m e, .finite n' m' e' =>
    let (a, b) := signedRatio n m e
    let (c, d) := signedRatio n' m' e'
    let sum := a * d + c * b
    if sum == 0 then zero (n && n') else .ofRatio (sum < 0) sum.natAbs (b * d)
  | .infinite n, .infinite n' => if n == n' then .infinite n else .nan
  | .infinite n, .finite .. | .finite .., .infinite n => .infinite n
  | .nan, _ | _, .nan => .nan

end TextQuery.Number.Binary64
