
set_option autoImplicit false

namespace TextQuery.Number

def isDigit (c : Char) : Bool := '0' ≤ c && c ≤ '9'

def digitValue (c : Char) : Nat := c.toNat - '0'.toNat

def valueFrom (start : Nat) (digits : List Char) : Nat :=
  digits.foldl (fun value c => 10 * value + digitValue c) start

def valueOf (digits : List Char) : Nat := valueFrom 0 digits

def digitsOf (value : Nat) : List Char := Nat.toDigits 10 value

def spanDigits (text : List Char) : List Char × List Char := text.span isDigit

def integerText (value : Int) : String := toString value

end TextQuery.Number
