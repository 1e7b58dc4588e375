import TextQuery.Cell

set_option autoImplicit false

namespace TextQuery.Engine

open Number

inductive ColumnType where
  | untyped
  | text
  | integer
  | real
  | numeric
  | blob
deriving DecidableEq, Repr

namespace ColumnType

def mentions (word : String) : List Char → Bool
  | [] => false
  | c :: rest => word.toList.isPrefixOf (c :: rest) || mentions word rest

def ofDeclared (declared : String) : ColumnType :=
  let text := declared.toList.map Char.toUpper
  if text.isEmpty then .untyped
  else if mentions "INT" text then .integer
  else if ["CHAR", "CLOB", "TEXT"].any (mentions · text) then .text
  else if mentions "BLOB" text then .blob
  else if ["REAL", "FLOA", "DOUB"].any (mentions · text) then .real
  else .numeric

end ColumnType

namespace Affinity

def isSpace (c : Char) : Bool := c == ' ' || ('\t' ≤ c && c ≤ '\r')

def trim (text : List Char) : List Char :=
  (((text.dropWhile isSpace).reverse).dropWhile isSpace).reverse

def splitSign : List Char → Bool × List Char
  | '-' :: rest => (true, rest)
  | '+' :: rest => (false, rest)
  | text => (false, text)

def fits (value : Int) : Bool := -Nat.pow 2 63 ≤ value && value < Nat.pow 2 63

def readPower : List Char → Option Int
  | [] => some 0
  | c :: rest =>
    if c == 'e' || c == 'E' then
      let (negative, digits) := splitSign rest
      if digits.isEmpty || !digits.all isDigit then none
      else some (if negative then -(Spelling.powerOf digits : Int) else Spelling.powerOf digits)
    else none

def narrow (value : Binary64) : Cell :=
  match value.toInt? with
  -- The bounds themselves are left out, since other reals round to them.
  | some whole => if -Nat.pow 2 63 < whole && whole < Nat.pow 2 63 - 1 then .int whole else .real value
  | none => .real value

def readNumber? (text : String) : Option Cell :=
  let (negative, body) := splitSign (trim text.toList)
  let (whole, rest) := spanDigits body
  match rest with
  | [] =>
    if whole.isEmpty then none
    else
      let value : Int := if negative then -(valueOf whole : Int) else valueOf whole
      some (if fits value then .int value
        else narrow (Spelling.mk negative whole [] 0).toBinary64)
  | '.' :: rest =>
    let (fraction, rest) := spanDigits rest
    if whole.isEmpty && fraction.isEmpty then none
    else (readPower rest).map fun power => narrow (Spelling.mk negative whole fraction power).toBinary64
  | rest =>
    if whole.isEmpty then none
    else (readPower rest).map fun power => narrow (Spelling.mk negative whole [] power).toBinary64

def toText : Cell → Cell
  | .int value => .text (integerText value)
  | .real value => .text value.storedText
  | cell => cell

def toNumber : Cell → Cell
  | .text value => (readNumber? value).getD (.text value)
  | .real value => narrow value
  | cell => cell

def toReal (cell : Cell) : Cell :=
  match toNumber cell with
  | .int value => .real (.ofInt value)
  | cell => cell

def store : ColumnType → Cell → Cell
  | .untyped, cell | .blob, cell => cell
  | .text, cell => toText cell
  | .integer, cell | .numeric, cell => toNumber cell
  | .real, cell => toReal cell

def compared : ColumnType → Cell → Cell
  | .untyped, cell | .blob, cell => cell
  | .text, cell => toText cell
  | _, cell => toNumber cell

def same : Cell → Cell → Bool
  | .int a, .int b => a == b
  | .int a, .real b => b.toInt? == some a
  | .real a, .int b => a.toInt? == some b
  | .real a, .real b => a.same b
  | .text a, .text b => a == b
  | .blob a, .blob b => a == b
  | _, _ => false

def fraction : Binary64 → Int × Nat
  | .finite negative mantissa exponent =>
    let (numerator, denominator) := Binary64.ratio mantissa exponent
    (if negative then -(numerator : Int) else numerator, denominator)
  | .infinite negative => (if negative then -Nat.pow 2 1100 else Nat.pow 2 1100, 1)
  | .nan => (0, 1)

def rank : Cell → Nat
  | .null => 0
  | .int _ | .real _ => 1
  | .text _ => 2
  | .blob _ => 3

def numberOf : Cell → Int × Nat
  | .int value => (value, 1)
  | .real value => fraction value
  | _ => (0, 1)

def before (a b : Cell) : Bool :=
  if rank a != rank b then rank a < rank b
  else match a, b with
    | .text a, .text b => a < b
    | .blob a, .blob b => a < b
    | a, b => (numberOf a).1 * (numberOf b).2 < (numberOf b).1 * (numberOf a).2

def notAfter : List Cell → List Cell → Bool
  | a :: as, b :: bs => before a b || (!before b a && notAfter as bs)
  | [], _ => true
  | _ :: _, [] => false

end Affinity

end TextQuery.Engine
