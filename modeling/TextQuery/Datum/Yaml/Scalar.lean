import TextQuery.Document.JsonReader
import TextQuery.Text.Loose

set_option autoImplicit false

namespace TextQuery.Datum.Yaml

open Number

inductive Kind where
  | null
  | bool
  | int
  | float
  | binary
  | moment
  | text
  | sequence
  | mapping
  | orderedMapping
  | pairs
  | set
  | merge
  | value
  | unknown
deriving DecidableEq, Repr

namespace Scalar

def truths : List String := [
  "yes", "Yes", "YES", "no", "No", "NO", "true", "True", "TRUE", "false", "False", "FALSE", "on",
  "On", "ON", "off", "Off", "OFF"]

def nulls : List String := ["", "~", "null", "Null", "NULL"]

def signs : List String := ["!", "&", "*"]

def isSpacer (c : Char) : Bool := c == '_'

def isDigitOrSpacer (c : Char) : Bool := isDigit c || isSpacer c

def dropSign : List Char → List Char
  | '+' :: rest => rest
  | '-' :: rest => rest
  | word => word

def places {α : Type} [BEq α] (colon : α) : List α → List (List α)
  | [] => [[]]
  | c :: rest =>
    if c == colon then [] :: places colon rest
    else match places colon rest with
      | first :: others => (c :: first) :: others
      | [] => [[c]]

def isPlace : List Char → Bool
  | [a] => isDigit a
  | [a, b] => '0' ≤ a && a ≤ '5' && isDigit b
  | _ => false

def isInBase (base : Nat) (c : Char) : Bool :=
  isSpacer c || (Document.JsonReader.hexValue? c).any (· < base)

def isDecimal : List Char → Bool
  | c :: rest => '1' ≤ c && c ≤ '9' && rest.all isDigitOrSpacer
  | [] => false

def isInt (text : List Char) : Bool :=
  match dropSign text with
  | ['0'] => true
  | '0' :: 'b' :: digits => !digits.isEmpty && digits.all (isInBase 2)
  | '0' :: 'x' :: digits => !digits.isEmpty && digits.all (isInBase 16)
  | '0' :: digits => digits.all (isInBase 8)
  | body =>
    match places ':' body with
    | [] => false
    | first :: others => isDecimal first && others.all isPlace

def infinities : List String := [".inf", ".Inf", ".INF"]

def nans : List String := [".nan", ".NaN", ".NAN"]

def isPower : List Char → Bool
  | [] => true
  | e :: sign :: digits =>
    (e == 'e' || e == 'E') && (sign == '+' || sign == '-') && !digits.isEmpty && digits.all isDigit
  | _ => false

def isFraction (text : List Char) : Bool := isPower (text.dropWhile isDigitOrSpacer)

def startsWithDigit (text : List Char) : Bool := text.head?.any isDigit

def isFloat (text : List Char) : Bool :=
  let body := dropSign text
  let whole := body.takeWhile (· != '.')
  match body.dropWhile (· != '.') with
  | '.' :: rest =>
    if whole.isEmpty then
      infinities.contains (String.ofList body)
        || (body == text
          && (nans.contains (String.ofList text) || (startsWithDigit rest && isFraction rest)))
    else match places ':' whole with
      | first :: others =>
        startsWithDigit first && first.all isDigitOrSpacer && others.all isPlace
          && (if others.isEmpty then isFraction rest else rest.all isDigitOrSpacer)
      | [] => false
  | _ => false

def digits? (least most : Nat) (text : List Char) : Option (Nat × List Char) :=
  let run := (text.take most).takeWhile isDigit
  if run.length < least then none else some (valueOf run, text.drop run.length)

def sign? (c : Char) : List Char → Option (List Char)
  | [] => none
  | d :: rest => if c == d then some rest else none

def isSpace (c : Char) : Bool := c == ' ' || c == '\t'

-- The offset of a zone in minutes, if there is a zone.
def zone? (text : List Char) : Option (Option Int) :=
  match text.dropWhile isSpace with
  | [] => if text.isEmpty then some none else none
  | ['Z'] => some (some 0)
  | c :: rest => do
    let sign : Int ← if c == '+' then some 1 else if c == '-' then some (-1) else none
    let (hours, rest) ← digits? 1 2 rest
    match rest with
    | [] => return some (sign * (60 * hours))
    | ':' :: rest =>
      let (minutes, rest) ← digits? 2 2 rest
      if rest.isEmpty then return some (sign * (60 * hours + minutes)) else none
    | _ => none

def dropTimeMark? : List Char → Option (List Char)
  | 'T' :: rest => some rest
  | 't' :: rest => some rest
  | c :: rest => if isSpace c then some (rest.dropWhile isSpace) else none
  | [] => none

def date? (least : Nat) (text : List Char) : Option ((Nat × Nat × Nat) × List Char) := do
  let (year, rest) ← digits? 4 4 text
  let (month, rest) ← digits? least 2 (← sign? '-' rest)
  let (day, rest) ← digits? least 2 (← sign? '-' rest)
  return ((year, month, day), rest)

structure Time where
  hour : Nat
  minute : Nat
  second : Nat
  microsecond : Nat
  offset : Option Int
deriving DecidableEq, Repr

-- Digits behind the sixth are not looked at.
def microseconds (fraction : List Char) : Nat := valueOf ((fraction ++ List.replicate 6 '0').take 6)

def time? (text : List Char) : Option Time := do
  let (hour, rest) ← digits? 1 2 (← dropTimeMark? text)
  let (minute, rest) ← digits? 2 2 (← sign? ':' rest)
  let (second, rest) ← digits? 2 2 (← sign? ':' rest)
  let (fraction, rest) := match rest with
    | '.' :: rest => (rest.takeWhile isDigit, rest.dropWhile isDigit)
    | rest => ([], rest)
  return { hour, minute, second, microsecond := microseconds fraction, offset := ← zone? rest }

def moment? (text : List Char) : Option ((Nat × Nat × Nat) × Option Time) := do
  let (date, rest) ← date? 1 text
  if rest.isEmpty then return (date, none) else return (date, some (← time? rest))

def isMoment (text : List Char) : Bool :=
  match moment? text with
  | some (_, none) => (date? 2 text).any fun found => found.2.isEmpty
  | some (_, some _) => true
  | none => false

def dropLineBreak (text : List Char) : List Char :=
  match text.reverse with
  | '\n' :: rest => if rest.isEmpty then text else rest.reverse
  | _ => text

def kindOfPlain (text : String) : Kind :=
  let characters := dropLineBreak text.toList
  let text := String.ofList characters
  if nulls.contains text then .null
  else if truths.contains text then .bool
  else if isInt characters then .int
  else if isFloat characters then .float
  else if isMoment characters then .moment
  else if text == "<<" then .merge
  else if text == "=" then .value
  else if signs.contains text then .unknown
  else .text

-- Between quotes there can be halves, and a tag that says nothing can stand before them.
def kindOf (text : Loose) : Kind := (text.plain?.map kindOfPlain).getD .text

end Scalar

end TextQuery.Datum.Yaml
