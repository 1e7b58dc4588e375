import TextQuery.Document
import TextQuery.Number.Digits

-- Reading of JSON. The first text in the grammar of JSON is read and what follows it is returned, so that
-- readers compose.

set_option autoImplicit false

namespace TextQuery.Document

open TextQuery.Number

namespace JsonReader

def isSpace (c : Char) : Bool := c == ' ' || c == '\n' || c == '\r' || c == '\t'

def skipSpace (source : List Char) : List Char := source.dropWhile isSpace

def hexValue? (c : Char) : Option Nat :=
  if isDigit c then some (digitValue c)
  else if 'a' ≤ c && c ≤ 'f' then some (c.toNat - 'a'.toNat + 10)
  else if 'A' ≤ c && c ≤ 'F' then some (c.toNat - 'A'.toNat + 10)
  else none

def hexNumber? (a b c d : Char) : Option Nat := do
  let a ← hexValue? a
  let b ← hexValue? b
  let c ← hexValue? c
  let d ← hexValue? d
  return ((a * 16 + b) * 16 + c) * 16 + d

def unescape? (c : Char) : Option Char :=
  if c == '"' || c == '\\' || c == '/' then some c
  else if c == 'n' then some '\n'
  else if c == 'r' then some '\r'
  else if c == 't' then some '\t'
  else if c == 'b' then some '\x08'
  else if c == 'f' then some '\x0c'
  else none

def isHighSurrogate (code : Nat) : Bool := 0xD800 ≤ code && code < 0xDC00
def isLowSurrogate (code : Nat) : Bool := 0xDC00 ≤ code && code < 0xE000

/-- The characters up to the closing quote of a string, and what follows the quote. Two surrogates in
a row stand for one character. -/
def readCharacters : List Char → Option (List Char × List Char)
  | '"' :: rest => some ([], rest)
  | '\\' :: 'u' :: a :: b :: c :: d :: '\\' :: 'u' :: e :: f :: g :: h :: rest =>
    match hexNumber? a b c d with
    | none => none
    | some code =>
      match hexNumber? e f g h with
      | none => none
      | some next =>
        if isHighSurrogate code && isLowSurrogate next then
          (readCharacters rest).map fun (read, rest) =>
            (Char.ofNat (0x10000 + (code - 0xD800) * 0x400 + (next - 0xDC00)) :: read, rest)
        else
          (readCharacters ('\\' :: 'u' :: e :: f :: g :: h :: rest)).map fun (read, rest) =>
            (Char.ofNat code :: read, rest)
  | '\\' :: 'u' :: a :: b :: c :: d :: rest =>
    match hexNumber? a b c d with
    | none => none
    | some code => (readCharacters rest).map fun (read, rest) => (Char.ofNat code :: read, rest)
  | '\\' :: c :: rest =>
    match unescape? c with
    | none => none
    | some meant => (readCharacters rest).map fun (read, rest) => (meant :: read, rest)
  | c :: rest =>
    if c == '\\' || c.toNat < 0x20 then none
    else (readCharacters rest).map fun (read, rest) => (c :: read, rest)
  | [] => none
termination_by source => source.length

def readString : List Char → Option (String × List Char)
  | '"' :: rest => (readCharacters rest).map fun (read, rest) => (String.ofList read, rest)
  | _ => none

def readFraction : List Char → Option (List Char) × List Char
  | '.' :: rest =>
    match spanDigits rest with
    | ([], _) => (none, '.' :: rest)
    | (digits, rest) => (some digits, rest)
  | source => (none, source)

def readSign : List Char → Bool × List Char
  | '-' :: rest => (true, rest)
  | '+' :: rest => (false, rest)
  | source => (false, source)

def readExponent (source : List Char) : Option Int × List Char :=
  match source with
  | c :: rest =>
    if c == 'e' || c == 'E' then
      match spanDigits (readSign rest).2 with
      | ([], _) => (none, source)
      | (digits, after) =>
        let value : Int := valueOf digits
        (some (if (readSign rest).1 then -value else value), after)
    else (none, source)
  | [] => (none, source)

def readWhole : List Char → List Char × List Char
  | '0' :: rest => (['0'], rest)
  | source => spanDigits source

def readNumber (negative : Bool) (source : List Char) : Option (Document × List Char) :=
  match readWhole source with
  | ([], _) => none
  | (whole, rest) =>
    let (fraction, rest) := readFraction rest
    let (exponent, rest) := readExponent rest
    match fraction, exponent with
    | none, none =>
      let value : Int := valueOf whole
      some (.int (if negative then -value else value), rest)
    | fraction, exponent =>
      let fraction := fraction.getD []
      let power := exponent.getD 0 - fraction.length
      some (.real (.ofDecimal negative (valueOf (whole ++ fraction)) power), rest)

def readWord (word : String) (value : Document) (source : List Char) :
    Option (Document × List Char) :=
  if word.toList.isPrefixOf source then some (value, source.drop word.length) else none

mutual

-- Reads a value. The fuel bounds the nesting and the count of values.
def readValue : Nat → List Char → Option (Document × List Char)
  | 0, _ => none
  | fuel + 1, source =>
    match skipSpace source with
    | '[' :: rest =>
      match skipSpace rest with
      | ']' :: rest => some (.list [], rest)
      | _ => (readItems fuel rest).map fun (items, rest) => (.list items, rest)
    | '\x7b' :: rest =>
      match skipSpace rest with
      | '\x7d' :: rest => some (.mapping [], rest)
      | _ => (readEntries fuel rest).map fun (entries, rest) => (.mapping entries, rest)
    | '"' :: rest => (readString ('"' :: rest)).map fun (value, rest) => (.text value, rest)
    | '-' :: rest => readNumber true rest
    | 't' :: rest => readWord "true" (.bool true) ('t' :: rest)
    | 'f' :: rest => readWord "false" (.bool false) ('f' :: rest)
    | 'n' :: rest => readWord "null" .null ('n' :: rest)
    | source => readNumber false source

def readItems : Nat → List Char → Option (List Document × List Char)
  | 0, _ => none
  | fuel + 1, source => do
    let (item, rest) ← readValue fuel source
    match skipSpace rest with
    | ',' :: rest =>
      let (items, rest) ← readItems fuel rest
      return (item :: items, rest)
    | ']' :: rest => return ([item], rest)
    | _ => none

def readEntries : Nat → List Char → Option (List (String × Document) × List Char)
  | 0, _ => none
  | fuel + 1, source => do
    let (key, rest) ← readString (skipSpace source)
    match skipSpace rest with
    | ':' :: rest =>
      let (value, rest) ← readValue fuel rest
      match skipSpace rest with
      | ',' :: rest =>
        let (entries, rest) ← readEntries fuel rest
        return ((key, value) :: entries, rest)
      | '\x7d' :: rest => return ([(key, value)], rest)
      | _ => none
    | _ => none

end

end JsonReader

def ofJson? (source : String) : Option Document :=
  let characters := source.toList
  match JsonReader.readValue (characters.length + 1) characters with
  | some (document, rest) => if (JsonReader.skipSpace rest).isEmpty then some document else none
  | none => none

end TextQuery.Document
