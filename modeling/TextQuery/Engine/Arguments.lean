import TextQuery.Expression.Lexeme
import TextQuery.Failure
import TextQuery.Number.Digits

set_option autoImplicit false

namespace TextQuery.Engine

def isHexDigit (c : Char) : Bool :=
  c.isDigit || ('a' ≤ c && c ≤ 'f') || ('A' ≤ c && c ≤ 'F')

/-- Whether a word that begins with a digit can be read: it is a number, or begins with one in base
sixteen. Such a number ends where its digits end, and another word begins there. -/
def isReadable (word : List Char) : Bool :=
  match word with
  | '0' :: x :: digit :: _ => ((x == 'x' || x == 'X') && isHexDigit digit) || isDecimal
  | _ => isDecimal
where
  isDecimal : Bool :=
    match (Number.spanDigits word).2 with
    | [] => true
    | c :: power => (c == 'e' || c == 'E') && !power.isEmpty && power.all Number.isDigit

def unrecognized (token : List Char) : Fault :=
  .operational ("unrecognized token: \"" ++ String.ofList token ++ "\"")

namespace Arguments

def closing? (c : Char) : Option Char :=
  if c == '[' then some ']' else if c == '\'' || c == '"' || c == '\x60' then some c else none

def isBlank (c : Char) : Bool := c == ' ' || ('\t' ≤ c && c ≤ '\r' && c != '\x0b')

def trim (text : List Char) : List Char :=
  ((text.dropWhile isBlank).reverse.dropWhile isBlank).reverse

def unexpectedBehind (rest : List Char) : Fault :=
  let rest := trim rest ++ [')']
  let word := rest.takeWhile Expression.Lexeme.isBare
  let token := if word.isEmpty then rest.take 1 else word
  .operational ("near \"" ++ String.ofList token ++ "\": syntax error")

/-- Where a reader stands: how many parentheses are open, and the mark that ends the present quotation
with what follows the mark that began it. -/
structure Place where
  depth : Nat := 0
  quotation : Option (Char × List Char) := none

def parts : Place → (part : List Char) → List Char → Except Fault (List (List Char))
  | { depth, quotation := none }, part, [] =>
    if depth = 0 then .ok [part.reverse] else .error (.operational "incomplete input")
  | { quotation := some (_, opened), .. }, _, [] => .error (unrecognized (opened ++ [')']))
  | place, part, c :: rest =>
    match place.quotation with
    | some (mark, _) =>
      -- A doubled mark ends one quotation and begins the next one, which comes to the same.
      parts (if c == mark then { place with quotation := none } else place) (c :: part) rest
    | none =>
      match closing? c with
      | some mark => parts { place with quotation := some (mark, c :: rest) } (c :: part) rest
      | none =>
        if c == ',' && place.depth = 0 then
          (parts place [] rest).map (part.reverse :: ·)
        else if c == '(' then parts { place with depth := place.depth + 1 } (c :: part) rest
        else if c == ')' then
          if place.depth = 0 then .error (unexpectedBehind rest)
          else parts { place with depth := place.depth - 1 } (c :: part) rest
        else parts place (c :: part) rest

def split (text : String) : Except Fault (List (List Char)) := do
  return ((← parts {} [] text.toList).map trim).filter (!·.isEmpty)

structure Word where
  text : List Char
  isQuoted : Bool

def readWord (text : List Char) : Option (Word × List Char) :=
  match text with
  | [] => none
  | c :: rest =>
    match closing? c with
    | some mark =>
      -- The text has been parted outside of quotations, so they end.
      (Text.readEnclosed mark rest).map fun (word, rest) => (⟨word, true⟩, rest)
    | none =>
      let word := text.takeWhile Expression.Lexeme.isBare
      if word.isEmpty then none else some (⟨word, false⟩, text.drop word.length)

inductive Comment where
  | line
  | block

def dropUnread : Option Comment → List Char → List Char
  | _, [] => []
  | none, '-' :: '-' :: rest => dropUnread (some .line) rest
  | none, '/' :: '*' :: rest => dropUnread (some .block) rest
  | none, c :: rest => if isBlank c then dropUnread none rest else c :: rest
  | some .line, c :: rest => dropUnread (if c == '\n' then none else some .line) rest
  | some .block, '*' :: '/' :: rest => dropUnread none rest
  | some .block, _ :: rest => dropUnread (some .block) rest

def dropSpaces (text : List Char) : List Char := text.dropWhile (· == ' ')

def lastWord? (text : List Char) : Option (Option String) :=
  match dropSpaces text with
  | [] => some none
  | text =>
    match readWord text with
    | some (word, []) => some (some (String.ofList word.text))
    | _ => none

end Arguments

end TextQuery.Engine
