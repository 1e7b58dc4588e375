import TextQuery.Text.Case.Lower
import TextQuery.Text.Case.Upper
import TextQuery.Text.Case.Context

set_option autoImplicit false

namespace TextQuery.Text

namespace Case

def mapCode (runs : List Run) (expansions : List (Nat × List Nat)) (code : Nat) : List Nat :=
  match expansions.lookup code with
  | some form => form
  | none => [(moved? runs code).getD code]

def mapChar (runs : List Run) (expansions : List (Nat × List Nat)) (c : Char) : List Char :=
  (mapCode runs expansions c.toNat).map Char.ofNat

def capitalSigma : Char := 'Σ'

def nextToCased (text : List Char) : Bool :=
  match text.dropWhile fun c => caseIgnorable.contains c with
  | [] => false
  | c :: _ => cased.contains c

/-- A word ends between the two texts if a letter with case comes before and none after. The text
before is given backwards. -/
def endsWord (before after : List Char) : Bool := nextToCased before && !nextToCased after

def lowerChars : (before : List Char) → List Char → List Char
  | _, [] => []
  | before, c :: rest =>
    let form :=
      if c == capitalSigma then [if endsWord before rest then 'ς' else 'σ']
      else mapChar lowerRuns lowerExpansions c
    form ++ lowerChars (c :: before) rest

end Case

def lower (text : String) : String := String.ofList (Case.lowerChars [] text.toList)

def upper (text : String) : String :=
  String.ofList (text.toList.flatMap (Case.mapChar Case.upperRuns Case.upperExpansions))

end TextQuery.Text
