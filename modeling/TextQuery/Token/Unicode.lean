import TextQuery.Token.Unicode.Folding
import TextQuery.Token.Unicode.Separators
import TextQuery.Token.Words

set_option autoImplicit false

namespace TextQuery.Token.Unicode

inductive Diacritics where
  | keep
  | dropSingle
  | dropAll
deriving DecidableEq, Repr

/-- The characters listed as exceptions are in a class other than that of their kind. -/
structure Settings where
  diacritics : Diacritics := .dropSingle
  exceptions : List Nat := []
deriving DecidableEq, Repr

def codeOf (c : Char) : Nat := if c.toNat / 2 = 0xFFFE / 2 then 0xFFFD else c.toNat

def isMark (code : Nat) : Bool := marks.containsCode code

def isWordByKind (code : Nat) : Bool :=
  if code < 0x80 then (Char.ofNat code).isAlphanum else !separators.containsCode code

def Settings.isWord (settings : Settings) (code : Nat) : Bool :=
  isWordByKind code != settings.exceptions.contains code

def Settings.addExceptions (settings : Settings) (wanted : Bool) (listed : List Char) : Settings :=
  -- Marks keep their kind, or words could not go on over them.
  let changed := (listed.map codeOf).filter fun code => isWordByKind code != wanted && !isMark code
  { settings with exceptions := settings.exceptions ++ changed }

def dropStart (start text : String) : Option (List Char) :=
  if start.toList.isPrefixOf text.toList then some (text.toList.drop start.length) else none

def Settings.addArgument (settings : Settings) (argument : String) : Option Settings :=
  if argument == "remove_diacritics=0" then some { settings with diacritics := .keep }
  else if argument == "remove_diacritics=1" then some { settings with diacritics := .dropSingle }
  else if argument == "remove_diacritics=2" then some { settings with diacritics := .dropAll }
  else match dropStart "tokenchars=" argument with
    | some listed => some (settings.addExceptions true listed)
    | none => (dropStart "separators=" argument).map (settings.addExceptions false)

def Settings.ofArguments? (arguments : List String) : Option Settings :=
  arguments.foldlM Settings.addArgument {}

def foldCode (code : Nat) : Nat :=
  if code < 0x80 then (Char.ofNat code).toLower.toNat
  else (Text.Case.moved? foldRuns code).getD code

def plainLetter? (table : List (Char × List Nat)) (code : Nat) : Option Nat :=
  (table.find? fun row => row.2.contains code).map fun row => row.1.toNat

def dropDiacritics (diacritics : Diacritics) (code : Nat) : Option Nat :=
  if diacritics == .keep then some code
  else if isMark code then none
  else match plainLetter? accented code with
    | some letter => some letter
    | none =>
      if diacritics == .dropAll then some ((plainLetter? twiceAccented code).getD code)
      else some code

def Settings.fold (settings : Settings) (code : Nat) : Option Char :=
  let folded := foldCode code
  if code < 0x80 then some (Char.ofNat folded)
  else (dropDiacritics settings.diacritics folded).map Char.ofNat

def tokens (settings : Settings) (text : String) : List String :=
  let continues (code : Nat) : Bool := settings.isWord code || isMark code
  (words settings.isWord continues (text.toList.map codeOf)).map fun word =>
    String.ofList (word.filterMap settings.fold)

end TextQuery.Token.Unicode
