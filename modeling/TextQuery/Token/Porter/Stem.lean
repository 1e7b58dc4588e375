
set_option autoImplicit false

namespace TextQuery.Token.Porter

abbrev Reversed := List Char

def isVowelLetter (c : Char) : Bool := "aeiou".toList.contains c

/-- Whether a word ends in a consonant. The letter y is one at the beginning of a word and after a
vowel. -/
def endsInConsonant : Reversed → Bool
  | [] => false
  | c :: rest =>
    if c == 'y' then rest.isEmpty || !endsInConsonant rest else !isVowelLetter c

def endsInVowel (word : Reversed) : Bool := !word.isEmpty && !endsInConsonant word

def dropVowels : Reversed → Reversed
  | [] => []
  | c :: rest => if endsInVowel (c :: rest) then dropVowels rest else c :: rest

def dropConsonants : Reversed → Reversed
  | [] => []
  | c :: rest => if endsInConsonant (c :: rest) then dropConsonants rest else c :: rest

def beforeLastGroup (word : Reversed) : Reversed := dropConsonants (dropVowels word)

def hasGroup (word : Reversed) : Bool := !(beforeLastGroup word).isEmpty

def hasTwoGroups (word : Reversed) : Bool := hasGroup (beforeLastGroup word)

def hasOneGroup (word : Reversed) : Bool := hasGroup word && !hasTwoGroups word

def hasVowel (word : Reversed) : Bool := !(dropConsonants word).isEmpty

def endsInDouble : Reversed → Bool
  | c :: d :: rest => endsInConsonant (c :: d :: rest) && c == d
  | _ => false

def endsShort : Reversed → Bool
  | c :: d :: rest =>
    endsInConsonant (c :: d :: rest) && !"wxy".toList.contains c
      && endsInVowel (d :: rest) && endsInConsonant rest
  | _ => false

structure Rule where
  ending : String
  replacement : String

def dropEnding (ending : Reversed) (word : Reversed) : Option Reversed :=
  if ending.isPrefixOf word then some (word.drop ending.length) else none

/-- Replaces the ending if the word has it and the rest satisfies the condition. A word that has the
ending is done with either way. -/
def replaceEnding? (condition : Reversed → Bool) (rule : Rule) (word : Reversed) : Option Reversed :=
  (dropEnding rule.ending.toList.reverse word).map fun rest =>
    if condition rest then rule.replacement.toList.reverse ++ rest else word

def applyFirst (condition : Reversed → Bool) (rules : List Rule) (word : Reversed) : Reversed :=
  (rules.findSome? fun rule => replaceEnding? condition rule word).getD word

def always (_ : Reversed) : Bool := true

def pluralRules : List Rule := [⟨"sses", "ss"⟩, ⟨"ies", "i"⟩, ⟨"ss", "ss"⟩, ⟨"s", ""⟩]

def restoreRules : List Rule := [⟨"at", "ate"⟩, ⟨"bl", "ble"⟩, ⟨"iz", "ize"⟩]

def restore (word : Reversed) : Reversed :=
  match restoreRules.findSome? fun rule => replaceEnding? always rule word with
  | some word => word
  | none =>
    if endsInDouble word && !"lsz".toList.contains (word.headD ' ') then word.drop 1
    else if hasOneGroup word && endsShort word then 'e' :: word
    else word

def dropPast (word : Reversed) : Reversed :=
  match replaceEnding? hasGroup ⟨"eed", "ee"⟩ word with
  | some word => word
  | none =>
    let endings : List Rule := [⟨"ing", ""⟩, ⟨"ed", ""⟩]
    match endings.findSome? fun rule => replaceEnding? hasVowel rule word with
    | some shorter => if shorter == word then word else restore shorter
    | none => word

def softenY : Reversed → Reversed
  | 'y' :: rest => if hasVowel rest then 'i' :: rest else 'y' :: rest
  | word => word

def doubleRules : List Rule := [
  ⟨"ational", "ate"⟩, ⟨"tional", "tion"⟩, ⟨"enci", "ence"⟩, ⟨"anci", "ance"⟩, ⟨"izer", "ize"⟩,
  ⟨"logi", "log"⟩, ⟨"bli", "ble"⟩, ⟨"alli", "al"⟩, ⟨"entli", "ent"⟩, ⟨"eli", "e"⟩,
  ⟨"ousli", "ous"⟩, ⟨"ization", "ize"⟩, ⟨"ation", "ate"⟩, ⟨"ator", "ate"⟩, ⟨"alism", "al"⟩,
  ⟨"iveness", "ive"⟩, ⟨"fulness", "ful"⟩, ⟨"ousness", "ous"⟩, ⟨"aliti", "al"⟩, ⟨"iviti", "ive"⟩,
  ⟨"biliti", "ble"⟩]

def adjectiveRules : List Rule := [
  ⟨"icate", "ic"⟩, ⟨"ative", ""⟩, ⟨"alize", "al"⟩, ⟨"iciti", "ic"⟩, ⟨"ical", "ic"⟩, ⟨"ful", ""⟩,
  ⟨"ness", ""⟩]

def suffixRules : List Rule := [
  ⟨"al", ""⟩, ⟨"ance", ""⟩, ⟨"ence", ""⟩, ⟨"er", ""⟩, ⟨"ic", ""⟩, ⟨"able", ""⟩, ⟨"ible", ""⟩,
  ⟨"ant", ""⟩, ⟨"ement", ""⟩, ⟨"ment", ""⟩, ⟨"ent", ""⟩, ⟨"ou", ""⟩, ⟨"ism", ""⟩, ⟨"ate", ""⟩,
  ⟨"iti", ""⟩, ⟨"ous", ""⟩, ⟨"ive", ""⟩, ⟨"ize", ""⟩, ⟨"sion", "s"⟩, ⟨"tion", "t"⟩]

def dropSuffix (word : Reversed) : Reversed :=
  (suffixRules.findSome? fun rule =>
    (dropEnding rule.ending.toList.reverse word).map fun rest =>
      let shorter := rule.replacement.toList.reverse ++ rest
      if hasTwoGroups shorter then shorter else word).getD word

def dropFinalE : Reversed → Reversed
  | 'e' :: rest =>
    if hasTwoGroups rest || (hasOneGroup rest && !endsShort rest) then rest else 'e' :: rest
  | word => word

def undoubleL : Reversed → Reversed
  | 'l' :: 'l' :: rest => if hasTwoGroups ('l' :: 'l' :: rest) then 'l' :: rest else 'l' :: 'l' :: rest
  | word => word

def stem (word : List Char) : List Char :=
  let word := applyFirst always pluralRules word.reverse
  let word := softenY (dropPast word)
  let word := applyFirst hasGroup doubleRules word
  let word := applyFirst hasGroup adjectiveRules word
  (undoubleL (dropFinalE (dropSuffix word))).reverse

end TextQuery.Token.Porter
