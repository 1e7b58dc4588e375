import TextQuery.Text.Ascii
import TextQuery.Token.Splitter

set_option autoImplicit false

namespace TextQuery.Token

/-- A tokenizer of full-text tables: words of some ASCII characters and everything above ASCII; words of
some ASCII characters and the letters and numbers above ASCII, with exceptions; or every three characters
that follow each other. -/
inductive Indexing where
  | plain (members : List Char)
  | unicode (members : List Char) (exceptions : List Nat)
  | trigrams
deriving DecidableEq, Repr

namespace Indexing

def ascii : List Char := (List.range 0x80).map Char.ofNat

def categoryOf (c : Char) : String :=
  if c.isUpper then "Lu"
  else if c.isLower then "Ll"
  else if c.isDigit then "Nd"
  else if c == ' ' then "Zs"
  else if c == '_' then "Pc"
  else if c == '-' then "Pd"
  else if ['(', '[', '\x7b'].contains c then "Ps"
  else if [')', ']', '\x7d'].contains c then "Pe"
  else if ['+', '<', '=', '>', '|', '~'].contains c then "Sm"
  else if c == '$' then "Sc"
  else if ['^', '\x60'].contains c then "Sk"
  else if c < ' ' || c == '\x7f' then "Cc"
  else "Po"

def categories : List (Char × List Char) := [
  ('C', ['c', 'f', 'n', 's', 'o', '*']), ('L', ['l', 'm', 'o', 't', 'u', 'C', '*']),
  ('M', ['c', 'e', 'n', '*']), ('N', ['d', 'l', 'o', '*']),
  ('P', ['c', 'd', 'e', 'f', 'i', 'o', 's', '*']), ('S', ['c', 'k', 'm', 'o', '*']),
  ('Z', ['l', 'p', 's', '*'])]

def isCategory : List Char → Bool
  | [] => true
  | a :: rest =>
    match categories.lookup a with
    | some seconds => rest.head?.any seconds.contains
    | none => true

def isIn (c : Char) (word : List Char) : Bool :=
  match (categoryOf c).toList, word with
  | [a, b], first :: second :: _ => a == first && (b == second || second == '*')
  | _, _ => false

def membersOf? (listed : String) : Option (List Char) :=
  let words := runs (fun c => c != ' ' && c != '\t') listed.toList
  if words.all isCategory then
    some (ascii.filter fun c => c != '\x00' && words.any (isIn c))
  else none

def defaultCategories : String := "L* N* Co"

def default : Indexing := .unicode (ascii.filter Char.isAlphanum) []

def setMembers (isMember : Bool) (listed members : List Char) : List Char :=
  let changed := listed.filter fun c => c.toNat < 0x80
  if isMember then members ++ changed else members.filter fun c => !changed.contains c

def addExceptions (isMember : Bool) (listed : List Char) (exceptions : List Nat) : List Nat :=
  exceptions ++ (listed.map Unicode.codeOf).filter fun code =>
    0x80 ≤ code && Unicode.isWordByKind code != isMember && !Unicode.isMark code

def change (isMember : Bool) (listed : String) : Indexing → Indexing
  | .plain members => .plain (setMembers isMember listed.toList members)
  | .unicode members exceptions =>
    .unicode (setMembers isMember listed.toList members)
      (addExceptions isMember listed.toList exceptions)
  | .trigrams => .trigrams

def addOption (known : List (String × List String)) (indexing : Indexing) (option : String × String) :
    Except Refusal Indexing :=
  let (name, value) := option
  if Text.sameName name "tokenchars" then .ok (indexing.change true value)
  else if Text.sameName name "separators" then .ok (indexing.change false value)
  else if known.any fun (other, values) => Text.sameName name other && values.contains value then
    .ok indexing
  else .error .badArgument

def pairUp : List String → Except Refusal (List (String × String))
  | [] => .ok []
  | [_] => .error .badArgument
  | name :: value :: rest => (pairUp rest).map ((name, value) :: ·)

def categoriesOption : String := "categories"

/-- The categories are chosen first, the last choice counting, whatever the order of the options. -/
def unicodeOf (arguments : List String) : Except Refusal Indexing := do
  let options ← pairUp arguments
  let isChoice (option : String × String) : Bool := Text.sameName option.1 categoriesOption
  let listed := (((options.filter isChoice).map Prod.snd).getLast?).getD defaultCategories
  match membersOf? listed with
  | none => throw .badArgument
  | some members =>
    (options.filter fun option => !isChoice option).foldlM
      (addOption [("remove_diacritics", ["0", "1", "2"])]) (.unicode members [])

def plainOf (arguments : List String) : Except Refusal Indexing := do
  (← pairUp arguments).foldlM (addOption []) (.plain (ascii.filter Char.isAlphanum))

def trigramsOf (arguments : List String) : Except Refusal Indexing := do
  for (name, value) in ← pairUp arguments do
    if !(Text.sameName name "case_sensitive" && ["0", "1"].contains value) then throw .badArgument
  return .trigrams

def ofWords : List String → Except Refusal Indexing
  | [] => .ok default
  | name :: arguments =>
    match Text.asciiFold name with
    | "unicode61" => unicodeOf arguments
    | "ascii" => plainOf arguments
    | "trigram" => trigramsOf arguments
    | "porter" => (ofWords arguments).mapError fun _ => .badArgument
    | _ => .error .unknownName

def countWords (indexing : Indexing) (text : String) : Nat :=
  match indexing with
  | .plain members =>
    (runs (fun c => 0x80 ≤ c.toNat || members.contains c) text.toList).length
  | .unicode members exceptions =>
    let isWord (code : Nat) : Bool :=
      if code < 0x80 then members.contains (Char.ofNat code)
      else Unicode.isWordByKind code != exceptions.contains code
    let continues (code : Nat) : Bool := isWord code || Unicode.isMark code
    (words isWord continues (text.toList.map Unicode.codeOf)).length
  | .trigrams => (text.toList.takeWhile (· != '\x00')).length - 2

end Indexing

end TextQuery.Token
