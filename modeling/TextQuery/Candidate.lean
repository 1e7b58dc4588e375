import TextQuery.Cell
import TextQuery.Failure
import TextQuery.Text.Enclosed

set_option autoImplicit false

namespace TextQuery

inductive Mode where
  | raw
  | any
  | all
  | phrase
deriving DecidableEq, Repr

namespace Mode

def values : List Mode := [.raw, .any, .all, .phrase]

def name : Mode → String
  | .raw => "raw"
  | .any => "any"
  | .all => "all"
  | .phrase => "phrase"

def ofName? (name : String) : Option Mode := values.find? fun mode => mode.name == name

end Mode

namespace Candidate

def isBare (c : Char) : Bool := c.isAlphanum || c == '_' || c == '\x1a' || c.toNat ≥ 0x80

def keywords : List String := ["AND", "OR", "NOT", "NEAR"]

def string (text : String) : String := Text.enclosed '"' text

def word (token : String) : String :=
  if !token.isEmpty && !keywords.contains token && token.toList.all isBare then token
  else string token

def joinAny (tokens : List String) : String := String.intercalate " OR " (tokens.map word)

def joinAll (tokens : List String) : String := String.intercalate " AND " (tokens.map word)

def joinPhrase (tokens : List String) : String := string (String.intercalate " " tokens)

def join? : Mode → Option (List String → String)
  | .raw => none
  | .any => some joinAny
  | .all => some joinAll
  | .phrase => some joinPhrase

def typeName : Cell → String
  | .null => "NoneType"
  | .int _ => "int"
  | .real _ => "float"
  | .text _ => "str"
  | .blob _ => "bytes"

def replacingFault : Cell → TokenFault
  | .blob _ => .bytesReplaced
  | token => .noReplacing (typeName token)

/-- Why a value is no word. One that counts as empty is put between quotes at once; the characters of all
others are looked at. -/
def wordFault (token : Cell) : TokenFault :=
  match token with
  | .blob (_ :: _) => .byteLookedAt
  | .int value => if value = 0 then replacingFault token else .noCharacters (typeName token)
  | .real value => if value.isZero then replacingFault token else .noCharacters (typeName token)
  | token => replacingFault token

def tokenFault : Mode → Cell → TokenFault
  | .phrase => replacingFault
  | _ => wordFault

def texts (mode : Mode) (tokens : List Cell) : Except TokenFault (List String) :=
  tokens.mapM fun token =>
    match token with
    | .text word => .ok word
    | token => .error (tokenFault mode token)

end Candidate

end TextQuery
