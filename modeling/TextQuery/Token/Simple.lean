import TextQuery.Token.Words

set_option autoImplicit false

namespace TextQuery.Token.Simple

def isWord (c : Char) : Bool := c.isAlphanum || c.toNat ≥ 0x80 || c == '\x00'

def member (delimiters : Option (List Char)) (c : Char) : Bool :=
  match delimiters with
  | none => isWord c
  | some delimiters => !delimiters.contains c

/-- The delimiters that the arguments give. The first argument means nothing, the second one lists
them, and they have to be ASCII characters. -/
def delimiters? : List String → Except Unit (Option (List Char))
  | _ :: delimiters :: _ =>
    if delimiters.toList.all fun c => c.toNat < 0x80 then .ok (some delimiters.toList)
    else .error ()
  | _ => .ok none

def tokens (delimiters : Option (List Char)) (text : String) : List String :=
  (runs (member delimiters) text.toList).map fun word => String.ofList (word.map Char.toLower)

end TextQuery.Token.Simple
