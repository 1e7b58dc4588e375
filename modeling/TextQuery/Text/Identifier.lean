
set_option autoImplicit false

namespace TextQuery.Text

def isIdentifierChar (c : Char) : Bool := c.isAlphanum || c == '_'

def dropFinalBreak (text : List Char) : List Char :=
  if text.getLast? = some '\n' then text.dropLast else text

def isIdentifier (text : String) : Bool :=
  let name := dropFinalBreak text.toList
  !name.isEmpty && name.all isIdentifierChar

end TextQuery.Text
