import TextQuery.Text.Ranges

set_option autoImplicit false

namespace TextQuery.Text

def blanks : Ranges := [
  (9, 0xD), (0x1C, 0x20), (0x85, 0x85), (0xA0, 0xA0), (0x1680, 0x1680), (0x2000, 0x200A),
  (0x2028, 0x2029), (0x202F, 0x202F), (0x205F, 0x205F), (0x3000, 0x3000)]

def isBlank (c : Char) : Bool := blanks.contains c

end TextQuery.Text
