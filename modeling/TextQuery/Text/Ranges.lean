
set_option autoImplicit false

namespace TextQuery.Text

abbrev Ranges := List (Nat × Nat)

def Ranges.containsCode (ranges : Ranges) (code : Nat) : Bool :=
  ranges.any fun range => range.1 ≤ code && code ≤ range.2

def Ranges.contains (ranges : Ranges) (c : Char) : Bool :=
  ranges.containsCode c.toNat

end TextQuery.Text
