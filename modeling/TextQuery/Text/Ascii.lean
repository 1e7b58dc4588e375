
set_option autoImplicit false

namespace TextQuery.Text

def asciiFold (text : String) : String := String.ofList (text.toList.map Char.toLower)

def sameName (a b : String) : Bool := asciiFold a == asciiFold b

theorem sameName_refl (a : String) : sameName a a = true := by simp [sameName]

def startsWith (text beginning : String) : Bool := beginning.toList.isPrefixOf text.toList

def hexDigits (width number : Nat) : List Char :=
  let digits := Nat.toDigits 16 number
  List.replicate (width - digits.length) '0' ++ digits

end TextQuery.Text
