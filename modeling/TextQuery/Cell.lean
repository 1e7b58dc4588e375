import TextQuery.Number.Stored
import TextQuery.Text.Ascii

set_option autoImplicit false

namespace TextQuery

inductive Cell where
  | null
  | int (value : Int)
  | real (value : Number.Binary64)
  | text (value : String)
  | blob (bytes : List UInt8)
deriving DecidableEq, Repr, Inhabited

namespace Cell

def text? : Cell → Option String
  | .text value => some value
  | _ => none

def escape (c : Char) : List Char := if c == '"' || c == '\\' then ['\\', c] else [c]

def hexByte (byte : UInt8) : List Char := (Text.hexDigits 2 byte.toNat).map Char.toUpper

def describe : Cell → String
  | .null => "NULL"
  | .int value => Number.integerText value
  | .real value => value.shortText
  | .text value => String.ofList ('"' :: (value.toList.flatMap escape ++ ['"']))
  | .blob bytes => String.ofList ('X' :: '\'' :: (bytes.flatMap hexByte ++ ['\'']))

end Cell

abbrev Row := List (String × Cell)

def Row.describe (row : Row) : String :=
  String.intercalate " " (row.map fun (column, value) => column ++ ":" ++ value.describe)

end TextQuery
