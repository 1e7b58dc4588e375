import TextQuery.Text.Ascii
import TextQuery.Text.Unprintable

set_option autoImplicit false

namespace TextQuery.Text

def quoteMark (text : String) : Char :=
  if text.toList.contains '\'' && !text.toList.contains '"' then '"' else '\''

def numbered (code : Nat) : List Char :=
  if code < 0x100 then '\\' :: 'x' :: hexDigits 2 code
  else if code < 0x10000 then '\\' :: 'u' :: hexDigits 4 code
  else '\\' :: 'U' :: hexDigits 8 code

def escaped (mark c : Char) : List Char :=
  if c == mark || c == '\\' then ['\\', c]
  else if c == '\n' then ['\\', 'n']
  else if c == '\r' then ['\\', 'r']
  else if c == '\t' then ['\\', 't']
  else if unprintable.contains c then numbered c.toNat
  else [c]

def quoted (text : String) : String :=
  let mark := quoteMark text
  String.ofList (mark :: text.toList.flatMap (escaped mark) ++ [mark])

def quotedTuple : List String → String
  | [] => "()"
  | [text] => "(" ++ quoted text ++ ",)"
  | texts => "(" ++ String.intercalate ", " (texts.map quoted) ++ ")"

end TextQuery.Text
