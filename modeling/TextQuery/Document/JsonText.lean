import TextQuery.Document
import TextQuery.Number.Shortest
import TextQuery.Number.Digits
import TextQuery.Text.Ascii

set_option autoImplicit false

namespace TextQuery.Document

open TextQuery.Number TextQuery.Text

namespace JsonText

def escape (c : Char) : List Char :=
  if c == '"' then ['\\', '"']
  else if c == '\\' then ['\\', '\\']
  else if c == '\n' then ['\\', 'n']
  else if c == '\r' then ['\\', 'r']
  else if c == '\t' then ['\\', 't']
  else if c == '\x08' then ['\\', 'b']
  else if c == '\x0c' then ['\\', 'f']
  else if c.toNat < 0x20 then '\\' :: 'u' :: hexDigits 4 c.toNat
  else [c]

def string (text : String) : List Char := '"' :: (text.toList.flatMap escape ++ ['"'])

def lineBreak : Option Nat → List Char
  | none => []
  | some depth => '\n' :: List.replicate (2 * depth) ' '

def deeper (layout : Option Nat) : Option Nat := layout.map (· + 1)

def scalar : Document → List Char
  | .bool true => "true".toList
  | .bool false => "false".toList
  | .int value => (integerText value).toList
  | .real value => value.shortText.toList
  | .text value => string value
  | .null | .list _ | .mapping _ => "null".toList

mutual

def write (layout : Option Nat) : Document → List Char
  | .list [] => ['[', ']']
  | .list (item :: rest) =>
    '[' :: (lineBreak (deeper layout) ++ write (deeper layout) item
      ++ writeItems (deeper layout) rest ++ lineBreak layout ++ [']'])
  | .mapping [] => ['\x7b', '\x7d']
  | .mapping ((key, value) :: rest) =>
    '\x7b' :: (lineBreak (deeper layout) ++ string key ++ [':', ' ']
      ++ write (deeper layout) value ++ writeEntries (deeper layout) rest
      ++ lineBreak layout ++ ['\x7d'])
  | .null => scalar .null
  | .bool value => scalar (.bool value)
  | .int value => scalar (.int value)
  | .real value => scalar (.real value)
  | .text value => scalar (.text value)

def writeItems (layout : Option Nat) : List Document → List Char
  | [] => []
  | item :: rest => ',' :: (lineBreak layout ++ write layout item ++ writeItems layout rest)

def writeEntries (layout : Option Nat) : List (String × Document) → List Char
  | [] => []
  | (key, value) :: rest =>
    ',' :: (lineBreak layout ++ string key ++ [':', ' '] ++ write layout value
      ++ writeEntries layout rest)

end

end JsonText

def toIndentedJson (document : Document) : String :=
  String.ofList (JsonText.write (some 0) document)

def toJsonLine (document : Document) : String := String.ofList (JsonText.write none document)

end TextQuery.Document
