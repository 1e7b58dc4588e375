set_option autoImplicit false

namespace TextQuery.Datum.Yaml

def isBreak (c : Char) : Bool :=
  c == '\n' || c == '\r' || c == '\u0085' || c == '\u2028' || c == '\u2029'

def isSpace (c : Char) : Bool := c == ' ' || c == '\t'

def isBlank (c : Char) : Bool := isSpace c || isBreak c

def endsWith (kind : Char → Bool) (next : Option Char) : Bool := next.all kind

structure Cursor where
  rest : List Char
  column : Nat := 0
  line : Nat := 0
  index : Nat := 0
deriving Repr

namespace Cursor

def next (cursor : Cursor) : Option Char := cursor.rest.head?

def advance (cursor : Cursor) : Cursor :=
  match cursor.rest with
  | [] => cursor
  | c :: rest =>
    if isBreak c && !(c == '\r' && rest.head? == some '\n') then
      ⟨rest, 0, cursor.line + 1, cursor.index + 1⟩
    else if c == '\uFEFF' then ⟨rest, cursor.column, cursor.line, cursor.index + 1⟩
    else ⟨rest, cursor.column + 1, cursor.line, cursor.index + 1⟩

def skip : Nat → Cursor → Cursor
  | 0, cursor => cursor
  | count + 1, cursor => skip count cursor.advance

def span (cursor : Cursor) (kind : Char → Bool) : List Char × Cursor :=
  let run := cursor.rest.takeWhile kind
  (run, cursor.skip run.length)

def skipWhile (cursor : Cursor) (kind : Char → Bool) : Cursor := (cursor.span kind).2

def lineBreak? (cursor : Cursor) : Option (Char × Cursor) :=
  match cursor.rest with
  | '\r' :: '\n' :: _ => some ('\n', cursor.skip 2)
  | c :: _ =>
    if c == '\u2028' || c == '\u2029' then some (c, cursor.advance)
    else if isBreak c then some ('\n', cursor.advance)
    else none
  | [] => none

def skipSpaces (cursor : Cursor) : Cursor := cursor.skipWhile (· == ' ')

def skipComment (cursor : Cursor) : Cursor :=
  if cursor.next == some '#' then cursor.skipWhile (!isBreak ·) else cursor

def endLine? (cursor : Cursor) : Option Cursor :=
  let cursor := cursor.skipSpaces.skipComment
  if cursor.rest.isEmpty then some cursor else cursor.lineBreak?.map Prod.snd

def isTripled (cursor : Cursor) (sign : Char) : Bool :=
  cursor.rest.take 3 == [sign, sign, sign] && endsWith isBlank (cursor.rest.drop 3).head?

def atMarker (cursor : Cursor) : Bool := cursor.isTripled '-' || cursor.isTripled '.'

end Cursor

end TextQuery.Datum.Yaml
