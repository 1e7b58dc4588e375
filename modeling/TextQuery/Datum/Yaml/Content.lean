import TextQuery.Document.JsonReader
import TextQuery.Datum.Yaml.Cursor
import TextQuery.Failure

set_option autoImplicit false

namespace TextQuery.Datum.Yaml

def joinLines (first : Char) (others : List Char) : List Char :=
  if first != '\n' then first :: others else if others.isEmpty then [' '] else others

def isBlankAhead (cursor : Cursor) : Bool := cursor.next.any isSpace

abbrev Quoting := Except Failure

def quotedBreaks : (fuel : Nat) → Cursor → Quoting (List Char × Cursor)
  | 0, _ => .error .malformed
  | fuel + 1, cursor =>
    if cursor.atMarker then .error .malformed
    else
      let cursor := cursor.skipWhile isSpace
      match cursor.lineBreak? with
      | some (c, cursor) =>
        (quotedBreaks fuel cursor).map fun (breaks, cursor) => (c :: breaks, cursor)
      | none => .ok ([], cursor)

def escapes : List (Char × Char) := [
  ('0', '\x00'), ('a', '\x07'), ('b', '\x08'), ('t', '\t'), ('\t', '\t'), ('n', '\n'),
  ('v', '\x0b'), ('f', '\x0c'), ('r', '\r'), ('e', '\x1b'), (' ', ' '), ('"', '"'), ('\\', '\\'),
  ('/', '/'), ('N', '\u0085'), ('_', '\u00a0'), ('L', '\u2028'), ('P', '\u2029')]

def codeLengths : List (Char × Nat) := [('x', 2), ('u', 4), ('U', 8)]

def code? (digits : List Char) : Option Nat := do
  let values ← digits.mapM Document.JsonReader.hexValue?
  return values.foldl (fun code value => 16 * code + value) 0

def coded (code : Nat) : Quoting Letter :=
  if code ≥ Nat.pow 2 31 then .error (.scalar .codeTooLarge)
  else if code > 0x10FFFF then .error (.scalar .notACharacter)
  else .ok (.ofCode code)

-- Characters that stand for themselves.
def asWritten (read : List Char × Cursor) : List Letter × Cursor := (read.1.map .char, read.2)

def escaped (cursor : Cursor) : Quoting (List Letter × Cursor) :=
  match cursor.rest with
  | [] => .error .malformed
  | c :: rest =>
    match escapes.lookup c, codeLengths.lookup c with
    | some meant, _ => .ok ([.char meant], cursor.advance)
    | none, some length =>
      match if rest.length < length then none else code? (rest.take length) with
      | none => .error .malformed
      | some code => (coded code).map fun letter => ([letter], cursor.skip (length + 1))
    | none, none =>
      match cursor.lineBreak? with
      | some (_, cursor) => (quotedBreaks (cursor.rest.length + 1) cursor).map asWritten
      | none => .error .malformed

def quotedBlanks (cursor : Cursor) : Quoting (List Char × Cursor) :=
  let (blanks, cursor) := cursor.span isSpace
  match cursor.lineBreak? with
  | some (c, cursor) =>
    (quotedBreaks (cursor.rest.length + 1) cursor).map fun (breaks, cursor) =>
      (joinLines c breaks, cursor)
  | none => .ok (blanks, cursor)

def quoted (quote : Char) : (fuel : Nat) → Cursor → Quoting (List Letter × Cursor)
  | 0, _ => .error .malformed
  | fuel + 1, cursor =>
    match cursor.rest with
    | [] => .error .malformed
    | c :: rest => do
      if c == quote && !(c == '\'' && rest.head? == some c) then return ([], cursor.advance)
      let (content, cursor) ←
        if c == quote then .ok ([.char c], cursor.skip 2)
        else if c == '\\' && quote == '"' then escaped cursor.advance
        else if isBlank c then (quotedBlanks cursor).map asWritten
        else .ok ([.char c], cursor.advance)
      let (others, cursor) ← quoted quote fuel cursor
      return (content ++ others, cursor)

inductive Chomping where
  | clip
  | strip
  | keep
deriving DecidableEq, Repr

def chomping? : List Char → Chomping × List Char
  | '+' :: rest => (.keep, rest)
  | '-' :: rest => (.strip, rest)
  | rest => (.clip, rest)

def increment? : List Char → Option Nat × List Char
  | [] => (none, [])
  | c :: rest => if Number.isDigit c then (some (Number.digitValue c), rest) else (none, c :: rest)

def indicators? (cursor : Cursor) : Option (Chomping × Option Nat × Cursor) :=
  let (chomping, rest) := chomping? cursor.rest
  let (increment, rest) := increment? rest
  let (chomping, rest) := if chomping = .clip then chomping? rest else (chomping, rest)
  let cursor := cursor.skip (cursor.rest.length - rest.length)
  if increment = some 0 || !endsWith (fun c => c == ' ' || isBreak c) cursor.next then none
  else some (chomping, increment, cursor)

def skipTo (indent : Nat) (cursor : Cursor) : Cursor :=
  let spaces := cursor.rest.takeWhile (· == ' ')
  cursor.skip (min spaces.length (indent - cursor.column))

def blockBreaks (indent : Nat) : (fuel : Nat) → Cursor → List Char × Cursor
  | 0, cursor => ([], cursor)
  | fuel + 1, cursor =>
    let cursor := skipTo indent cursor
    match cursor.lineBreak? with
    | some (c, cursor) =>
      let (breaks, cursor) := blockBreaks indent fuel cursor
      (c :: breaks, cursor)
    | none => ([], cursor)

def leadingBreaks : (fuel : Nat) → Cursor → List Char × Nat × Cursor
  | 0, cursor => ([], 0, cursor)
  | fuel + 1, cursor =>
    let cursor := cursor.skipSpaces
    match cursor.lineBreak? with
    | some (c, next) =>
      let (breaks, indent, next) := leadingBreaks fuel next
      (c :: breaks, max cursor.column indent, next)
    | none => ([], cursor.column, cursor)

def blockJoint (folded startsBlank : Bool) (ending breaks : List Char) (cursor : Cursor) :
    List Char :=
  if folded && ending == ['\n'] && !startsBlank && !isBlankAhead cursor then
    if breaks.isEmpty then [' '] else []
  else ending

def blockLines (folded : Bool) (indent : Nat) : (fuel : Nat) → Cursor → (breaks : List Char) →
    List Char × List Char × List Char × Cursor
  | 0, cursor, breaks => ([], [], breaks, cursor)
  | fuel + 1, cursor, breaks =>
    if cursor.column == indent && !cursor.rest.isEmpty then
      let startsBlank := isBlankAhead cursor
      let (line, cursor) := cursor.span (!isBreak ·)
      let (ending, cursor) := match cursor.lineBreak? with
        | some (c, cursor) => ([c], cursor)
        | none => ([], cursor)
      let (after, cursor) := blockBreaks indent (cursor.rest.length + 1) cursor
      if cursor.column == indent && !cursor.rest.isEmpty then
        let joint := blockJoint folded startsBlank ending after cursor
        let (others, ending, last, cursor) := blockLines folded indent fuel cursor after
        (breaks ++ line ++ joint ++ others, ending, last, cursor)
      else (breaks ++ line, ending, after, cursor)
    else ([], [], breaks, cursor)

def block? (folded : Bool) (outer : Int) (cursor : Cursor) : Option (List Char × Cursor) := do
  let (chomping, increment, cursor) ← indicators? cursor
  let cursor ← cursor.endLine?
  -- A block is indented by one column at least, also at the top.
  let least := max (outer + 1).toNat 1
  let fuel := cursor.rest.length + 1
  let (breaks, indent, cursor) := match increment with
    | none =>
      let (breaks, indent, cursor) := leadingBreaks fuel cursor
      (breaks, max least indent, cursor)
    | some increment =>
      let indent := least + increment - 1
      let (breaks, cursor) := blockBreaks indent fuel cursor
      (breaks, indent, cursor)
  let (content, ending, breaks, cursor) := blockLines folded indent fuel cursor breaks
  let tail := match chomping with
    | .strip => []
    | .clip => ending
    | .keep => ending ++ breaks
  return (content ++ tail, cursor)

def isFlowSign (c : Char) : Bool := c == ',' || c == '[' || c == ']' || c == '\x7b' || c == '\x7d'

def plainRun (inFlow : Bool) : List Char → List Char
  | [] => []
  | c :: rest =>
    let endsKey := c == ':' && endsWith (fun d => isBlank d || (inFlow && isFlowSign d)) rest.head?
    if isBlank c || endsKey || (inFlow && (c == '?' || isFlowSign c)) then []
    else c :: plainRun inFlow rest

def plainBreaks : (fuel : Nat) → Cursor → Option (List Char) × Cursor
  | 0, cursor => (none, cursor)
  | fuel + 1, cursor =>
    if cursor.atMarker then (none, cursor)
    else
      let cursor := cursor.skipSpaces
      match cursor.lineBreak? with
      | some (c, cursor) =>
        let (breaks, cursor) := plainBreaks fuel cursor
        (breaks.map (c :: ·), cursor)
      | none => (some [], cursor)

def plainGap (cursor : Cursor) : List Char × Bool × Cursor :=
  let (blanks, cursor) := cursor.span (· == ' ')
  match cursor.lineBreak? with
  | none => (blanks, false, cursor)
  | some (c, cursor) =>
    match plainBreaks (cursor.rest.length + 1) cursor with
    | (some breaks, cursor) => (joinLines c breaks, true, cursor)
    | (none, cursor) => ([], true, cursor)

def plain (inFlow : Bool) (indent : Nat) : (fuel : Nat) → Cursor → (gap : List Char) →
    (broken : Bool) → List Char × Bool × Cursor
  | 0, cursor, _, broken => ([], broken, cursor)
  | fuel + 1, cursor, gap, broken =>
    let run := plainRun inFlow cursor.rest
    if cursor.next == some '#' || run.isEmpty then ([], broken, cursor)
    else
      let (next, broken, cursor) := plainGap (cursor.skip run.length)
      if next.isEmpty || cursor.next == some '#' || (!inFlow && cursor.column < indent) then
        (gap ++ run, broken, cursor)
      else
        let (others, broken, cursor) := plain inFlow indent fuel cursor next broken
        (gap ++ run ++ others, broken, cursor)

end TextQuery.Datum.Yaml
