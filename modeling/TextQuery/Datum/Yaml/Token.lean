import TextQuery.Datum.Yaml.Content

-- Tokens of YAML. Indentation becomes tokens that open and close collections, and a text becomes a key when the
-- colon behind it is read: until then the place before it is kept as a possible key.

set_option autoImplicit false

namespace TextQuery.Datum.Yaml

inductive Directive where
  | version (major : Nat)
  | handle (name start : String)
  | other
deriving DecidableEq, Repr

inductive Token where
  | directive (directive : Directive)
  | documentStart
  | documentEnd
  | blockSequence
  | blockMapping
  | blockEnd
  | flowSequence
  | flowSequenceEnd
  | flowMapping
  | flowMappingEnd
  | entry
  | comma
  | key
  | value
  | anchor (name : String)
  | alias (name : String)
  | tag (handle : Option String) (name : String)
  | scalar (content : Loose) (isPlain : Bool)
deriving DecidableEq, Repr

structure KeyPlace where
  position : Nat
  required : Bool
  index : Nat
  line : Nat
  column : Nat
deriving Repr

/-- What has been read so far. The places of possible keys are kept for every open bracket, the
innermost first. Reading ends where a scalar cannot be read. -/
structure Reading where
  cursor : Cursor
  tokens : List Token := []
  indent : Int := -1
  outer : List Int := []
  places : List (Option KeyPlace) := [none]
  allowsKey : Bool := true
  fault : Option Failure := none
deriving Repr

namespace Reading

def inFlow (reading : Reading) : Bool := reading.places.length > 1

def add (reading : Reading) (token : Token) : Reading :=
  { reading with tokens := reading.tokens ++ [token] }

def insert (reading : Reading) (position : Nat) (token : Token) : Reading :=
  { reading with tokens := reading.tokens.take position ++ token :: reading.tokens.drop position }

def skip (reading : Reading) (count : Nat) : Reading :=
  { reading with cursor := reading.cursor.skip count }

def keyLength : Nat := 1024

def isStale (cursor : Cursor) (place : KeyPlace) : Bool :=
  place.line != cursor.line || cursor.index - place.index > keyLength

def giveUp (cursor : Cursor) : Option KeyPlace → Option (Option KeyPlace)
  | none => some none
  | some place =>
    if isStale cursor place then if place.required then none else some none else some (some place)

def dropStale (reading : Reading) : Option Reading := do
  return { reading with places := ← reading.places.mapM (giveUp reading.cursor) }

def dropPlace (reading : Reading) : Option Reading :=
  match reading.places with
  | some place :: rest =>
    if place.required then none else some { reading with places := none :: rest }
  | _ => some reading

def savePlace (reading : Reading) : Option Reading :=
  if reading.allowsKey then do
    let cursor := reading.cursor
    let place : KeyPlace := {
      position := reading.tokens.length
      required := !reading.inFlow && reading.indent == cursor.column
      index := cursor.index
      line := cursor.line
      column := cursor.column }
    -- Of two possible keys in a row only the last one can still be one.
    let reading ← reading.dropPlace
    return { reading with places := some place :: reading.places.drop 1 }
  else some reading

def closeBlocks (reading : Reading) (column : Int) : Reading :=
  if reading.inFlow then reading
  else
    let opened := reading.indent :: reading.outer
    let closed := (opened.takeWhile (column < ·)).length
    { reading with
      indent := (opened.drop closed).head?.getD (-1)
      outer := opened.drop (closed + 1)
      tokens := reading.tokens ++ List.replicate closed .blockEnd }

def openBlock (reading : Reading) (column position : Nat) (token : Token) : Reading :=
  if reading.indent < column then
    { reading.insert position token with
      indent := column
      outer := reading.indent :: reading.outer }
  else reading

def toNext : (fuel : Nat) → Reading → Reading
  | 0, reading => reading
  | fuel + 1, reading =>
    let cursor := reading.cursor.skipSpaces.skipComment
    match cursor.lineBreak? with
    | some (_, cursor) =>
      toNext fuel { reading with cursor, allowsKey := reading.allowsKey || !reading.inFlow }
    | none => { reading with cursor }

def isNameChar (c : Char) : Bool := c.isAlphanum || c == '-' || c == '_'

def isLineEnd (c : Char) : Bool := c == ' ' || isBreak c

def number? (cursor : Cursor) : Option (Nat × Cursor) :=
  match cursor.span Number.isDigit with
  | ([], _) => none
  | (digits, cursor) => some (Number.valueOf digits, cursor)

def version? (cursor : Cursor) : Option (Directive × Cursor) := do
  let (major, cursor) ← number? cursor.skipSpaces
  if cursor.next != some '.' then none
  let (_, cursor) ← number? cursor.advance
  return (.version major, cursor)

def handle? (cursor : Cursor) : Option (String × Cursor) :=
  if cursor.next != some '!' then none
  else
    let (name, after) := cursor.advance.span isNameChar
    if after.next == some '!' then some (String.ofList ('!' :: name ++ ['!']), after.advance)
    else if cursor.advance.next == some ' ' then some ("!", cursor.advance)
    else none

def isTagChar (c : Char) : Bool := c.isAlphanum || "-;/?:@&=+$,_.!~*'()[]%".toList.contains c

def percentBytes : List Char → Option (List UInt8 × List Char)
  | '%' :: a :: b :: rest => do
    let a ← Document.JsonReader.hexValue? a
    let b ← Document.JsonReader.hexValue? b
    let (octets, rest) ← percentBytes rest
    return (UInt8.ofNat (16 * a + b) :: octets, rest)
  | '%' :: _ => none
  | rest => some ([], rest)

def unescapeTag : (fuel : Nat) → List Char → Option (List Char)
  | 0, _ => none
  | _, [] => some []
  | fuel + 1, c :: rest => do
    if c == '%' then
      let (octets, rest) ← percentBytes (c :: rest)
      let text ← String.fromUTF8? ⟨octets.toArray⟩
      return text.toList ++ (← unescapeTag fuel rest)
    else return c :: (← unescapeTag fuel rest)

def tagText? (cursor : Cursor) : Option (String × Cursor) :=
  match cursor.span isTagChar with
  | ([], _) => none
  | (written, cursor) =>
    (unescapeTag (written.length + 1) written).map fun text => (String.ofList text, cursor)

def handleDirective? (cursor : Cursor) : Option (Directive × Cursor) := do
  let (name, cursor) ← handle? cursor.skipSpaces
  if cursor.next != some ' ' then none
  let (start, cursor) ← tagText? cursor.skipSpaces
  return (.handle name start, cursor)

def directive? (cursor : Cursor) : Option (Directive × Cursor) := do
  let (name, cursor) := cursor.span isNameChar
  if name.isEmpty || !endsWith isLineEnd cursor.next then none
  let (directive, cursor) ← match String.ofList name with
    | "YAML" => version? cursor
    | "TAG" => handleDirective? cursor
    | _ => some (.other, cursor.skipWhile (!isBreak ·))
  if !endsWith isLineEnd cursor.next then none
  return (directive, ← cursor.endLine?)

def isNameEnd (c : Char) : Bool := isBlank c || "?:,]\x7d%@\x60".toList.contains c

def name? (cursor : Cursor) : Option (String × Cursor) :=
  let (name, cursor) := cursor.span isNameChar
  if name.isEmpty || !endsWith isNameEnd cursor.next then none
  else some (String.ofList name, cursor)

def tag? (cursor : Cursor) : Option (Token × Cursor) := do
  let after := cursor.advance
  let (token, cursor) ←
    if after.next == some '<' then do
      let (name, cursor) ← tagText? after.advance
      if cursor.next != some '>' then none
      pure (Token.tag none name, cursor.advance)
    else if endsWith isBlank after.next then pure (Token.tag none "!", after)
    else do
      let word := after.rest.takeWhile (!isLineEnd ·)
      let (handle, cursor) ← if word.contains '!' then handle? cursor else some ("!", after)
      let (name, cursor) ← tagText? cursor
      pure (Token.tag (some handle) name, cursor)
  if !endsWith isLineEnd cursor.next then none
  return (token, cursor)

def endDocument (reading : Reading) : Option Reading := do
  let reading ← (reading.closeBlocks (-1)).dropPlace
  return { reading with allowsKey := false }

def readDirective (reading : Reading) : Option Reading := do
  let reading ← reading.endDocument
  let (directive, cursor) ← directive? reading.cursor.advance
  return { reading with cursor }.add (.directive directive)

def readMarker (token : Token) (reading : Reading) : Option Reading := do
  return ((← reading.endDocument).skip 3).add token

def openBracket (token : Token) (reading : Reading) : Option Reading := do
  let reading ← reading.savePlace
  return { (reading.skip 1).add token with places := none :: reading.places, allowsKey := true }

def closeBracket (token : Token) (reading : Reading) : Option Reading := do
  let reading ← reading.dropPlace
  match reading.places with
  | _ :: place :: rest =>
    return { (reading.skip 1).add token with places := place :: rest, allowsKey := false }
  | _ => none

def readComma (reading : Reading) : Option Reading := do
  let reading ← { reading with allowsKey := true }.dropPlace
  return (reading.skip 1).add .comma

def openBlockHere (token : Token) (reading : Reading) : Option Reading :=
  if reading.inFlow then some reading
  else if reading.allowsKey then
    some (reading.openBlock reading.cursor.column reading.tokens.length token)
  else none

def readEntry (reading : Reading) : Option Reading := do
  let reading ← reading.openBlockHere .blockSequence
  let reading ← { reading with allowsKey := true }.dropPlace
  return (reading.skip 1).add .entry

def readKey (reading : Reading) : Option Reading := do
  let reading ← reading.openBlockHere .blockMapping
  let reading ← { reading with allowsKey := !reading.inFlow }.dropPlace
  return (reading.skip 1).add .key

def readValue (reading : Reading) : Option Reading := do
  match reading.places with
  | some place :: rest =>
    -- The tokens of the key have been read already; the marks go in front of them.
    let reading := { reading.insert place.position .key with places := none :: rest }
    let reading :=
      if reading.inFlow then reading
      else reading.openBlock place.column place.position .blockMapping
    return ({ reading with allowsKey := false }.skip 1).add .value
  | _ =>
    let reading ← reading.openBlockHere .blockMapping
    return ({ reading with allowsKey := !reading.inFlow }.skip 1).add .value

def readContent (read : Cursor → Option (Token × Cursor)) (reading : Reading) : Option Reading := do
  let reading ← reading.savePlace
  let (token, cursor) ← read reading.cursor
  return { reading with cursor, allowsKey := false }.add token

def readName (make : String → Token) : Reading → Option Reading :=
  readContent fun cursor => (name? cursor.advance).map fun (name, cursor) => (make name, cursor)

def readQuoted (quote : Char) (reading : Reading) : Option Reading :=
  let cursor := reading.cursor
  match quoted quote (cursor.rest.length + 1) cursor.advance with
  | .error .malformed => none
  | .error fault => some { reading with fault }
  | .ok (content, after) =>
    reading.readContent fun _ => some (.scalar ⟨content⟩ false, after)

def readBlock (folded : Bool) (reading : Reading) : Option Reading := do
  let reading ← { reading with allowsKey := true }.dropPlace
  let (content, cursor) ← block? folded reading.indent reading.cursor.advance
  return { reading with cursor }.add (.scalar (.ofChars content) false)

def readPlain (reading : Reading) : Option Reading := do
  let reading ← reading.savePlace
  let fuel := reading.cursor.rest.length + 1
  let (content, broken, cursor) :=
    plain reading.inFlow (reading.indent + 1).toNat fuel reading.cursor [] false
  return { reading with cursor, allowsKey := broken }.add (.scalar (.ofChars content) true)

def isIndicator (c : Char) : Bool := "-?:,[]\x7b\x7d#&*!|>'\"%@\x60".toList.contains c

def startsPlain (inFlow : Bool) (c : Char) (next : Option Char) : Bool :=
  !(isBlank c || isIndicator c)
    || (!endsWith isBlank next && (c == '-' || (!inFlow && (c == '?' || c == ':'))))

def readToken (reading : Reading) (c : Char) (next : Option Char) : Option Reading :=
  let atStart := reading.cursor.column == 0
  let inFlow := reading.inFlow
  let apart := endsWith isBlank next
  if c == '%' && atStart then reading.readDirective
  else if atStart && reading.cursor.isTripled '-' then reading.readMarker .documentStart
  else if atStart && reading.cursor.isTripled '.' then reading.readMarker .documentEnd
  else if c == '[' then reading.openBracket .flowSequence
  else if c == '\x7b' then reading.openBracket .flowMapping
  else if c == ']' then reading.closeBracket .flowSequenceEnd
  else if c == '\x7d' then reading.closeBracket .flowMappingEnd
  else if c == ',' then reading.readComma
  else if c == '-' && apart then reading.readEntry
  else if c == '?' && (inFlow || apart) then reading.readKey
  else if c == ':' && (inFlow || apart) then reading.readValue
  else if c == '*' then reading.readName .alias
  else if c == '&' then reading.readName .anchor
  else if c == '!' then reading.readContent tag?
  else if c == '|' && !inFlow then reading.readBlock false
  else if c == '>' && !inFlow then reading.readBlock true
  else if c == '\'' || c == '"' then reading.readQuoted c
  else if startsPlain inFlow c next then reading.readPlain
  else none

/-- The tokens before the first one that may still turn out to be a key. -/
def settled (reading : Reading) : List Token :=
  let open? (place : Option KeyPlace) : Option Nat :=
    (place.filter (!isStale reading.cursor ·)).map KeyPlace.position
  reading.tokens.take ((reading.places.filterMap open?).foldl min reading.tokens.length)

-- Reads all tokens, or those before a scalar that cannot be read. The fuel bounds their number.
def readAll : (fuel : Nat) → Reading → Option (List Token × Option Failure)
  | 0, _ => none
  | fuel + 1, before => do
    let reading ← (before.toNext (before.cursor.rest.length + 1)).dropStale
    match reading.cursor.rest with
    | [] =>
      let reading ← reading.endDocument
      return (reading.tokens, none)
    | c :: rest =>
      -- Blocks end where a line is indented less than they are, whatever comes there.
      let next ← (reading.closeBlocks reading.cursor.column).readToken c rest.head?
      -- Tokens are asked for one by one, so the fault comes when those before it are used up.
      if next.fault.isSome then return (before.settled, next.fault) else readAll fuel next

end Reading

def isPrintable (c : Char) : Bool :=
  c == '\t' || c == '\n' || c == '\r' || (' ' ≤ c && c ≤ '~') || c == '\u0085'
    || ('\u00a0' ≤ c && c ≤ '\uFFFD') || c.toNat ≥ 0x10000

def Token.ofText? (text : List Char) : Option (List Token × Option Failure) :=
  if text.all isPrintable then
    let cursor : Cursor := { rest := text }
    let cursor := if cursor.next == some '\uFEFF' then cursor.advance else cursor
    Reading.readAll (text.length + 2) { cursor }
  else none

end TextQuery.Datum.Yaml
