import TextQuery.Datum.Yaml.Token
import TextQuery.Failure

set_option autoImplicit false

namespace TextQuery.Datum.Yaml

/-- A node with its tag if it has one. What an untagged scalar is may depend on its text. A collection has
the name that aliases use. An alias within the collection that it stands for is that collection `again`, of
which no more is known than the empty shell. -/
inductive Node where
  | scalar (tag : Option String) (dependsOnText : Bool) (text : Loose)
  | sequence (name tag : Option String) (items : List Node)
  | mapping (name tag : Option String) (entries : List (Node × Node))
  | again (name : String) (shell : Node)
deriving Inhabited, Repr

def Node.absent : Node := .scalar none true ""

structure Remaining where
  tokens : List Token
  fault : Option Failure := none
  handles : List (String × String) := []
  anchors : List (String × Node) := []

abbrev Reader := StateT Remaining (Except Failure)

namespace Reader

def refuse {α : Type} : Reader α := throw .malformed

def next : Reader (Option Token) := do
  let left ← get
  match left.tokens, left.fault with
  | [], some fault => throw fault
  | tokens, _ => return tokens.head?

def advance : Reader Unit := modify fun left => { left with tokens := left.tokens.drop 1 }

def sees (tokens : List Token) : Reader Bool := return (← next).any tokens.contains

def takes (token : Token) : Reader Bool := do
  if ← sees [token] then
    advance
    return true
  else return false

def expect (token : Token) : Reader Unit := do
  if !(← takes token) then refuse

def anchor? : Reader (Option String) := do
  match ← next with
  | some (.anchor name) =>
    advance
    return some name
  | _ => return none

def tag? : Reader (Option (Option String × String)) := do
  match ← next with
  | some (.tag handle name) =>
    advance
    return some (handle, name)
  | _ => return none

def fullTag : Option String × String → Reader String
  | (none, name) => return name
  | (some handle, name) => do
    match (← get).handles.lookup handle with
    | some start => return start ++ name
    | none => refuse

/-- The anchor and the tag of a node, in either order. The name of the anchor is looked at when the
token behind them has come. -/
def properties : Reader (Option String × Option String) := do
  let (name, tag) ←
    match ← anchor? with
    | some name => pure (some name, ← tag?)
    | none =>
      let tag ← tag?
      pure (← anchor?, tag)
  let tag ← match tag with
    | none => pure none
    | some tag => pure (some (← fullTag tag))
  let _ ← next
  -- A name can be given once.
  if let some name := name then
    if ((← get).anchors.lookup name).isSome then refuse
  return (name, tag)

def define (name : Option String) (node : Node) : Reader Node := do
  match name with
  | none => return node
  | some name =>
    modify fun left => { left with anchors := (name, node) :: left.anchors }
    return node

def named (name : String) : Reader Node := do
  match (← get).anchors.lookup name with
  | some node => return node
  | none => refuse

def bareTag : String := "!"

def kept (tag : Option String) : Option String := tag.filter (· != bareTag)

/-- Reads a collection under a name, which stands for the same collection again until then. -/
def collection {α : Type} (name : Option String) (make : List α → Node) (items : Reader (List α)) :
    Reader Node := do
  if let some called := name then
    let _ ← define name (.again called (make []))
  define name (make (← items))

def scalar (tag : Option String) (content : Loose) (isPlain : Bool) : Node :=
  .scalar (kept tag) ((isPlain && tag.isNone) || tag == some bareTag) content

mutual

/-- Reads a node. Blocks may stand in some places only, and blocks of entries that are not indented in
still fewer. The fuel bounds the nesting and the count of nodes. -/
def node : (fuel : Nat) → (inBlock noIndent : Bool) → Reader Node
  | 0, _, _ => refuse
  | fuel + 1, inBlock, noIndent => do
    match ← next with
    | some (.alias name) =>
      advance
      named name
    | _ =>
      let (name, tag) ← properties
      let sequence := collection name (.sequence name (kept tag))
      let mapping := collection name (.mapping name (kept tag))
      match ← next with
      | some (.scalar content isPlain) =>
        advance
        define name (scalar tag content isPlain)
      | some .flowSequence =>
        advance
        sequence (flowItems fuel true)
      | some .flowMapping =>
        advance
        mapping (flowEntries fuel true)
      | token =>
        if noIndent && token == some .entry then sequence (looseItems fuel)
        else if inBlock && token == some .blockSequence then
          advance
          sequence (blockItems fuel)
        else if inBlock && token == some .blockMapping then
          advance
          mapping (blockEntries fuel)
        else if name.isSome || tag.isSome then define name (scalar tag "" true)
        else refuse

def nodeUnless : (fuel : Nat) → List Token → (inBlock noIndent : Bool) → Reader Node
  | 0, _, _, _ => refuse
  | fuel + 1, tokens, inBlock, noIndent => do
    if ← sees tokens then return .absent else node fuel inBlock noIndent

def blockItems : (fuel : Nat) → Reader (List Node)
  | 0 => refuse
  | fuel + 1 => do
    if ← takes .entry then
      let item ← nodeUnless fuel [.entry, .blockEnd] true false
      return item :: (← blockItems fuel)
    else
      expect .blockEnd
      return []

def looseItems : (fuel : Nat) → Reader (List Node)
  | 0 => refuse
  | fuel + 1 => do
    if ← takes .entry then
      let item ← nodeUnless fuel [.entry, .key, .value, .blockEnd] true false
      return item :: (← looseItems fuel)
    else return []

def blockEntries : (fuel : Nat) → Reader (List (Node × Node))
  | 0 => refuse
  | fuel + 1 => do
    if ← takes .key then
      let key ← nodeUnless fuel [.key, .value, .blockEnd] true true
      let value ←
        if ← takes .value then nodeUnless fuel [.key, .value, .blockEnd] true true
        else pure .absent
      return (key, value) :: (← blockEntries fuel)
    else
      expect .blockEnd
      return []

def flowValue : (fuel : Nat) → (closing : Token) → Reader Node
  | 0, _ => refuse
  | fuel + 1, closing => do
    if ← takes .value then nodeUnless fuel [.comma, closing] false false else return .absent

def flowItems : (fuel : Nat) → (isFirst : Bool) → Reader (List Node)
  | 0, _ => refuse
  | fuel + 1, isFirst => do
    if ← takes .flowSequenceEnd then return []
    if !isFirst then expect .comma
    if ← takes .key then
      let key ← nodeUnless fuel [.value, .comma, .flowSequenceEnd] false false
      let value ← flowValue fuel .flowSequenceEnd
      return .mapping none none [(key, value)] :: (← flowItems fuel false)
    else if ← takes .flowSequenceEnd then return []
    else
      let item ← node fuel false false
      return item :: (← flowItems fuel false)

def flowEntries : (fuel : Nat) → (isFirst : Bool) → Reader (List (Node × Node))
  | 0, _ => refuse
  | fuel + 1, isFirst => do
    if ← takes .flowMappingEnd then return []
    if !isFirst then expect .comma
    if ← takes .key then
      let key ← nodeUnless fuel [.value, .comma, .flowMappingEnd] false false
      let value ← flowValue fuel .flowMappingEnd
      return (key, value) :: (← flowEntries fuel false)
    else if ← takes .flowMappingEnd then return []
    else
      let key ← node fuel false false
      return (key, .absent) :: (← flowEntries fuel false)

end

def standardHandles : List (String × String) := [("!", "!"), ("!!", "tag:yaml.org,2002:")]

def directives : (fuel : Nat) → (versioned : Bool) → Reader Unit
  | 0, _ => refuse
  | fuel + 1, versioned => do
    match ← next with
    | some (.directive (.version major)) =>
      if versioned || major != 1 then refuse
      advance
      directives fuel true
    | some (.directive (.handle name start)) =>
      if ((← get).handles.lookup name).isSome then refuse
      modify fun left => { left with handles := (name, start) :: left.handles }
      advance
      directives fuel versioned
    | some (.directive .other) =>
      advance
      directives fuel versioned
    | _ => return ()

def skipEnds : Reader Unit := modify fun left =>
  { left with tokens := left.tokens.dropWhile (· == .documentEnd) }

def setStandardHandles : Reader Unit := modify fun left =>
  { left with handles := left.handles ++ standardHandles }

def isDirective : Option Token → Bool
  | some (.directive _) => true
  | _ => false

def markedRoot (fuel : Nat) : Reader (Option Node) := do
  skipEnds
  if (← next).isNone then return none
  directives fuel false
  expect .documentStart
  setStandardHandles
  let token ← next
  if token.isNone || isDirective token || token == some .documentStart || token == some .documentEnd
  then return some .absent
  else return some (← node fuel true false)

def root (fuel : Nat) : Reader (Option Node) := do
  let token ← next
  let found ←
    if token.isNone || isDirective token || token == some .documentStart then markedRoot fuel
    else do
      setStandardHandles
      pure (some (← node fuel true false))
  skipEnds
  -- A second document is refused, as soon as its directives are read.
  if (← next).isSome then
    directives fuel false
    refuse
  return found

end Reader

def Node.ofTokens (tokens : List Token) (fault : Option Failure) :
    Except Failure (Option Node × List (String × Node)) := do
  let (root, left) ← (Reader.root (4 * tokens.length + 8)).run { tokens, fault }
  return (root, left.anchors)

end TextQuery.Datum.Yaml
