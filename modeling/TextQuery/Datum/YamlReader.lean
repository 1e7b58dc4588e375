import TextQuery.Datum.Yaml.Node
import TextQuery.Datum.Yaml.Value

-- Reading of YAML: the documents that nodes stand for. Collections are filled level by level, all of one level
-- before any of the next, so of several faults the one on the outermost level is reported.

set_option autoImplicit false

namespace TextQuery.Datum

namespace Yaml

def standard (name : String) : String := "tag:yaml.org,2002:" ++ name

def kindTags : List (String × Kind) := [
  (standard "null", .null), (standard "bool", .bool), (standard "int", .int),
  (standard "float", .float), (standard "binary", .binary), (standard "timestamp", .moment),
  (standard "str", .text), (standard "seq", .sequence), (standard "map", .mapping),
  (standard "omap", .orderedMapping), (standard "pairs", .pairs), (standard "set", .set),
  (standard "merge", .merge), (standard "value", .value)]

def tagged (tag : Option String) (untagged : Kind) : Kind :=
  match tag with
  | some tag => (kindTags.lookup tag).getD .unknown
  | none => untagged

def Node.kind : Node → Kind
  | .scalar tag dependsOnText written =>
    tagged tag (if dependsOnText then Scalar.kindOf written else .text)
  | .sequence _ tag _ => tagged tag .sequence
  | .mapping _ tag _ => tagged tag .mapping
  | .again _ shell => shell.kind

mutual

/-- The text of a node. That of a mapping is the text of its value, if it has a key that is the sign
for one. -/
def Node.text : Node → Except Failure Loose
  | .scalar _ _ written => .ok written
  | .sequence _ _ _ => .error .malformed
  | .mapping _ _ entries => valueText entries
  | .again _ shell => shell.text

def valueText : List (Node × Node) → Except Failure Loose
  | [] => .error .malformed
  | (key, value) :: rest => if key.kind = .value then value.text else valueText rest

end

inductive Begun where
  | done (value : Leaf)
  | collection (node : Node)

def read {α : Type} (value : Value.Reading α) : Except Failure α := value.mapError .scalar

def readMoment (node : Node) : Except Failure Leaf := do
  let text ← node.text
  match node with
  | .scalar _ _ _ => return .moment text (← read (Value.moment text))
  | _ => throw (.scalar .notAText)

def Node.begin (node : Node) : Except Failure Begun := do
  match node.kind with
  | .null =>
    let _ ← node.text
    return .done .null
  | .bool => return .done (.bool (← read (Value.bool (← node.text))))
  | .int => return .done (.int (← read (Value.int (← node.text))))
  | .float => return .done (← read (Value.float (← node.text)))
  | .binary =>
    match Value.bytes? (← node.text) with
    | some content => return .done (.bytes content)
    | none => throw .malformed
  | .moment => return .done (← readMoment node)
  | .text => return .done (.text (← node.text))
  | .sequence | .mapping | .orderedMapping | .pairs | .set => return .collection node
  | .merge | .value | .unknown => throw .malformed

def isMerge (entry : Node × Node) : Bool := entry.1.kind = .merge

def Node.known : Node → Node
  | .again _ shell => shell
  | node => node

/-- The entries of a mapping. Those of the mappings that it merges come first. The fuel bounds the
nesting of merges. -/
def mergedEntries : (fuel : Nat) → List (Node × Node) → Except Failure (List (Node × Node))
  | 0, _ => .error .malformed
  | fuel + 1, entries => do
    let merged ← (entries.filter isMerge).mapM fun (_, value) =>
      match value.known with
      | .mapping _ _ inner => mergedEntries fuel inner
      | .sequence _ _ items => do
        let parts ← items.mapM fun item =>
          match item.known with
          | .mapping _ _ inner => mergedEntries fuel inner
          | _ => .error .malformed
        -- Of several merged mappings the first one wins, so it comes last.
        return parts.reverse.flatten
      | _ => .error .malformed
    -- Own entries come last, so they win over merged ones.
    return merged.flatten ++ entries.filter fun entry => !isMerge entry

def plainKey (key : Node) : Node :=
  if key.kind != .value then key
  else match key with
    | .scalar _ _ written => .scalar (some (standard "str")) false written
    | .sequence name _ items => .sequence name (some (standard "str")) items
    | .mapping name _ entries => .mapping name (some (standard "str")) entries
    | .again name shell => .again name shell

inductive Content where
  | listed (parts : List Begun)
  | paired (parts : List (Begun × Begun))
  | members (parts : List (Leaf × Begun))
  | keyed (parts : List (Leaf × Begun))

def Content.parts : Content → List Begun
  | .listed parts => parts
  | .paired parts => parts.flatMap fun (key, value) => [key, value]
  | .members parts | .keyed parts => parts.map Prod.snd

def readEntries (fuel : Nat) (entries : List (Node × Node)) :
    Except Failure (List (Leaf × Begun)) := do
  (← mergedEntries fuel entries).mapM fun (key, value) => do
    match ← (plainKey key).begin with
    | .done key => return (key, ← value.begin)
    | .collection _ => throw .malformed

def readPair : Node → Except Failure (Begun × Begun)
  | .mapping _ _ [(key, value)] => do return (← key.begin, ← value.begin)
  | _ => .error .malformed

def Node.fill (fuel : Nat) (node : Node) : Except Failure Content := do
  match node.kind, node.known with
  | .sequence, .sequence _ _ items => return .listed (← items.mapM Node.begin)
  | .mapping, .mapping _ _ entries => return .keyed (← readEntries fuel entries)
  | .set, .mapping _ _ entries => return .members (← readEntries fuel entries)
  | .orderedMapping, .sequence _ _ items | .pairs, .sequence _ _ items =>
    return .paired (← items.mapM readPair)
  | _, _ => throw .malformed

def Begun.node? : Begun → Option Node
  | .done _ => none
  | .collection node => some node

-- Fills the collections of one level after those of another. The fuel bounds the levels.
def checkLevels : (fuel : Nat) → List Node → Except Failure Unit
  | 0, _ => .ok ()
  | fuel + 1, nodes => do
    let contents ← nodes.mapM (Node.fill (fuel + 1))
    match (contents.flatMap Content.parts).filterMap Begun.node? with
    | [] => return ()
    | nodes => checkLevels fuel nodes

def Node.name? : Node → Option String
  | .sequence name _ _ | .mapping name _ _ => name
  | .scalar _ _ _ | .again _ _ => none

/-- The document of a node that has been begun, among the nodes that have names and within the collections
that have these. The fuel bounds the nesting. -/
def complete (anchors : List (String × Node)) :
    (fuel : Nat) → (around : List (Option String)) → Begun → Except Failure Datum
  | _, _, .done value => .ok (.leaf value)
  | 0, _, .collection _ => .error .malformed
  | fuel + 1, around, .collection (.again name _) =>
    match around.idxOf? (some name), anchors.lookup name with
    | some levels, _ => .ok (.again levels)
    -- Only a part of the collection stands here, by its own name.
    | none, some node => complete anchors fuel around (.collection node)
    | none, none => .error .malformed
  | fuel + 1, around, .collection node => do
    let within := node.name? :: around
    match ← node.fill (fuel + 1) with
    | .listed parts => return .list (← parts.mapM (complete anchors fuel within))
    | .paired parts =>
      -- A pair is a list in the list.
      return .list (← parts.mapM fun (key, value) =>
        return .list [← complete anchors fuel (none :: within) key, ← complete anchors fuel (none :: within) value])
    | .members parts =>
      -- The values are read, though nothing is kept of them.
      return .set (parts.foldl (fun read (key, _) => Entries.put key () read) [] |>.map Prod.fst)
    | .keyed parts =>
      return .mapping (← (parts.foldl (fun read (key, value) => Entries.put key value read) []).mapM
        fun (key, value) => return (key, ← complete anchors fuel within value))

def construct (fuel : Nat) (root : Node) (anchors : List (String × Node)) : Except Failure Datum := do
  let begun ← root.begin
  if let .collection node := begun then checkLevels fuel [node]
  complete anchors fuel [] begun

end Yaml

def ofYaml? (source : String) : Except Failure Datum := do
  match Yaml.Token.ofText? source.toList with
  | none => throw .malformed
  | some (tokens, fault) =>
    match ← Yaml.Node.ofTokens tokens fault with
    | (none, _) => return .null
    -- Along one way down a collection is entered by its name once.
    | (some root, anchors) => Yaml.construct ((tokens.length + 2) * (tokens.length + 2)) root anchors

end TextQuery.Datum
