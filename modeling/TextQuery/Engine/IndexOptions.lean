import TextQuery.Engine.Arguments
import TextQuery.Engine.Table

set_option autoImplicit false

namespace TextQuery.Engine.FullText

open Text

def rankName : String := "rank"

def reservedNames : List String := [rankName, rowidName]

def refuse {α : Type} (message : String) : Except Fault α := .error (.operational message)

def addColumn (index : FullText) (name : String) (option : Option String) : Except Fault FullText :=
  let added := { index with columns := index.columns ++ [name] }
  if reservedNames.any (sameName name) then refuse ("reserved fts5 column name: " ++ name)
  else match option with
    | none => .ok added
    | some option =>
      if sameName option "unindexed" then .ok { added with unindexed := name :: index.unindexed }
      else refuse ("unrecognized column option: " ++ option)

def isShort (name option : String) : Bool := startsWith option (asciiFold name)

def prefixLimit : Nat := 31

def lengthLimit : Nat := 1000

def readLength : (length : Nat) → List Char → Nat × List Char
  | length, [] => (length, [])
  | length, c :: rest =>
    if Number.isDigit c && length < lengthLimit then
      readLength (10 * length + (c.toNat - '0'.toNat)) rest
    else (length, c :: rest)

-- Reads on in a list of lengths, given how many there are so far. The fuel bounds their number.
def readLengths : (fuel count : Nat) → List Char → Except Fault Nat
  | 0, count, _ => .ok count
  | fuel + 1, count, text =>
    match readLength 0 text with
    | (length, rest) =>
      if !(text.head?.any Number.isDigit) then refuse "malformed prefix=... directive"
      else if count = prefixLimit then
        refuse ("too many prefix indexes (max " ++ toString prefixLimit ++ ")")
      else if length = 0 || length ≥ lengthLimit then
        refuse ("prefix length out of range (max " ++ toString (lengthLimit - 1) ++ ")")
      else match Arguments.dropSpaces rest with
        | [] => .ok (count + 1)
        | ',' :: rest => readLengths fuel (count + 1) (Arguments.dropSpaces rest)
        | rest => readLengths fuel (count + 1) rest

def setPrefixes (index : FullText) (value : String) : Except Fault FullText :=
  match Arguments.dropSpaces value.toList with
  | [] => .ok index
  | text => do return { index with prefixes := ← readLengths (text.length + 1) index.prefixes text }

-- The words of a list, some of them between apostrophes. The fuel bounds their number.
def readWords : Nat → List Char → Option (List String)
  | 0, _ => none
  | fuel + 1, text => do
    let (word, rest) ← Arguments.readWord (Arguments.dropSpaces text)
    -- Only the apostrophe sets a word of a tokenizer apart.
    if word.isQuoted && (Arguments.dropSpaces text).head? != some '\'' then none
    let word := String.ofList word.text
    match Arguments.dropSpaces rest with
    | [] => return [word]
    | rest => return word :: (← readWords fuel rest)

def setSplitter (index : FullText) (value : String) : Except Fault FullText :=
  let words := if value.isEmpty then some [] else readWords (value.length + 1) value.toList
  match index.splitter, words with
  | some _, _ => refuse "multiple tokenize=... directives"
  | none, none => refuse "parse error in tokenize directive"
  | none, some words =>
    match Token.Indexing.ofWords words with
    | .ok splitter => .ok { index with splitter := some splitter }
    | .error .unknownName => refuse ("no such tokenizer: " ++ words.headD "")
    | .error .badArgument => refuse "error in tokenizer constructor"

def setContents (index : FullText) (value : String) : Except Fault FullText :=
  if index.contents != .own then refuse "multiple content=... directives"
  else .ok { index with contents := if value.isEmpty then .none else .table value }

def setContentsKey (index : FullText) (value : String) : Except Fault FullText :=
  if index.contentsKey.isSome then refuse "multiple content_rowid=... directives"
  else .ok { index with contentsKey := some value }

def setSizes (index : FullText) (value : String) : Except Fault FullText :=
  if value == "0" || value == "1" then .ok { index with keepsSizes := value == "1" }
  else refuse "malformed columnsize=... directive"

def details : List (String × Expression.Detail) :=
  [("none", .none), ("full", .full), ("columns", .column)]

def setDetail (index : FullText) (value : String) : Except Fault FullText :=
  match details.filter fun (name, _) => isShort value name with
  | [(_, detail)] => .ok { index with detail }
  | _ => refuse "malformed detail=... directive"

def options : List (String × (FullText → String → Except Fault FullText)) := [
  ("prefix", setPrefixes), ("tokenize", setSplitter), ("content", setContents),
  ("content_rowid", setContentsKey), ("columnsize", setSizes), ("detail", setDetail)]

def addOption (index : FullText) (name value : String) : Except Fault FullText :=
  match options.find? fun (option, _) => isShort name option with
  | some (_, set) => set index value
  | none => refuse ("unrecognized option: \"" ++ name ++ "\"")

def addArgument (index : FullText) (argument : List Char) : Except Fault FullText :=
  let malformed : Except Fault FullText :=
    refuse ("parse error in \"" ++ String.ofList argument ++ "\"")
  match Arguments.readWord argument with
  | none => malformed
  | some (word, rest) =>
    let name := String.ofList word.text
    match Arguments.dropSpaces rest with
    | '=' :: value =>
      -- What is quoted has to be a column.
      match word.isQuoted, Arguments.lastWord? value with
      | false, some value => index.addOption name (value.getD "")
      | _, _ => malformed
    | rest =>
      match Arguments.lastWord? rest with
      | some option => index.addColumn name option
      | none => malformed

def ofArguments (table : String) (arguments : List (List Char)) : Except Fault FullText :=
  if sameName table rankName then refuse ("reserved fts5 table name: " ++ table)
  else arguments.foldlM addArgument {}

end TextQuery.Engine.FullText
