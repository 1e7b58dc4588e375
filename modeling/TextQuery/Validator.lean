import TextQuery.Catalog
import TextQuery.Pattern
import TextQuery.Tokenizer
import TextQuery.Text.Alphanumeric
import TextQuery.Text.Blank

-- Validation of expressions by the engine. An expression is matched against a full-text table, the probe: the
-- parser of the engine runs whatever the table holds, and its diagnostics tell what is wrong with the
-- expression.

set_option autoImplicit false

namespace TextQuery

open Engine

inductive Probe where
  | helper (columns : List String)
  | table (name : String) (schema : Option String)
deriving DecidableEq, Repr

inductive FaultClass where
  | schema
  | grammar
  | other
deriving DecidableEq, Repr

namespace FaultClass

def schemaBeginnings : List String := ["no such table", "unknown database", "no such module"]

def grammarBeginnings : List String :=
  ["fts5:", "unknown special query", "no such column", "unterminated string"]

def of (fault : Fault) : FaultClass :=
  if fault.kind != .operational then .other
  else if schemaBeginnings.any (Text.startsWith fault.message) then .schema
  else if grammarBeginnings.any (Text.startsWith fault.message) then .grammar
  else .other

end FaultClass

namespace Declaration

def plainLetter (c : Char) : Char :=
  if c == 'ſ' then 's' else if c == 'ı' || c == 'İ' then 'i' else c.toLower

def dropWord : (word : List Char) → List Char → Option (List Char)
  | [], text => some text
  | _ :: _, [] => none
  | letter :: word, c :: text => if plainLetter c == letter then dropWord word text else none

def endsWord : List Char → Bool
  | [] => true
  | c :: _ => !Text.isWordChar c

def usesFullText (text : List Char) : Bool :=
  match dropWord "using".toList text with
  | some (c :: rest) =>
    Text.isBlank c &&
      match dropWord "fts5".toList (rest.dropWhile Text.isBlank) with
      | some rest => endsWord rest
      | none => false
  | _ => false

def mentionsFullText : (before : Option Char) → List Char → Bool
  | _, [] => false
  | before, c :: rest =>
    (!before.any Text.isWordChar && usesFullText (c :: rest)) || mentionsFullText (some c) rest

def isFullText (sql : String) : Bool := mentionsFullText none sql.toList

end Declaration

structure Validator where
  probe : Probe
  target : Option Target := none
deriving DecidableEq, Repr

namespace Validator

variable {σ : Type} [Engine σ]

def defaultColumns : List String := ["content"]

/-- A schema goes with a table only, columns go with the helper table only. -/
def create (table schema : Option String) (columns : List String) : Except Failure Validator :=
  match table, schema with
  | none, some _ => .error .schemaWithoutTable
  | none, none => .ok { probe := .helper (if columns.isEmpty then defaultColumns else columns) }
  | some name, schema =>
    if columns.isEmpty then .ok { probe := .table name schema } else .error .columnsBesideTable

def family : String := "safematch_probe_"

def helper (columns : List String) : String :=
  helperName family (String.intercalate "\x00" columns)

def createHelper (columns : List String) : Attempt σ Target := do
  let table := helper columns
  match ← Attempt.observe (.createProbe table columns) with
  | .ok _ =>
    Attempt.debug ("Created FTS5 probe table temp." ++ Text.identifier table ++ " columns="
      ++ Text.quotedTuple columns)
    return .helper table
  | .error fault =>
    -- Faults of other kinds are about the statement itself, not about the probe.
    if fault.kind == .operational then Attempt.fail (.probeNotCreated fault)
    else throw (.engine fault)

def locate (table : String) (schema : Option String) : Attempt σ Target := do
  let resolved ← Catalog.resolve table schema
  if Declaration.isFullText (← Catalog.tableSql table resolved) then
    return .located resolved table
  else Attempt.fail (.notFullText resolved table)

def findTarget (validator : Validator) : Attempt σ Target :=
  match validator.target, validator.probe with
  | some target, _ => return target
  | none, .helper columns => createHelper columns
  | none, .table name schema => locate name schema

/-- Accepts an expression as it stands. The probe is kept until it turns out to be gone. -/
def validate (validator : Validator) (expression : String) :
    Run σ (Except Failure Pattern × Validator) := do
  match ← validator.findTarget.run with
  | .error failure => return (.error failure, validator)
  | .ok target =>
    -- The target is kept whatever the engine says about the expression.
    let found := { validator with target := some target }
    match ← Run.ask (.matchProbe target expression) with
    | .ok _ => return (.ok ⟨expression⟩, found)
    | .error fault =>
      -- A grammar fault leaves the probe as it is; only a schema fault is a reason to look again.
      match FaultClass.of fault with
      | .schema =>
        return (.error (.diagnostic (.schema fault.message)), { validator with target := none })
      | .grammar =>
        Run.debug ("Rejected pattern " ++ Text.quoted expression ++ ": " ++ fault.message)
        return (.error (.diagnostic (.rejected expression fault)), found)
      | .other => return (.error (.engine fault), found)

end Validator

end TextQuery
