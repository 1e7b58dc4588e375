import TextQuery.Engine.Run
import TextQuery.Digest.Sha1
import TextQuery.Text.Identifier

set_option autoImplicit false

namespace TextQuery

open Engine

def helperName (family described : String) : String :=
  let digest := Digest.Sha1.hexText described.toUTF8.toList
  family ++ String.ofList (digest.toList.take 12)

structure Tokenizer where
  choice : TokenizerChoice
  table : Option String := none
deriving DecidableEq, Repr

namespace Tokenizer

variable {σ : Type} [Engine σ]

def create (name : String) (arguments : List String) : Except Failure Tokenizer :=
  if Text.isIdentifier name then .ok { choice := ⟨name, arguments⟩ }
  else .error (.invalidTokenizer name)

def descriptor (tokenizer : Tokenizer) : String := tokenizer.choice.descriptor

def family : String := "safematch_tokens_"

def helper (choice : TokenizerChoice) : String := helperName family choice.descriptor

def ensureTable (tokenizer : Tokenizer) : Run σ (Except Fault (String × Tokenizer)) :=
  match tokenizer.table with
  | some table => return .ok (table, tokenizer)
  | none => do
    let table := helper tokenizer.choice
    match ← Run.ask (.createTokens table tokenizer.choice) with
    | .ok _ => return .ok (table, { tokenizer with table := some table })
    | .error fault => return .error fault

/-- A tokenizer that fails finds no words. The failure is recorded. A warning is no failure of the
tokenizer, and is passed on. -/
def giveUp (tokenizer : Tokenizer) (fault : Fault) :
    Run σ (Except Failure (List Cell) × Tokenizer) := do
  if fault.kind == .warning then return (.error (.engine fault), tokenizer)
  Run.record Level.warning
    ("Tokenizer failed: tokenizer=" ++ tokenizer.descriptor ++ " error=" ++ fault.message)
  return (.ok [], tokenizer)

/-- The words of a text in their order. They are texts unless something else stands in the place of the
helper table. -/
def tokenize (tokenizer : Tokenizer) (text : String) :
    Run σ (Except Failure (List Cell) × Tokenizer) := do
  -- Nothing is asked for an empty text, so the helper table may still be missing after it.
  if text.isEmpty then return (.ok [], tokenizer)
  match ← tokenizer.ensureTable with
  | .error fault => tokenizer.giveUp fault
  | .ok (table, tokenizer) =>
    -- The table stays known even if it turns out to be gone.
    match ← Run.ask (.selectTokens table text) with
    | .error fault => tokenizer.giveUp fault
    | .ok tokens =>
      Run.debug ("Tokenized " ++ Text.quoted text ++ " into " ++ toString tokens.length ++ " tokens")
      return (.ok tokens, tokenizer)

end Tokenizer

end TextQuery
