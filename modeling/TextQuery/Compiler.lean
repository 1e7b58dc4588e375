import TextQuery.Candidate
import TextQuery.Text.Canonical
import TextQuery.Tokenizer
import TextQuery.Validator

set_option autoImplicit false

namespace TextQuery

open Engine

namespace Candidate

variable {σ τ : Type}

def build (split : τ → String → Run σ (Except Failure (List Cell) × τ)) (splitter : τ) (mode : Mode)
    (text : String) : Run σ (Except Failure (Option String) × τ) :=
  match join? mode with
  | none => return (.ok (some text), splitter)
  | some join => do
    -- The candidate is made of the words of the normalized text; records show the text as given.
    match ← split splitter (Text.normalize text) with
    | (.error failure, splitter) => return (.error failure, splitter)
    | (.ok [], splitter) =>
      Run.debug ("No tokens in " ++ Text.quoted text ++ " (mode=" ++ mode.name ++ ")")
      return (.ok none, splitter)
    | (.ok tokens, splitter) =>
      return (((texts mode tokens).map fun words => some (join words)).mapError .token, splitter)

/-- A mode that is only a name is refused, but not before the words have been asked for. -/
def refuse (split : τ → String → Run σ (Except Failure (List Cell) × τ)) (splitter : τ)
    (name text : String) : Run σ (Failure × τ) := do
  match ← split splitter (Text.normalize text) with
  | (.error failure, splitter) => return (failure, splitter)
  | (.ok [], splitter) => return (.namelessMode, splitter)
  | (.ok _, splitter) => return (.unsupportedMode name, splitter)

end Candidate

structure Compiler where
  tokenizer : Tokenizer
  validator : Validator
deriving DecidableEq, Repr

structure CompilerSettings where
  tokenizer : String := "simple"
  arguments : List String := []
  probeTable : Option String := none
  probeSchema : Option String := none
  columns : List String := []
deriving DecidableEq, Repr

namespace Compiler

variable {σ : Type} [Engine σ]

def create (settings : CompilerSettings) : Except Failure Compiler := do
  let tokenizer ← Tokenizer.create settings.tokenizer settings.arguments
  let validator ← Validator.create settings.probeTable settings.probeSchema settings.columns
  return { tokenizer, validator }

def validate (compiler : Compiler) (expression : String) :
    Run σ (Except Failure Pattern × Compiler) := do
  let (answer, validator) ← compiler.validator.validate expression
  return (answer, { compiler with validator })

def compile (compiler : Compiler) (expression : String) :
    Run σ (Except Failure Pattern × Compiler) := do
  Run.debug ("Validating raw pattern " ++ Text.quoted expression)
  compiler.validate expression

def compileMode (compiler : Compiler) (mode : Mode) (text : String) :
    Run σ (Except Failure (Option Pattern) × Compiler) := do
  let (candidate, tokenizer) ← Candidate.build Tokenizer.tokenize compiler.tokenizer mode text
  let compiler := { compiler with tokenizer }
  match candidate with
  | .error failure => return (.error failure, compiler)
  | .ok none => return (.ok none, compiler)
  | .ok (some candidate) =>
    Run.debug ("Validating candidate mode=" ++ mode.name ++ " pattern=" ++ Text.quoted candidate)
    let (answer, compiler) ← compiler.validate candidate
    return (answer.map some, compiler)

def compileAny (compiler : Compiler) (text : String) :
    Run σ (Except Failure (Option Pattern) × Compiler) := compiler.compileMode .any text

def compileAll (compiler : Compiler) (text : String) :
    Run σ (Except Failure (Option Pattern) × Compiler) := compiler.compileMode .all text

def compilePhrase (compiler : Compiler) (text : String) :
    Run σ (Except Failure (Option Pattern) × Compiler) := compiler.compileMode .phrase text

def tokenize (compiler : Compiler) (text : String) :
    Run σ (Except Failure (List Cell) × Compiler) := do
  let (tokens, tokenizer) ← compiler.tokenizer.tokenize (Text.normalize text)
  return (tokens, { compiler with tokenizer })

def deserialize (compiler : Compiler) (text : String) :
    Run σ (Except Failure Pattern × Compiler) := compiler.compile text

end Compiler

end TextQuery
