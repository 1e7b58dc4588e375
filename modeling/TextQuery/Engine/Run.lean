import TextQuery.Engine.Statement
import TextQuery.Journal

set_option autoImplicit false

namespace TextQuery

open Engine

class Engine (σ : Type) where
  answer : {α : Type} → Statement α → σ → Except Fault α × σ

structure World (σ : Type) where
  engine : σ
  journal : List Record := []

abbrev Run (σ : Type) := StateM (World σ)

namespace Run

variable {σ α : Type}

def ask [Engine σ] (statement : Statement α) : Run σ (Except Fault α) := fun world =>
  let (answer, engine) := Engine.answer statement world.engine
  (answer, { world with engine })

def record (level : Level) (message : String) : Run σ Unit := fun world =>
  ((), { world with journal := world.journal ++ [⟨level, message⟩] })

def debug (message : String) : Run σ Unit := record Level.debug message

end Run

/-- A run that may fail. What it did before it failed is kept. -/
abbrev Attempt (σ : Type) := ExceptT Failure (Run σ)

namespace Attempt

variable {σ α : Type}

def ask [Engine σ] (statement : Statement α) : Attempt σ α :=
  ExceptT.mk do
    match ← Run.ask statement with
    | .ok answer => return .ok answer
    | .error fault => return .error (.engine fault)

def observe [Engine σ] (statement : Statement α) : Attempt σ (Except Fault α) :=
  ExceptT.lift (Run.ask statement)

def debug (message : String) : Attempt σ Unit := ExceptT.lift (Run.debug message)

def fail (diagnostic : Diagnostic) : Attempt σ α := throw (.diagnostic diagnostic)

end Attempt

end TextQuery
