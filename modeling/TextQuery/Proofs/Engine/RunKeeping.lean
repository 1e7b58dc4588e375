import TextQuery.Proofs.Engine.Attempt
import TextQuery.Compiler
import TextQuery.Engine.Script
import TextQuery.ForeignKey.Lookup
import TextQuery.Session

set_option autoImplicit false

namespace TextQuery

open Engine

def Engine.Statement.Usual {α : Type} : Statement α → Prop
  | .createTokens table choice => table = Tokenizer.helper choice
  | .createProbe table columns => table = Validator.helper columns
  | .matchProbe (.helper table) _ => ∃ columns, table = Validator.helper columns
  | _ => True

def Watched {σ : Type} [Engine σ] (P : σ → Prop) : Prop :=
  ∀ {α : Type} (statement : Statement α), statement.Usual → ∀ engine, P engine →
    P (Engine.answer statement engine).2

def LookedUp {σ : Type} [Engine σ] (P : σ → Prop) : Prop :=
  ∀ {α : Type} (statement : Statement α), statement.purpose = .lookup → ∀ engine, P engine →
    P (Engine.answer statement engine).2

theorem Watched.lookedUp {σ : Type} [Engine σ] {P : σ → Prop} (watched : Watched P) : LookedUp P := by
  intro α statement lookup engine holds
  refine watched statement ?_ engine holds
  cases statement with
  | createTokens | createProbe | matchProbe => cases lookup
  | selectTokens | databaseList | tableExists | tableSql | tableInfo | foreignKeyList
  | foreignKeyCheck | selectRow => trivial

namespace Run

variable {σ α β : Type} {P : σ → Prop}

def Keeps (P : σ → Prop) (run : Run σ α) : Prop := ∀ world, P world.engine → P (run world).2.engine

theorem keeps_record (level : Level) (message : String) :
    Keeps P (record level message : Run σ Unit) := fun _ holds => holds

theorem keeps_debug (message : String) : Keeps P (debug message : Run σ Unit) := keeps_record _ _

theorem keeps_ask [Engine σ] {statement : Statement α}
    (kept : ∀ engine, P engine → P (Engine.answer statement engine).2) : Keeps P (ask statement) :=
  fun world holds => kept world.engine holds

end Run

namespace Attempt

variable {σ α β : Type} {P : σ → Prop}

def Keeps (P : σ → Prop) (attempt : Attempt σ α) : Prop := Run.Keeps P attempt.run

theorem keeps_pure (value : α) : Keeps P (pure value : Attempt σ α) := fun _ holds => holds

theorem keeps_throw (failure : Failure) : Keeps P (throw failure : Attempt σ α) := fun _ holds => holds

theorem keeps_fail (diagnostic : Diagnostic) : Keeps P (fail diagnostic : Attempt σ α) :=
  keeps_throw _

theorem keeps_debug (message : String) : Keeps P (debug message : Attempt σ Unit) :=
  fun _ holds => holds

theorem keeps_bind {first : Attempt σ α} {next : α → Attempt σ β} (kept : Keeps P first)
    (keptNext : ∀ value, Keeps P (next value)) : Keeps P (first >>= next) := by
  intro world holds
  have middle := kept world holds
  cases result : first.run world with
  | mk answer after =>
    rw [result] at middle
    cases answer with
    | ok value =>
      rw [run_bind_ok next result]
      exact keptNext value after middle
    | error failure =>
      rw [run_bind_error next result]
      exact middle

variable [Engine σ] {statement : Statement α}
  (kept : ∀ engine, P engine → P (Engine.answer statement engine).2)
include kept

theorem keeps_ask : Keeps P (ask statement) := by
  intro world holds
  rw [run_ask]
  exact kept world.engine holds

theorem keeps_observe : Keeps P (observe statement) := by
  intro world holds
  rw [run_observe]
  exact kept world.engine holds

end Attempt

open Attempt

section

variable {σ : Type} [Engine σ] {P : σ → Prop} (lookedUp : LookedUp P)
include lookedUp

namespace Catalog

theorem keeps_schemaNames : Keeps P (schemaNames : Attempt σ (List String)) := by
  unfold schemaNames
  exact keeps_bind (keeps_ask (lookedUp _ rfl)) fun _ => keeps_pure _

theorem keeps_ensureSchema (schema : String) : Keeps P (ensureSchema schema : Attempt σ String) := by
  unfold ensureSchema
  refine keeps_bind (keeps_schemaNames lookedUp) ?_
  intro names
  split
  · exact keeps_pure _
  · exact keeps_fail _

theorem keeps_firstHolding (table : String) (names : List String) :
    Keeps P (firstHolding table names : Attempt σ (Option String)) := by
  induction names with
  | nil => exact keeps_pure _
  | cons name names ih =>
    refine keeps_bind (keeps_ask (lookedUp _ rfl)) ?_
    intro found
    split
    · exact keeps_pure _
    · exact ih

theorem keeps_resolve (table : String) (schema : Option String) :
    Keeps P (resolve table schema : Attempt σ String) := by
  cases schema with
  | some schema =>
    refine keeps_bind (keeps_ensureSchema lookedUp schema) ?_
    intro name
    refine keeps_bind (keeps_ask (lookedUp _ rfl)) ?_
    intro found
    split
    · exact keeps_pure _
    · exact keeps_fail _
  | none =>
    refine keeps_bind (keeps_schemaNames lookedUp) ?_
    intro names
    refine keeps_bind (keeps_firstHolding lookedUp table names) ?_
    intro found
    split
    · exact keeps_pure _
    · exact keeps_fail _

theorem keeps_tableSql (table schema : String) : Keeps P (tableSql table schema : Attempt σ String) :=
  keeps_bind (keeps_ask (lookedUp _ rfl)) fun _ => keeps_pure _

theorem keeps_primaryKeyColumns (table schema : String) :
    Keeps P (primaryKeyColumns table schema : Attempt σ (List String)) :=
  keeps_bind (keeps_ask (lookedUp _ rfl)) fun _ => keeps_pure _

end Catalog

namespace ForeignKey

theorem keeps_ofListing (schema : String) (columns : List KeyColumn) (ids : List Int) :
    Keeps P (ofListing schema columns ids : Attempt σ (List ForeignKey)) := by
  induction ids with
  | nil => exact keeps_pure _
  | cons id ids ih =>
    refine keeps_bind ?_ fun _ => keeps_bind ih fun _ => keeps_pure _
    cases columnsOf columns id with
    | nil => exact keeps_pure _
    | cons first rest =>
      refine keeps_bind ?_ fun _ => keeps_pure _
      unfold destinationsOf
      split
      · exact keeps_pure _
      · exact Catalog.keeps_primaryKeyColumns lookedUp _ _

theorem keeps_declared (table : String) (schema : Option String) :
    Keeps P (declared table schema : Attempt σ (List ForeignKey)) := by
  unfold declared
  refine keeps_bind (Catalog.keeps_resolve lookedUp table schema) ?_
  intro resolved
  refine keeps_bind (keeps_ask (lookedUp _ rfl)) ?_
  intro columns
  refine keeps_bind (keeps_ofListing lookedUp _ _ _) ?_
  intro keys
  exact keeps_bind (keeps_debug _) fun _ => keeps_pure _

theorem keeps_check (table schema : Option String) :
    Keeps P (check table schema : Attempt σ (String × List Violation)) := by
  unfold check
  extract_lets rest
  have kept : ∀ resolved, Keeps P (rest resolved) := by
    intro resolved
    exact keeps_bind (keeps_ask (lookedUp _ rfl)) fun _ => keeps_pure _
  split
  · exact keeps_bind (Catalog.keeps_resolve lookedUp _ _) kept
  · exact keeps_bind (Catalog.keeps_ensureSchema lookedUp _) kept
  · exact keeps_bind (keeps_pure _) kept

theorem keeps_describe (violation : Violation) (schema : String) :
    Keeps P (describe violation schema : Attempt σ String) := by
  unfold describe
  refine keeps_bind (keeps_declared lookedUp _ _) ?_
  intro keys
  extract_lets key rest
  have kept : ∀ row, Keeps P (rest row) := fun _ => keeps_pure _
  split
  · exact keeps_bind (keeps_ask (lookedUp _ rfl)) kept
  · exact keeps_bind (keeps_pure _) kept

theorem keeps_ensureNone (table schema : Option String) :
    Keeps P (ensureNone table schema : Attempt σ Unit) := by
  unfold ensureNone
  refine keeps_bind (keeps_check lookedUp table schema) ?_
  intro found
  split
  · exact keeps_pure _
  · refine keeps_bind (keeps_describe lookedUp _ _) ?_
    intro message
    exact keeps_bind (keeps_debug _) fun _ => keeps_fail _

end ForeignKey

theorem Lookup.keeps_run (question : Lookup) : Keeps P (question.run : Attempt σ Answer) := by
  cases question with
  | schemaNames => exact keeps_bind (Catalog.keeps_schemaNames lookedUp) fun _ => keeps_pure _
  | ensureSchema schema =>
    exact keeps_bind (Catalog.keeps_ensureSchema lookedUp schema) fun _ => keeps_pure _
  | tableExists table schema => exact keeps_bind (keeps_ask (lookedUp _ rfl)) fun _ => keeps_pure _
  | tableSql table schema =>
    exact keeps_bind (Catalog.keeps_tableSql lookedUp table schema) fun _ => keeps_pure _
  | primaryKeyColumns table schema =>
    exact keeps_bind (Catalog.keeps_primaryKeyColumns lookedUp table schema) fun _ => keeps_pure _
  | resolve table schema =>
    exact keeps_bind (Catalog.keeps_resolve lookedUp table schema) fun _ => keeps_pure _
  | foreignKeys table schema =>
    exact keeps_bind (ForeignKey.keeps_declared lookedUp table schema) fun _ => keeps_pure _
  | violations table schema =>
    refine keeps_bind ?_ fun _ => keeps_pure _
    exact keeps_bind (ForeignKey.keeps_check lookedUp table schema) fun _ => keeps_pure _
  | ensureNone table schema =>
    exact keeps_bind (ForeignKey.keeps_ensureNone lookedUp table schema) fun _ => keeps_pure _
  | describe violation schema =>
    exact keeps_bind (ForeignKey.keeps_describe lookedUp violation schema) fun _ => keeps_pure _

end

end TextQuery
