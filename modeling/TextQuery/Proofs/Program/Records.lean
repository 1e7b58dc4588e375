import TextQuery.Program
import TextQuery.Proofs.Engine.Attempt

set_option autoImplicit false

namespace TextQuery

open Engine

namespace Run

variable {σ α β : Type}

def Mild (run : Run σ α) : Prop :=
  ∀ engine, ∃ answer after records, (∀ record ∈ records, record.level < Level.error) ∧
    ∀ journal, run ⟨engine, journal⟩ = (answer, ⟨after, journal ++ records⟩)

@[simp]
theorem mild_pure (value : α) : Mild (pure value : Run σ α) := by
  intro engine
  exact ⟨value, engine, [], by simp, fun journal => by rw [List.append_nil]; rfl⟩

@[simp]
theorem mild_record {level : Level} (low : level < Level.error) (message : String) :
    Mild (record level message : Run σ Unit) := by
  intro engine
  exact ⟨(), engine, [⟨level, message⟩], by simpa using low, by simp [record]⟩

@[simp]
theorem mild_debug (message : String) : Mild (debug message : Run σ Unit) := mild_record (by decide) message

@[simp]
theorem mild_ask [Engine σ] (statement : Statement α) : Mild (ask statement : Run σ (Except Fault α)) := by
  intro engine
  let answered := Engine.answer statement engine
  exact ⟨answered.1, answered.2, [], by simp, fun journal => by simp [ask_eq, answered]⟩

theorem Mild.bind {first : Run σ α} {next : α → Run σ β} (mild : Mild first)
    (further : ∀ value, Mild (next value)) : Mild (first >>= next) := by
  intro engine
  obtain ⟨value, middle, records, low, ran⟩ := mild engine
  obtain ⟨answer, after, others, lower, went⟩ := further value middle
  have all : ∀ record ∈ records ++ others, record.level < Level.error := by
    simpa [or_imp, forall_and] using ⟨low, lower⟩
  exact ⟨answer, after, records ++ others, all, fun journal => by simp [bind_eq, ran, went]⟩

theorem Mild.answer_eq {run : Run σ α} (mild : Mild run) (engine : σ) (journal : List Record) :
    (run ⟨engine, journal⟩).1 = (run { engine }).1 := by
  obtain ⟨answer, after, records, -, ran⟩ := mild engine
  rw [ran, ran]

end Run

namespace Attempt

variable {σ α β : Type}

def Mild (attempt : Attempt σ α) : Prop := Run.Mild attempt.run

@[simp]
theorem mild_pure (value : α) : Mild (pure value : Attempt σ α) := Run.mild_pure (Except.ok value)

@[simp]
theorem mild_throw (failure : Failure) : Mild (throw failure : Attempt σ α) := Run.mild_pure (Except.error failure)

@[simp]
theorem mild_fail (diagnostic : Diagnostic) : Mild (fail diagnostic : Attempt σ α) := mild_throw _

@[simp]
theorem mild_lift {run : Run σ α} (mild : Run.Mild run) : Mild (ExceptT.lift run : Attempt σ α) :=
  mild.bind fun value => Run.mild_pure (Except.ok value)

@[simp]
theorem mild_debug (message : String) : Mild (debug message : Attempt σ Unit) := mild_lift (Run.mild_debug message)

@[simp]
theorem mild_answer (answer : Except Failure α) : Mild (ExceptT.mk (pure answer) : Attempt σ α) :=
  Run.mild_pure answer

@[simp]
theorem mild_bind {first : Attempt σ α} {next : α → Attempt σ β} (mild : Mild first)
    (further : ∀ value, Mild (next value)) : Mild (first >>= next) := by
  change Run.Mild (first.run >>= ExceptT.bindCont next)
  apply Run.Mild.bind mild
  intro answer
  cases answer with
  | ok value => exact further value
  | error failure => exact Run.mild_pure (Except.error failure)

@[simp]
theorem mild_map {attempt : Attempt σ α} (mild : Mild attempt) (f : α → β) : Mild (f <$> attempt) := by
  rw [map_eq_pure_bind]
  exact mild_bind mild fun value => mild_pure (f value)

variable [Engine σ] (statement : Statement α)

@[simp]
theorem mild_observe : Mild (observe statement : Attempt σ (Except Fault α)) := mild_lift (Run.mild_ask statement)

@[simp]
theorem mild_ask : Mild (ask statement : Attempt σ α) := by
  apply (Run.mild_ask statement).bind
  intro answer
  cases answer <;> simp

end Attempt

open Attempt

variable {σ : Type} [Engine σ]

namespace Catalog

@[simp]
theorem mild_schemaNames : Mild (schemaNames : Attempt σ (List String)) := by simp [schemaNames]

@[simp]
theorem mild_ensureSchema (schema : String) : Mild (ensureSchema schema : Attempt σ String) := by
  apply mild_bind mild_schemaNames
  intro names
  split <;> simp

@[simp]
theorem mild_firstHolding (table : String) (names : List String) :
    Mild (firstHolding table names : Attempt σ (Option String)) := by
  induction names with
  | nil => simp [firstHolding]
  | cons name names ih =>
    apply mild_bind (mild_ask _)
    intro found
    split <;> simp [ih]

@[simp]
theorem mild_resolve (table : String) (schema : Option String) : Mild (resolve table schema : Attempt σ String) := by
  cases schema with
  | some schema =>
    apply mild_bind (mild_ensureSchema schema)
    intro name
    apply mild_bind (mild_ask _)
    intro found
    split <;> simp
  | none =>
    apply mild_bind mild_schemaNames
    intro names
    apply mild_bind (mild_firstHolding table names)
    intro found
    split <;> simp

end Catalog

namespace ForeignKey

theorem mild_ofColumns (schema : String) (id : Int) (columns : List KeyColumn) :
    Mild (ofColumns schema id columns : Attempt σ (Option ForeignKey)) := by
  cases columns with
  | nil => simp [ofColumns]
  | cons first rest =>
    have destinations : Mild (destinationsOf (first :: rest) first.table schema : Attempt σ (List String)) := by
      unfold destinationsOf
      split <;> simp [Catalog.primaryKeyColumns]
    simp [ofColumns, destinations]

theorem mild_ofListing (schema : String) (columns : List KeyColumn) (ids : List Int) :
    Mild (ofListing schema columns ids : Attempt σ (List ForeignKey)) := by
  induction ids with
  | nil => simp [ofListing]
  | cons id ids ih => simp [ofListing, mild_ofColumns, ih]

theorem mild_declared (table : String) (schema : Option String) :
    Mild (declared table schema : Attempt σ (List ForeignKey)) := by
  apply mild_bind (Catalog.mild_resolve table schema)
  intro resolved
  apply mild_bind (mild_ask _)
  intro columns
  apply mild_bind (mild_ofListing resolved columns _)
  simp

theorem mild_violations (table schema : Option String) :
    Mild (violations table schema : Attempt σ (List Violation)) := by
  have checked : Mild (check table schema : Attempt σ (String × List Violation)) := by
    unfold check
    split <;> simp
  simp [violations, checked]

end ForeignKey

theorem Tokenizer.mild_tokenize (tokenizer : Tokenizer) (text : String) :
    Run.Mild (tokenizer.tokenize text : Run σ (Except Failure (List Cell) × Tokenizer)) := by
  have mild_giveUp (tokenizer : Tokenizer) (fault : Fault) :
      Run.Mild (tokenizer.giveUp fault : Run σ (Except Failure (List Cell) × Tokenizer)) := by
    unfold giveUp
    split
    · simp
    · exact (Run.mild_record (by decide) _).bind fun _ => Run.mild_pure _
  have mild_ensureTable : Run.Mild (tokenizer.ensureTable : Run σ (Except Fault (String × Tokenizer))) := by
    unfold ensureTable
    split
    · simp
    · apply (Run.mild_ask _).bind
      intro made
      split <;> simp
  unfold tokenize
  split
  · simp
  · apply mild_ensureTable.bind
    intro ensured
    split
    · exact mild_giveUp _ _
    · apply (Run.mild_ask _).bind
      intro found
      split
      · exact mild_giveUp _ _
      · exact (Run.mild_debug _).bind fun _ => Run.mild_pure _

namespace Validator

theorem mild_findTarget (validator : Validator) : Mild (validator.findTarget : Attempt σ Target) := by
  unfold findTarget
  split
  · simp
  · apply mild_bind (mild_observe _)
    intro made
    split
    · simp
    · split <;> simp
  · apply mild_bind (Catalog.mild_resolve _ _)
    intro resolved
    apply mild_bind
    · simp [Catalog.tableSql]
    · intro declaration
      split <;> simp

theorem mild_validate (validator : Validator) (expression : String) :
    Run.Mild (validator.validate expression : Run σ (Except Failure Pattern × Validator)) := by
  unfold validate
  apply validator.mild_findTarget.bind
  intro target
  split
  · simp
  · apply (Run.mild_ask _).bind
    intro matched
    split
    · simp
    · split
      · simp
      · exact (Run.mild_debug _).bind fun _ => Run.mild_pure _
      · simp

end Validator

namespace Compiler

theorem mild_tokenize (compiler : Compiler) (text : String) :
    Run.Mild (compiler.tokenize text : Run σ (Except Failure (List Cell) × Compiler)) :=
  (Tokenizer.mild_tokenize _ _).bind fun _ => Run.mild_pure _

theorem mild_compileMode (compiler : Compiler) (mode : Mode) (text : String) :
    Run.Mild (compiler.compileMode mode text : Run σ (Except Failure (Option Pattern) × Compiler)) := by
  have built : Run.Mild (Candidate.build Tokenizer.tokenize compiler.tokenizer mode text :
      Run σ (Except Failure (Option String) × Tokenizer)) := by
    unfold Candidate.build
    split
    · simp
    · apply (Tokenizer.mild_tokenize _ _).bind
      intro found
      split
      · simp
      · exact (Run.mild_debug _).bind fun _ => Run.mild_pure _
      · simp
  apply built.bind
  intro (candidate, tokenizer)
  cases candidate with
  | error failure => simp
  | ok candidate =>
    cases candidate with
    | none => simp
    | some candidate =>
      apply (Run.mild_debug _).bind
      intro _
      apply Run.Mild.bind
      · exact (Validator.mild_validate _ _).bind fun _ => Run.mild_pure _
      · simp

end Compiler

namespace Program

theorem mild_perform (settings : CompilerSettings) (command : CommandLine.Command) :
    Mild (perform settings command : Attempt σ Report) := by
  have created : Mild (createCompiler settings : Attempt σ Compiler) :=
    mild_bind (mild_debug _) fun _ => mild_answer _
  have warned (message : String) : Mild (warn message : Attempt σ Unit) := mild_lift (Run.mild_record (by decide) _)
  cases command with
  | compile text mode =>
    apply mild_bind created
    intro compiler
    apply mild_bind (mild_debug _)
    intro _
    apply mild_bind (mild_lift (compiler.mild_compileMode mode text))
    intro (answer, _)
    apply mild_bind (mild_answer answer)
    intro made
    cases made <;> simp [warned]
  | tokenize text =>
    apply mild_bind created
    intro compiler
    apply mild_bind (mild_lift (compiler.mild_tokenize text))
    intro (answer, _)
    apply mild_bind (mild_answer answer)
    simp
  | foreignKeys table schema =>
    apply mild_bind (ForeignKey.mild_declared table schema)
    simp
  | check table schema =>
    apply mild_bind (ForeignKey.mild_violations table schema)
    intro rows
    cases rows <;> simp [warned]

end Program

end TextQuery
