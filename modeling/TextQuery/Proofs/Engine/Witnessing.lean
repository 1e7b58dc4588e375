import TextQuery.Proofs.Engine.RunKeeping
import TextQuery.Proofs.Validator.Outcome

set_option autoImplicit false

namespace TextQuery

open Engine

structure Witnessed (σ : Type) where
  engine : σ
  faults : List (Purpose × Fault) := []

namespace Witnessed

variable {σ α : Type} [Engine σ]

def noted (statement : Statement α) : Except Fault α → List (Purpose × Fault)
  | .ok _ => []
  | .error fault => [(statement.purpose, fault)]

def answer (statement : Statement α) (witnessed : Witnessed σ) : Except Fault α × Witnessed σ :=
  let (answer, engine) := Engine.answer statement witnessed.engine
  (answer, { engine, faults := witnessed.faults ++ noted statement answer })

instance : TextQuery.Engine (Witnessed σ) := ⟨answer⟩

theorem answer_eq (statement : Statement α) (witnessed : Witnessed σ) :
    Engine.answer statement witnessed = ((Engine.answer statement witnessed.engine).1,
      { engine := (Engine.answer statement witnessed.engine).2
        faults := witnessed.faults ++ noted statement (Engine.answer statement witnessed.engine).1 }) := rfl

theorem lookedUp_lookups : LookedUp fun witnessed : Witnessed σ => ∀ entry ∈ witnessed.faults, entry.1 = .lookup := by
  intro α statement lookup witnessed lookups entry member
  rw [answer_eq] at member
  rcases List.mem_append.1 member with early | late
  · exact lookups entry early
  · cases answered : (Engine.answer statement witnessed.engine).1 with
    | ok value =>
      rw [answered] at late
      cases late
    | error fault =>
      rw [answered] at late
      rw [List.mem_singleton.1 late]
      exact lookup

end Witnessed

def refusal : Purpose → Failure
  | .creation => .diagnostic (.probeNotCreated .busy)
  | .query | .lookup => .engine .busy

def Stops {α : Type} (result : Except Failure α) (faults : List (Purpose × Fault)) : Prop :=
  ∀ purpose, (purpose, .busy) ∈ faults → result = .error (refusal purpose)

theorem stops_nil {α : Type} (result : Except Failure α) : Stops result [] := fun _ member => by cases member

-- What succeeds has not been refused.
theorem Stops.free {α : Type} {value : α} {faults : List (Purpose × Fault)}
    (stops : Stops (.ok value : Except Failure α) faults) (purpose : Purpose) : (purpose, .busy) ∉ faults :=
  fun member => by cases stops purpose member

theorem Stops.after {α β : Type} {value : α} {faults further : List (Purpose × Fault)} {result : Except Failure β}
    (first : Stops (.ok value : Except Failure α) faults) (rest : Stops result further) :
    Stops result (faults ++ further) := by
  intro purpose member
  rcases List.mem_append.1 member with early | late
  · exact absurd early (first.free purpose)
  · exact rest purpose late

namespace Run

variable {σ α : Type} {P : α → List (Purpose × Fault) → Prop}

/-- A run comes to the same whether or not faults are written down, and what it comes to has to do with them. -/
def Shows (P : α → List (Purpose × Fault) → Prop) (first : Run (Witnessed σ) α) (second : Run σ α) : Prop :=
  ∀ one other, one.engine.engine = other.engine →
    (first one).1 = (second other).1 ∧ (first one).2.engine.engine = (second other).2.engine ∧
    ∃ faults, (first one).2.engine.faults = one.engine.faults ++ faults ∧ P (first one).1 faults

theorem shows_pure {value : α} (holds : P value []) :
    Shows P (pure value : Run (Witnessed σ) α) (pure value) :=
  fun one _ same => ⟨rfl, same, [], (List.append_nil one.engine.faults).symm, holds⟩

end Run

namespace Attempt

variable {σ α β : Type}

def Shows (first : Attempt (Witnessed σ) α) (second : Attempt σ α) : Prop :=
  Run.Shows Stops first.run second.run

theorem shows_pure (value : α) : Shows (pure value : Attempt (Witnessed σ) α) (pure value) :=
  Run.shows_pure (stops_nil _)

theorem shows_throw (failure : Failure) : Shows (throw failure : Attempt (Witnessed σ) α) (throw failure) :=
  Run.shows_pure (stops_nil _)

theorem shows_fail (diagnostic : Diagnostic) :
    Shows (fail diagnostic : Attempt (Witnessed σ) α) (fail diagnostic) := shows_throw _

theorem shows_debug (message : String) : Shows (debug message : Attempt (Witnessed σ) Unit) (debug message) :=
  fun one _ same => ⟨rfl, same, [], (List.append_nil one.engine.faults).symm, stops_nil _⟩

theorem shows_bind {first : Attempt (Witnessed σ) α} {second : Attempt σ α} {next : α → Attempt (Witnessed σ) β}
    {further : α → Attempt σ β} (shows_ : Shows first second) (rest : ∀ value, Shows (next value) (further value)) :
    Shows (first >>= next) (second >>= further) := by
  intro one other same
  obtain ⟨result, engines, faults, added, stops⟩ := shows_ one other same
  cases ran : first.run one with
  | mk answer after =>
    cases also : second.run other with
    | mk answered later =>
      rw [ran, also] at result engines
      rw [ran] at added stops
      obtain rfl : answer = answered := result
      cases answer with
      | error failure =>
        rw [run_bind_error next ran, run_bind_error further also]
        exact ⟨rfl, engines, faults, added, fun purpose member => congrArg Except.error (Except.error.inj (stops purpose member))⟩
      | ok value =>
        rw [run_bind_ok next ran, run_bind_ok further also]
        obtain ⟨result, engines, others, adds, halts⟩ := rest value after later engines
        exact ⟨result, engines, faults ++ others, by rw [adds, added, List.append_assoc], stops.after halts⟩

variable [Engine σ] {statement : Statement α}

theorem shows_ask (other : statement.purpose ≠ .creation) :
    Shows (ask statement : Attempt (Witnessed σ) α) (ask statement) := by
  intro one second same
  rw [run_ask, run_ask, Witnessed.answer_eq, same]
  refine ⟨rfl, rfl, _, rfl, fun purpose member => ?_⟩
  cases answered : (Engine.answer statement second.engine).1 with
  | ok value =>
    rw [answered] at member
    cases member
  | error fault =>
    rw [answered] at member
    obtain ⟨rfl, rfl⟩ := Prod.mk.inj (List.mem_singleton.1 member)
    have plain : refusal statement.purpose = .engine .busy := by
      unfold refusal
      split
      · rename_i makes
        exact absurd makes other
      · rfl
      · rfl
    rw [plain]
    rfl

end Attempt

open Attempt

variable {σ : Type} [Engine σ]

namespace Catalog

theorem shows_schemaNames : Shows (schemaNames : Attempt (Witnessed σ) _) schemaNames :=
  shows_bind (shows_ask (by decide)) fun _ => shows_pure _

theorem shows_ensureSchema (schema : String) :
    Shows (ensureSchema schema : Attempt (Witnessed σ) _) (ensureSchema schema) := by
  refine shows_bind shows_schemaNames fun names => ?_
  split
  · exact shows_pure _
  · exact shows_fail _

theorem shows_firstHolding (table : String) (names : List String) :
    Shows (firstHolding table names : Attempt (Witnessed σ) _) (firstHolding table names) := by
  induction names with
  | nil => exact shows_pure _
  | cons name names ih =>
    refine shows_bind (shows_ask (by rintro ⟨⟩)) fun found => ?_
    split
    · exact shows_pure _
    · exact ih

theorem shows_resolve (table : String) (schema : Option String) :
    Shows (resolve table schema : Attempt (Witnessed σ) _) (resolve table schema) := by
  cases schema with
  | some schema =>
    refine shows_bind (shows_ensureSchema schema) fun name => shows_bind (shows_ask (by rintro ⟨⟩)) fun found => ?_
    split
    · exact shows_pure _
    · exact shows_fail _
  | none =>
    refine shows_bind shows_schemaNames fun names => shows_bind (shows_firstHolding table names) fun found => ?_
    split
    · exact shows_pure _
    · exact shows_fail _

theorem shows_tableSql (table schema : String) :
    Shows (tableSql table schema : Attempt (Witnessed σ) _) (tableSql table schema) :=
  shows_bind (shows_ask (by rintro ⟨⟩)) fun _ => shows_pure _

theorem shows_primaryKeyColumns (table schema : String) :
    Shows (primaryKeyColumns table schema : Attempt (Witnessed σ) _) (primaryKeyColumns table schema) :=
  shows_bind (shows_ask (by rintro ⟨⟩)) fun _ => shows_pure _

end Catalog

namespace ForeignKey

theorem shows_ofListing (schema : String) (columns : List KeyColumn) (ids : List Int) :
    Shows (ofListing schema columns ids : Attempt (Witnessed σ) _) (ofListing schema columns ids) := by
  induction ids with
  | nil => exact shows_pure _
  | cons id ids ih =>
    refine shows_bind ?_ fun _ => shows_bind ih fun _ => shows_pure _
    cases columnsOf columns id with
    | nil => exact shows_pure _
    | cons first rest =>
      refine shows_bind ?_ fun _ => shows_pure _
      unfold destinationsOf
      split
      · exact shows_pure _
      · exact Catalog.shows_primaryKeyColumns _ _

theorem shows_declared (table : String) (schema : Option String) :
    Shows (declared table schema : Attempt (Witnessed σ) _) (declared table schema) := by
  refine shows_bind (Catalog.shows_resolve table schema) fun resolved => shows_bind (shows_ask (by rintro ⟨⟩)) fun columns => ?_
  exact shows_bind (shows_ofListing _ _ _) fun keys => shows_bind (shows_debug _) fun _ => shows_pure _

theorem shows_check (table schema : Option String) :
    Shows (check table schema : Attempt (Witnessed σ) _) (check table schema) := by
  unfold check
  extract_lets rest further
  have finish (resolved : String) : Shows (rest resolved) (further resolved) :=
    shows_bind (shows_ask (by rintro ⟨⟩)) fun _ => shows_pure _
  cases table with
  | some table => exact shows_bind (Catalog.shows_resolve table schema) finish
  | none =>
    cases schema with
    | some schema => exact shows_bind (Catalog.shows_ensureSchema schema) finish
    | none => exact shows_bind (shows_pure _) finish

theorem shows_describe (violation : Violation) (schema : String) :
    Shows (describe violation schema : Attempt (Witnessed σ) _) (describe violation schema) := by
  refine shows_bind (shows_declared _ _) fun keys => ?_
  cases violation.originRowid with
  | none => exact shows_bind (shows_pure _) fun _ => shows_pure _
  | some rowid => exact shows_bind (shows_ask (by rintro ⟨⟩)) fun _ => shows_pure _

theorem shows_ensureNone (table schema : Option String) :
    Shows (ensureNone table schema : Attempt (Witnessed σ) _) (ensureNone table schema) := by
  refine shows_bind (shows_check table schema) ?_
  rintro ⟨resolved, violations⟩
  cases violations with
  | nil => exact shows_pure _
  | cons violation rest =>
    exact shows_bind (shows_describe _ _) fun _ => shows_bind (shows_debug _) fun _ => shows_fail _

end ForeignKey

theorem Lookup.shows_run (question : Lookup) :
    Shows (question.run : Attempt (Witnessed σ) Answer) question.run := by
  have map {α : Type} {first : Attempt (Witnessed σ) α} {second : Attempt σ α} (shows_ : Shows first second)
      (f : α → Answer) : Shows (first >>= fun value => pure (f value)) (second >>= fun value => pure (f value)) :=
    shows_bind shows_ fun _ => shows_pure _
  cases question with
  | schemaNames => exact map Catalog.shows_schemaNames _
  | ensureSchema schema => exact map (Catalog.shows_ensureSchema schema) _
  | tableExists table schema => exact map (shows_ask (by rintro ⟨⟩)) _
  | tableSql table schema => exact map (Catalog.shows_tableSql table schema) _
  | primaryKeyColumns table schema => exact map (Catalog.shows_primaryKeyColumns table schema) _
  | resolve table schema => exact map (Catalog.shows_resolve table schema) _
  | foreignKeys table schema => exact map (ForeignKey.shows_declared table schema) _
  | violations table schema => exact map (shows_bind (ForeignKey.shows_check table schema) fun _ => shows_pure _) _
  | ensureNone table schema => exact map (ForeignKey.shows_ensureNone table schema) _
  | describe violation schema => exact map (ForeignKey.shows_describe violation schema) _

namespace Validator

theorem shows_findTarget (validator : Validator) :
    Shows (validator.findTarget : Attempt (Witnessed σ) Target) validator.findTarget := by
  unfold findTarget
  split
  · exact shows_pure _
  · rename_i columns _ _
    intro one other same
    unfold createHelper
    rw [run_bind_ok _ (run_observe _ one), run_bind_ok _ (run_observe _ other), Witnessed.answer_eq, same]
    cases answered : Engine.answer (.createProbe (helper columns) columns) other.engine with
    | mk answer engine =>
      cases answer with
      | ok _ => exact ⟨rfl, rfl, [], rfl, stops_nil _⟩
      | error fault =>
        have result {τ : Type} (world : World τ) : (if fault.kind == .operational then
            fail (.probeNotCreated fault) else throw (.engine fault) : Attempt τ Target).run world =
            (.error (if fault.kind == .operational then .diagnostic (.probeNotCreated fault) else .engine fault), world) := by
          split <;> rfl
        dsimp only
        rw [result, result]
        refine ⟨rfl, rfl, _, rfl, fun purpose member => ?_⟩
        obtain ⟨rfl, rfl⟩ := Prod.mk.inj (List.mem_singleton.1 member)
        rfl
  · rename_i table schema _ _
    unfold locate
    refine shows_bind (Catalog.shows_resolve table schema) fun resolved =>
      shows_bind (Catalog.shows_tableSql table resolved) fun sql => ?_
    split
    · exact shows_pure _
    · exact shows_fail _

theorem shows_validate (validator : Validator) (expression : String) :
    Run.Shows (fun result faults => Stops result.1 faults)
      (validator.validate expression : Run (Witnessed σ) _) (validator.validate expression) := by
  intro one other same
  obtain ⟨result, engines, faults, added, stops⟩ := validator.shows_findTarget one other same
  cases ran : validator.findTarget.run one with
  | mk answer after =>
    cases also : validator.findTarget.run other with
    | mk answered later =>
      rw [ran, also] at result engines
      rw [ran] at added stops
      obtain rfl : answer = answered := result
      cases answer with
      | error failure =>
        rw [validate_lost expression ran, validate_lost expression also]
        exact ⟨rfl, engines, faults, added, fun purpose member => congrArg Except.error (Except.error.inj (stops purpose member))⟩
      | ok target =>
        obtain ⟨value, engine⟩ := validate_found expression ran
        obtain ⟨found, left⟩ := validate_found expression also
        have engines : after.engine.engine = later.engine := engines
        rw [Witnessed.answer_eq, engines] at value engine
        rw [value, found, engine, left]
        refine ⟨rfl, rfl, faults ++ _, by rw [added, List.append_assoc], stops.after fun purpose member => ?_⟩
        cases answered : (Engine.answer (.matchProbe target expression) later.engine).1 with
        | ok _ =>
          rw [answered] at member
          cases member
        | error fault =>
          rw [answered] at member
          obtain ⟨rfl, rfl⟩ := Prod.mk.inj (List.mem_singleton.1 member)
          have other : FaultClass.of .busy = .other := by decide
          simp only [judge, other]
          rfl

-- What a lock refuses of a validation: the making of its probe, the search for its table, or the match.
theorem refused_cases {validator : Validator} {expression : String} {engine : σ} {purpose : Purpose}
    {journal : List Record} (records : List Record)
    (refused : (purpose, .busy) ∈ (((validator.validate expression : Run (Witnessed σ) _)
      { engine := { engine }, journal }).2.engine.faults)) :
    (purpose = .creation ∧ ∃ columns, validator.probe = .helper columns ∧ validator.target = none ∧
      (Engine.answer (.createProbe (helper columns) columns) engine).1 = .error .busy) ∨
    (purpose = .lookup ∧ ∃ table schema, validator.probe = .table table schema ∧ validator.target = none ∧
      ((locate table schema : Attempt σ Target).run { engine, journal := records }).1 = .error (.engine .busy)) ∨
    purpose = .query ∧ ∃ target found, (validator.findTarget : Attempt σ Target).run { engine, journal := records } = (.ok target, found) ∧
      (Engine.answer (.matchProbe target expression) found.engine).1 = .error .busy := by
  obtain ⟨result, engines, faults, added, stops⟩ :=
    validator.shows_findTarget { engine := { engine }, journal } { engine, journal := records } rfl
  cases ran : (validator.findTarget : Attempt (Witnessed σ) Target).run { engine := { engine }, journal } with
  | mk answer after =>
    rw [ran] at result engines added stops
    cases answer with
    | ok target =>
      obtain ⟨-, matched⟩ := validate_found expression ran
      rw [matched, Witnessed.answer_eq] at refused
      rcases List.mem_append.1 refused with early | late
      · rw [added] at early
        exact absurd early (stops.free purpose)
      · have engines : after.engine.engine = ((validator.findTarget : Attempt σ Target).run { engine, journal := records }).2.engine := engines
        rw [engines] at late
        cases answered : (Engine.answer (.matchProbe target expression)
            ((validator.findTarget : Attempt σ Target).run { engine, journal := records }).2.engine).1 with
        | ok _ =>
          rw [answered] at late
          cases late
        | error fault =>
          rw [answered] at late
          obtain ⟨rfl, rfl⟩ := Prod.mk.inj (List.mem_singleton.1 late)
          exact .inr (.inr ⟨rfl, target, _, Prod.ext result.symm rfl, answered⟩)
    | error failure =>
      rw [validate_lost expression ran] at refused
      cases known : validator.target with
      | some target =>
        rw [findTarget_held _ known] at ran
        cases ran
      | none =>
        cases probe : validator.probe with
        | helper columns =>
          obtain ⟨_, made⟩ := findTarget_helper { engine := { engine }, journal : World (Witnessed σ) } probe known
          rw [made] at ran
          obtain ⟨-, rfl⟩ := Prod.mk.inj ran
          rw [Witnessed.answer_eq] at refused
          cases answered : (Engine.answer (.createProbe (helper columns) columns) engine).1 with
          | ok _ =>
            rw [answered] at refused
            cases refused
          | error fault =>
            rw [answered] at refused
            obtain ⟨rfl, rfl⟩ := Prod.mk.inj (List.mem_singleton.1 refused)
            exact .inl ⟨rfl, columns, rfl, rfl, answered⟩
        | table table schema =>
          have located {τ : Type} [TextQuery.Engine τ] :
              (validator.findTarget : Attempt τ Target) = locate table schema := by
            unfold findTarget
            rw [known, probe]
          have lookups : Keeps (fun witnessed : Witnessed σ => ∀ entry ∈ witnessed.faults, entry.1 = .lookup)
              (locate table schema : Attempt (Witnessed σ) Target) := by
            refine keeps_bind (Catalog.keeps_resolve Witnessed.lookedUp_lookups table schema) fun resolved =>
              keeps_bind (Catalog.keeps_tableSql Witnessed.lookedUp_lookups table resolved) fun sql => ?_
            split
            · exact keeps_pure _
            · exact keeps_fail _
          have kept := lookups { engine := { engine }, journal } (List.forall_mem_nil _)
          rw [← located, ran] at kept
          obtain rfl : purpose = .lookup := kept _ refused
          rw [added] at refused
          refine .inr (.inl ⟨rfl, table, schema, rfl, rfl, ?_⟩)
          rw [← located, ← result, Except.error.inj (stops _ refused)]
          rfl

end Validator

end TextQuery
