import Mathlib.Control.Monad.Basic
import TextQuery.Proofs.Validator.Outcome
import TextQuery.Session

set_option autoImplicit false

namespace TextQuery

open Engine

-- The failures that are reported as faults of the schema.
def Failure.IsSchema (failure : Failure) : Prop :=
  ∃ diagnostic, failure = .diagnostic diagnostic ∧ diagnostic.subject = .schema

-- Finding a probe that is not known yet: it is made, or looked for by its name.
def Probe.look {σ : Type} [Engine σ] : Probe → Attempt σ Target
  | .helper columns => Validator.createHelper columns
  | .table name schema => Validator.locate name schema

namespace Validator

section

variable {σ : Type} [Engine σ] {validator : Validator} {world : World σ}

theorem findTarget_new (lacking : validator.target = none) :
    (validator.findTarget : Attempt σ Target) = validator.probe.look := by
  unfold findTarget
  rw [lacking]
  cases validator.probe <;> rfl

theorem create_target {table schema : Option String} {columns : List String} {made : Validator}
    (create : Validator.create table schema columns = .ok made) : made = { probe := made.probe } := by
  unfold Validator.create at create
  split at create
  · cases create
  · cases create
    rfl
  · split at create <;> cases create
    rfl

theorem judge_schema {target : Target} {expression : String} {answer : Except Fault Unit}
    {failure : Failure} (judged : (validator.judge target expression answer).1 = .error failure)
    (isSchema : failure.IsSchema) :
    (validator.judge target expression answer).2 = { probe := validator.probe } := by
  obtain ⟨diagnostic, rfl, subject⟩ := isSchema
  cases answer with
  | ok _ => cases judged
  | error fault =>
    unfold judge at judged ⊢
    cases classified : FaultClass.of fault with
    | schema => simp only [classified]
    | grammar =>
      simp only [classified] at judged
      cases judged
      cases subject
    | other =>
      simp only [classified] at judged
      cases judged

theorem validate_cases (validator : Validator) (expression : String) (world : World σ) :
    (∃ failure, (validator.findTarget.run world).1 = .error failure ∧ validator.target = none ∧
      (validator.validate expression world).1 = (.error failure, validator)) ∨
    ∃ target, (validator.findTarget.run world).1 = .ok target ∧
      (validator.validate expression world).1 = validator.judge target expression
        (Engine.answer (.matchProbe target expression) (validator.findTarget.run world).2.engine).1 := by
  cases find : validator.findTarget.run world with
  | mk found after =>
    cases found with
    | ok target => exact .inr ⟨target, rfl, (validate_found expression find).1⟩
    | error failure =>
      refine .inl ⟨failure, rfl, ?_, by rw [validate_lost expression find]⟩
      cases held : validator.target with
      | none => rfl
      | some target =>
        rw [findTarget_held world held] at find
        cases find

theorem validate_probe (validator : Validator) (expression : String) (world : World σ) :
    (validator.validate expression world).1.2.probe = validator.probe := by
  rcases validate_cases validator expression world with ⟨failure, -, -, lost⟩ | ⟨target, -, judged⟩
  · rw [lost]
  · rw [judged]
    unfold judge
    split
    · rfl
    · split <;> rfl

theorem validate_schema {expression : String} {failure : Failure}
    (failed : (validator.validate expression world).1.1 = .error failure) (isSchema : failure.IsSchema) :
    (validator.validate expression world).1.2 = { probe := validator.probe } := by
  rcases validate_cases validator expression world with ⟨other, -, lacking, lost⟩ | ⟨target, -, judged⟩
  · rw [lost]
    cases validator
    cases lacking
    rfl
  · rw [judged] at failed ⊢
    exact judge_schema failed isSchema

end

def call (validator : Validator) (session : Session) (expression : String) :
    (Except Failure Pattern × Validator) × List Record × Session :=
  if session.isClosed then ((.error (.closed session.path), validator), [], session)
  else session.onDatabase (validator.validate expression)

theorem call_probe (validator : Validator) (session : Session) (expression : String) :
    (validator.call session expression).1.2.probe = validator.probe := by
  unfold call
  split
  · rfl
  · exact validate_probe validator expression _

theorem call_schema {validator : Validator} {session : Session} {expression : String} {failure : Failure}
    (failed : (validator.call session expression).1.1 = .error failure) (isSchema : failure.IsSchema) :
    (validator.call session expression).1.2 = { probe := validator.probe } := by
  unfold call at failed ⊢
  split at failed
  · obtain ⟨_, closed, -⟩ := isSchema
    cases failed
    cases closed
  · rename_i running
    rw [if_neg running]
    exact validate_schema failed isSchema

end Validator

/-- What happens on a connection: a call of the validator, or a step of the session. -/
inductive Event where
  | validate (expression : String)
  | step (next : Step)

structure Shared where
  session : Session
  validator : Validator
  latest : Option (Except Failure Pattern) := none

namespace Shared

def next (shared : Shared) : Event → (Except Failure Answer × List Record) × Shared
  | .validate expression =>
    let ((result, validator), records, session) := shared.validator.call shared.session expression
    ((result.map fun made => .pattern (some made), records),
      { session, validator, latest := some result })
  | .step next =>
    let (answer, records, session) := shared.session.step next
    ((answer, records), { shared with session })

def after (shared : Shared) (events : List Event) : Shared :=
  events.foldl (fun shared event => (shared.next event).2) shared

def outcomes (shared : Shared) : List Event → List (Except Failure Answer × List Record)
  | [] => []
  | event :: events => (shared.next event).1 :: outcomes (shared.next event).2 events

theorem outcomes_latest (session : Session) (validator : Validator)
    (one other : Option (Except Failure Pattern)) (events : List Event) :
    outcomes ⟨session, validator, one⟩ events = outcomes ⟨session, validator, other⟩ events := by
  induction events generalizing session validator one other with
  | nil => rfl
  | cons event events ih =>
    cases event with
    | validate expression => rfl
    | step next =>
      simp only [outcomes]
      exact congrArg _ (ih _ validator one other)

/-- The validator serves the probe, and knows nothing of it after a failure for the schema. -/
structure Serves (probe : Probe) (shared : Shared) : Prop where
  same : shared.validator.probe = probe
  afresh : ∀ failure, shared.latest = some (.error failure) → failure.IsSchema →
    shared.validator = { probe }

theorem serves_next {probe : Probe} {shared : Shared} (serves : Serves probe shared) (event : Event) :
    Serves probe (shared.next event).2 := by
  cases event with
  | validate expression =>
    constructor
    · exact (Validator.call_probe shared.validator shared.session expression).trans serves.same
    · intro failure latest isSchema
      have failed : (shared.validator.call shared.session expression).1.1 = .error failure :=
        Option.some.inj latest
      have lost := Validator.call_schema failed isSchema
      rw [serves.same] at lost
      exact lost
  | step next => exact ⟨serves.same, serves.afresh⟩

theorem serves_after {probe : Probe} {shared : Shared} (serves : Serves probe shared)
    (events : List Event) : Serves probe (shared.after events) := by
  induction events generalizing shared with
  | nil => exact serves
  | cons event events ih => exact ih (serves_next serves event)

/-- After a run whose latest call failed for the schema, whatever has been done on the connection since,
the validator answers as a new one would: it knows no table, and the next call looks for the probe before
anything else. -/
theorem outcomes_afresh {table schema : Option String} {columns : List String} {made : Validator}
    (create : Validator.create table schema columns = .ok made) (session : Session)
    {earlier : List Event} {failure : Failure}
    (failed : (after ⟨session, made, none⟩ earlier).latest = some (.error failure))
    (isSchema : failure.IsSchema) :
    let lost := after ⟨session, made, none⟩ earlier
    lost.validator.target = none ∧
    (∀ later, lost.outcomes later = outcomes ⟨lost.session, made, none⟩ later) ∧
    (lost.session.isClosed = false → ∀ expression,
      let world : World Database := { engine := lost.session.database }
      let again := lost.validator.call lost.session expression
      (∃ missing, (made.probe.look.run world).1 = .error missing ∧
        again.1 = (.error missing, made)) ∨
      ∃ target, (made.probe.look.run world).1 = .ok target ∧
        again.1 = made.judge target expression
          (Engine.answer (.matchProbe target expression) (made.probe.look.run world).2.engine).1) := by
  intro lost
  have new := Validator.create_target create
  have serves : Serves made.probe lost := by
    apply serves_after
    exact ⟨rfl, by simp⟩
  have same : lost.validator = made := (serves.afresh failure failed isSchema).trans new.symm
  have lacking : made.target = none := by rw [new]
  refine ⟨by rw [same, lacking], ?_, ?_⟩
  · intro later
    rw [← same]
    exact outcomes_latest lost.session lost.validator lost.latest none later
  · intro running expression world again
    have called : again = lost.session.onDatabase (made.validate expression) := by
      simp only [again, Validator.call, running, same]
      rfl
    have first : again.1 = (made.validate expression world).1 := by rw [called]; rfl
    rw [first, ← Validator.findTarget_new lacking]
    rcases Validator.validate_cases made expression world with ⟨missing, find, -, answer⟩ | found
    · exact .inl ⟨missing, find, answer⟩
    · exact .inr found

-- The table of the probe went away with its schema, and there is one of its name in another schema.
theorem outcomes_afresh_moved :
    let made : Validator := { probe := .table "f" none }
    let earlier : List Event :=
      [.step (.build (.attach "aux")), .step (.build (.createFullText "aux" "f" ["a"] [] fullTextClause)),
        .validate "one", .step (.build (.detach "aux")), .validate "one",
        .step (.build (.createFullText "main" "f" ["a"] [] fullTextClause))]
    Validator.create (some "f") none [] = .ok made ∧
    (after ⟨.fresh, made, none⟩ (earlier.take 3)).validator.target = some (.located "aux" "f") ∧
    ∃ lost failure, lost = after ⟨.fresh, made, none⟩ earlier ∧ lost.latest = some (.error failure) ∧
      failure.IsSchema ∧ lost.validator.target = none ∧
      (∀ later, lost.outcomes later = outcomes ⟨lost.session, made, none⟩ later) ∧
      (lost.validator.call lost.session "one").1 =
        (.ok ⟨"one"⟩, { made with target := some (.located "main" "f") }) := by
  intro made earlier
  have create : Validator.create (some "f") none [] = .ok made := rfl
  obtain ⟨held, failed, found⟩ :
      (after ⟨.fresh, made, none⟩ (earlier.take 3)).validator.target = some (.located "aux" "f") ∧
      (after ⟨.fresh, made, none⟩ earlier).latest =
        some (.error (.diagnostic (.schema "no such table: aux.f"))) ∧
      ((after ⟨.fresh, made, none⟩ earlier).validator.call
        (after ⟨.fresh, made, none⟩ earlier).session "one").1 =
        (.ok ⟨"one"⟩, { made with target := some (.located "main" "f") }) := by decide +kernel
  have isSchema : Failure.IsSchema (.diagnostic (.schema "no such table: aux.f")) := ⟨_, rfl, rfl⟩
  obtain ⟨forgotten, same, -⟩ := outcomes_afresh create .fresh failed isSchema
  exact ⟨create, held, _, _, rfl, failed, isSchema, forgotten, same, found⟩

end Shared

end TextQuery
