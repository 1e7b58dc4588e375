import TextQuery.Proofs.Engine.Attempt
import TextQuery.Validator

set_option autoImplicit false

namespace TextQuery

open Engine

namespace Fault

def Begins (fault : Fault) (beginnings : List String) : Prop :=
  fault.kind = .operational ∧ ∃ beginning ∈ beginnings, Text.startsWith fault.message beginning = true

def IsSchema (fault : Fault) : Prop :=
  fault.Begins ["no such table", "unknown database", "no such module"]

def IsGrammar (fault : Fault) : Prop :=
  fault.Begins ["fts5:", "unknown special query", "no such column", "unterminated string"]

-- Of two beginnings of one text the shorter one begins the other.
theorem Begins.comparable {fault : Fault} {beginnings : List String} {start : String}
    (begin : fault.Begins beginnings) (starts : start.toList <+: fault.message.toList) :
    ∃ beginning ∈ beginnings,
      beginning.toList <+: start.toList ∨ start.toList <+: beginning.toList := by
  obtain ⟨-, beginning, member, begins⟩ := begin
  exact ⟨beginning, member,
    List.prefix_or_prefix_of_prefix (List.isPrefixOf_iff_prefix.1 begins) starts⟩

theorem not_isGrammar_of_isSchema {fault : Fault} (schema : fault.IsSchema) : ¬fault.IsGrammar := by
  intro grammar
  obtain ⟨-, start, member, starts⟩ := schema
  have apart : ∀ start ∈ ["no such table", "unknown database", "no such module"],
      ¬∃ beginning ∈ ["fts5:", "unknown special query", "no such column", "unterminated string"],
        beginning.toList <+: start.toList ∨ start.toList <+: beginning.toList := by decide
  exact apart start member (Begins.comparable grammar (List.isPrefixOf_iff_prefix.1 starts))

end Fault

-- The three classes, each with what it is about. The order of the two tests does not matter.
theorem FaultClass.of_cases (fault : Fault) :
    (FaultClass.of fault = .schema ∧ fault.IsSchema) ∨
    (FaultClass.of fault = .grammar ∧ fault.IsGrammar) ∨
    (FaultClass.of fault = .other ∧ ¬fault.IsSchema ∧ ¬fault.IsGrammar) := by
  have begins (beginnings : List String) (operational : fault.kind = .operational) :
      beginnings.any (Text.startsWith fault.message) = true ↔ fault.Begins beginnings := by
    simp [Fault.Begins, operational]
  by_cases operational : fault.kind = .operational
  · by_cases schema : fault.IsSchema
    · refine .inl ⟨?_, schema⟩
      simp [FaultClass.of, operational, (begins schemaBeginnings operational).2 schema]
    · have noSchema := mt (begins schemaBeginnings operational).1 schema
      by_cases grammar : fault.IsGrammar
      · refine .inr (.inl ⟨?_, grammar⟩)
        have isGrammar := (begins grammarBeginnings operational).2 grammar
        rw [FaultClass.of, if_neg (by simp [operational]), if_neg noSchema, if_pos isGrammar]
      · have noGrammar := mt (begins grammarBeginnings operational).1 grammar
        refine .inr (.inr ⟨?_, schema, grammar⟩)
        rw [FaultClass.of, if_neg (by simp [operational]), if_neg noSchema, if_neg noGrammar]
  · refine .inr (.inr ⟨?_, fun schema => operational schema.1, fun grammar => operational grammar.1⟩)
    rw [FaultClass.of, if_pos (by simpa using operational)]

theorem FaultClass.of_eq_schema {fault : Fault} : of fault = .schema ↔ fault.IsSchema := by
  rcases of_cases fault with ⟨found, schema⟩ | ⟨found, grammar⟩ | ⟨found, noSchema, -⟩
  · exact iff_of_true found schema
  · refine iff_of_false (by simp [found]) ?_
    exact fun schema => Fault.not_isGrammar_of_isSchema schema grammar
  · exact iff_of_false (by simp [found]) noSchema

theorem FaultClass.of_eq_grammar {fault : Fault} : of fault = .grammar ↔ fault.IsGrammar := by
  rcases of_cases fault with ⟨found, schema⟩ | ⟨found, grammar⟩ | ⟨found, -, noGrammar⟩
  · exact iff_of_false (by simp [found]) (Fault.not_isGrammar_of_isSchema schema)
  · exact iff_of_true found grammar
  · exact iff_of_false (by simp [found]) noGrammar

namespace Validator

-- The answer to an expression, and the validator after it, once the engine has answered the match.
def judge (validator : Validator) (target : Target) (expression : String) :
    Except Fault Unit → Except Failure Pattern × Validator
  | .ok _ => (.ok ⟨expression⟩, { validator with target := some target })
  | .error fault =>
    match FaultClass.of fault with
    | .schema => (.error (.diagnostic (.schema fault.message)), { validator with target := none })
    | .grammar =>
      (.error (.diagnostic (.rejected expression fault)), { validator with target := some target })
    | .other => (.error (.engine fault), { validator with target := some target })

-- Only a grammar fault is told as one.
theorem judge_grammar {validator : Validator} {target : Target} {expression rejected : String}
    {answer : Except Fault Unit} {found : Diagnostic}
    (judged : (validator.judge target expression answer).1 = .error (.diagnostic found))
    (grammar : found.subject = .grammar rejected) : ∃ fault, answer = .error fault ∧ fault.IsGrammar := by
  cases answer with
  | ok _ => cases judged
  | error fault =>
    refine ⟨fault, rfl, FaultClass.of_eq_grammar.1 ?_⟩
    unfold judge at judged
    cases classified : FaultClass.of fault with
    | grammar => rfl
    | schema =>
      simp only [classified] at judged
      cases judged
      cases grammar
    | other =>
      simp only [classified] at judged
      cases judged

variable {σ : Type} [Engine σ]

theorem validate_found {validator : Validator} {target : Target} {world found : World σ}
    (expression : String) (find : validator.findTarget.run world = (.ok target, found)) :
    let answer := Engine.answer (.matchProbe target expression) found.engine
    ((validator.validate expression) world).1 = validator.judge target expression answer.1 ∧
      ((validator.validate expression) world).2.engine = answer.2 := by
  simp only [validate, bind, StateT.bind, find, Run.ask]
  cases Engine.answer (.matchProbe target expression) found.engine with
  | mk answer engine =>
    cases answer with
    | ok _ => exact ⟨rfl, rfl⟩
    | error fault =>
      simp only [judge]
      cases FaultClass.of fault <;> exact ⟨rfl, rfl⟩

theorem validate_lost {validator : Validator} {failure : Failure} {world after : World σ}
    (expression : String) (find : validator.findTarget.run world = (.error failure, after)) :
    (validator.validate expression) world = ((.error failure, validator), after) := by
  simp only [validate, bind, StateT.bind, find]
  rfl

theorem findTarget_held {validator : Validator} {target : Target} (world : World σ)
    (held : validator.target = some target) :
    validator.findTarget.run world = (.ok target, world) := by
  simp only [findTarget, held]
  rfl

theorem findTarget_helper {columns : List String} {validator : Validator} (world : World σ)
    (probe : validator.probe = .helper columns) (lacking : validator.target = none) :
    let answer := Engine.answer (.createProbe (helper columns) columns) world.engine
    ∃ journal, validator.findTarget.run world =
      (match answer.1 with
        | .ok _ => .ok (.helper (helper columns))
        | .error fault =>
          if fault.kind = .operational then .error (.diagnostic (.probeNotCreated fault))
          else .error (.engine fault), ⟨answer.2, journal⟩) := by
  simp only [findTarget, lacking, probe, createHelper]
  rw [Attempt.run_bind_ok _ (Attempt.run_observe _ world)]
  cases Engine.answer (.createProbe (helper columns) columns) world.engine with
  | mk answer engine =>
    cases answer with
    | ok _ => exact ⟨_, rfl⟩
    | error fault =>
      refine ⟨world.journal, ?_⟩
      by_cases operational : fault.kind = .operational <;> simp [operational] <;> rfl

theorem findTarget_table {name resolved sql : String} {schema : Option String} {validator : Validator}
    {world middle : World σ} {engine : σ} (probe : validator.probe = .table name schema)
    (lacking : validator.target = none)
    (resolves : (Catalog.resolve name schema : Attempt σ String).run world = (.ok resolved, middle))
    (told : Engine.answer (.tableSql resolved name) middle.engine = (.ok (some sql), engine)) :
    validator.findTarget.run world =
      (if Declaration.isFullText sql then .ok (.located resolved name)
        else .error (.diagnostic (.notFullText resolved name)), { middle with engine }) := by
  have asked : (Catalog.tableSql name resolved : Attempt σ String).run middle =
      (.ok sql, { middle with engine }) := by
    unfold Catalog.tableSql
    rw [Attempt.run_bind_ok _ (by rw [Attempt.run_ask, told]; rfl)]
    rfl
  simp only [findTarget, lacking, probe, locate]
  rw [Attempt.run_bind_ok _ resolves, Attempt.run_bind_ok _ asked]
  split <;> rfl

end Validator

end TextQuery
