import TextQuery.Engine.Script
import TextQuery.Proofs.Validator.Outcome

set_option autoImplicit false

namespace TextQuery

open Engine

structure Exchange where
  purpose : Purpose
  reply : Reply
deriving DecidableEq, Repr

namespace Exchange

def Succeeds (exchange : Exchange) : Prop := ∀ fault, exchange.reply ≠ .fault fault

-- The helper table is there after this.
def Gains (exchange : Exchange) : Prop := exchange.purpose = .creation ∧ exchange.Succeeds

-- The helper table turned out to be gone.
def Loses (exchange : Exchange) : Prop :=
  exchange.purpose = .query ∧ ∃ fault, exchange.reply = .fault fault ∧ fault.IsSchema

end Exchange

namespace Engine.Script

-- The answer that is given to the next statement.
def next (script : Script) : Reply := script.replies.head?.getD .done

def step (script : Script) (purpose : Purpose) : Script :=
  { replies := script.replies.tail, asked := script.asked ++ [purpose] }

theorem answer_eq {α : Type} (statement : Statement α) (script : Script) :
    TextQuery.Engine.answer statement script =
      (reply statement script.next, script.step statement.purpose) := rfl

end Engine.Script

/-- Whether a probe is held, as the statements so far tell it: one was created, and none has been lost
since. -/
def Holds (history : List Exchange) : Prop :=
  ∃ earlier made later, history = earlier ++ made :: later ∧ made.Gains ∧
    ∀ exchange ∈ later, ¬exchange.Loses

theorem not_holds_nil : ¬Holds [] := by
  rintro ⟨earlier, made, later, split, -⟩
  simp at split

theorem holds_append (history : List Exchange) (exchange : Exchange) :
    Holds (history ++ [exchange]) ↔ exchange.Gains ∨ (Holds history ∧ ¬exchange.Loses) := by
  constructor
  · rintro ⟨earlier, made, later, split, gains, kept⟩
    obtain rfl | ⟨between, last, rfl⟩ := List.eq_nil_or_concat later
    · obtain ⟨-, same⟩ := List.append_inj' split rfl
      cases same
      exact .inl gains
    · rw [List.concat_eq_append, ← List.cons_append, ← List.append_assoc] at split
      obtain ⟨rfl, same⟩ := List.append_inj' split rfl
      cases same
      exact .inr ⟨⟨earlier, made, between, rfl, gains, fun other member => kept other (by simp [member])⟩,
        kept exchange (by simp)⟩
  · rintro (gains | ⟨⟨earlier, made, later, rfl, gains, kept⟩, keeps⟩)
    · exact ⟨history, exchange, [], rfl, gains, by simp⟩
    · refine ⟨earlier, made, later ++ [exchange], by simp, gains, ?_⟩
      intro other member
      rcases List.mem_append.1 member with old | new
      · exact kept other old
      · rwa [List.mem_singleton.1 new]

namespace Validator

/-- A call with the statements it asked for, and whether a probe was held before and after it. -/
structure Call where
  expression : String
  before : Bool
  exchanges : List Exchange
  answer : Except Failure Pattern
  after : Bool

-- The statements between two states of a script. A script that is used up goes on succeeding.
def exchanges (before after : Script) : List Exchange :=
  (after.asked.drop before.asked.length).zipIdx.map fun (purpose, index) =>
    ⟨purpose, before.replies.getD index .done⟩

def callOf (validator : Validator) (script : Script) (expression : String) : Call :=
  let result := validator.validate expression { engine := script }
  { expression
    before := validator.target.isSome
    exchanges := exchanges script result.2.engine
    answer := result.1.1
    after := result.1.2.target.isSome }

def calls (validator : Validator) (script : Script) : List String → List Call
  | [] => []
  | expression :: expressions =>
    let result := validator.validate expression { engine := script }
    callOf validator script expression :: calls result.1.2 result.2.engine expressions

-- The code that the driver gave, or the one of an unspecified error.
def driverCode (fault : Fault) : Int :=
  match fault.code with
  | none | some 0 => 1
  | some code => code

theorem rejected_eq (expression : String) (fault : Fault) :
    Diagnostic.rejected expression fault =
      { subject := .grammar expression
        message := fault.message
        resultCode := some (driverCode fault % 256)
        extendedCode := some (driverCode fault) } := by
  unfold Diagnostic.rejected Diagnostic.grammar driverCode
  rcases fault.code with _ | code
  · rfl
  · by_cases zero : code = 0 <;> simp [zero, Diagnostic.errorCode]

/-- What a call comes to after a history of statements. -/
structure Lawful (history : List Exchange) (call : Call) : Prop where
  asks : (∃ fault, call.exchanges = [⟨.creation, .fault fault⟩]) ∨
    (∃ reply, call.exchanges = [⟨.query, reply⟩]) ∨
    ∃ made reply, (∀ fault, made ≠ .fault fault) ∧ call.exchanges = [⟨.creation, made⟩, ⟨.query, reply⟩]
  creates : .creation ∈ call.exchanges.map Exchange.purpose ↔ call.before = false
  before : call.before = true ↔ Holds history
  after : call.after = true ↔ Holds (history ++ call.exchanges)
  accepted : ∀ pattern, call.answer = .ok pattern ↔
    pattern = ⟨call.expression⟩ ∧ ∀ exchange ∈ call.exchanges, exchange.Succeeds
  schema : (∃ found, call.answer = .error (.diagnostic found) ∧ found.subject = .schema) ↔
    (∃ fault, ⟨.creation, .fault fault⟩ ∈ call.exchanges ∧ fault.kind = .operational) ∨
      ∃ fault, ⟨.query, .fault fault⟩ ∈ call.exchanges ∧ fault.IsSchema
  grammar : (∃ found rejected, call.answer = .error (.diagnostic found) ∧
      found.subject = .grammar rejected) ↔
    ∃ fault, ⟨.query, .fault fault⟩ ∈ call.exchanges ∧ fault.IsGrammar
  rejected : ∀ fault, ⟨.query, .fault fault⟩ ∈ call.exchanges → fault.IsGrammar →
    call.answer = .error (.diagnostic
      { subject := .grammar call.expression
        message := fault.message
        resultCode := some (driverCode fault % 256)
        extendedCode := some (driverCode fault) })
  passed : ∀ fault, call.answer = .error (.engine fault) ↔
    (⟨.creation, .fault fault⟩ ∈ call.exchanges ∧ fault.kind ≠ .operational) ∨
      (⟨.query, .fault fault⟩ ∈ call.exchanges ∧ ¬fault.IsSchema ∧ ¬fault.IsGrammar)

section

variable {history before : List Exchange} {reply : Reply}

-- Before the match at most the probe was created.
theorem fault_mem (quiet : ∀ exchange ∈ before, exchange.Gains) {purpose : Purpose} {fault : Fault} :
    ⟨purpose, .fault fault⟩ ∈ before ++ [⟨.query, reply⟩] ↔
      purpose = .query ∧ reply = .fault fault := by
  constructor
  · intro member
    rcases List.mem_append.1 member with old | new
    · exact absurd rfl ((quiet _ old).2 fault)
    · simp only [List.mem_singleton, Exchange.mk.injEq] at new
      exact ⟨new.1, new.2.symm⟩
  · rintro ⟨rfl, rfl⟩
    simp

theorem succeeds_append (quiet : ∀ exchange ∈ before, exchange.Gains) :
    (∀ exchange ∈ before ++ [⟨.query, reply⟩], exchange.Succeeds) ↔
      ∀ fault, reply ≠ .fault fault := by
  constructor
  · intro all
    exact all ⟨.query, reply⟩ (by simp)
  · intro success exchange member
    rcases List.mem_append.1 member with old | new
    · exact (quiet exchange old).2
    · rw [List.mem_singleton.1 new]
      exact success

theorem holds_match (held : Holds (history ++ before)) :
    Holds (history ++ (before ++ [⟨.query, reply⟩])) ↔
      ¬∃ fault, reply = .fault fault ∧ fault.IsSchema := by
  rw [← List.append_assoc, holds_append]
  simp [Exchange.Gains, Exchange.Loses, held]

theorem lawful_match (before : List Exchange) (reply : Reply) (validator : Validator) (target : Target)
    (expression : String) (quiet : ∀ exchange ∈ before, exchange.Gains)
    (held : Holds (history ++ before))
    (first : (Holds history ∧ before = []) ∨ (¬Holds history ∧ ∃ made, before = [⟨.creation, made⟩])) :
    let judged := validator.judge target expression
      (Script.reply (.matchProbe target expression) reply)
    Lawful history
      { expression
        before := before.isEmpty
        exchanges := before ++ [⟨.query, reply⟩]
        answer := judged.1
        after := judged.2.target.isSome } := by
  intro judged
  have asks : (∃ fault, before ++ [⟨.query, reply⟩] = [(⟨.creation, .fault fault⟩ : Exchange)]) ∨
      (∃ reply', before ++ [⟨.query, reply⟩] = [(⟨.query, reply'⟩ : Exchange)]) ∨
      ∃ made reply', (∀ fault, made ≠ .fault fault) ∧
        before ++ [⟨.query, reply⟩] = [(⟨.creation, made⟩ : Exchange), ⟨.query, reply'⟩] := by
    rcases first with ⟨-, rfl⟩ | ⟨-, made, rfl⟩
    · exact .inr (.inl ⟨reply, rfl⟩)
    · exact .inr (.inr ⟨made, reply, (quiet _ (List.mem_singleton_self _)).2, rfl⟩)
  have creates : Purpose.creation ∈ (before ++ [(⟨.query, reply⟩ : Exchange)]).map Exchange.purpose ↔
      before.isEmpty = false := by
    rcases first with ⟨-, rfl⟩ | ⟨-, made, rfl⟩ <;> simp
  have known : before.isEmpty = true ↔ Holds history := by
    rcases first with ⟨holds, rfl⟩ | ⟨lacks, made, rfl⟩
    · simpa using holds
    · simpa using lacks
  by_cases success : ∀ fault, reply ≠ .fault fault
  · have answered : judged = (.ok ⟨expression⟩, { validator with target := some target }) := by
      cases reply with
      | fault fault => exact absurd rfl (success fault)
      | done | values => rfl
    refine { asks, creates, before := known, after := ?_, accepted := ?accepted, schema := ?_,
             grammar := ?_, rejected := ?_, passed := ?_ }
    case accepted =>
      intro pattern
      rw [succeeds_append quiet]
      simp [answered, success, eq_comm]
    all_goals simp [answered, holds_match held, fault_mem quiet, success]
  · obtain ⟨fault, rfl⟩ : ∃ fault, reply = .fault fault := by simpa using success
    have answered : judged = validator.judge target expression (.error fault) := rfl
    -- A fault is of one class only, which decides the kind of the answer.
    rcases FaultClass.of_cases fault with ⟨found, schema⟩ | ⟨found, grammar⟩ | ⟨found, noSchema, noGrammar⟩
    · have noGrammar := Fault.not_isGrammar_of_isSchema schema
      simp only [judge, found] at answered
      refine { asks, creates, before := known, after := ?_, accepted := ?accepted, schema := ?_,
               grammar := ?_, rejected := ?_, passed := ?_ }
      case accepted =>
        intro pattern
        rw [succeeds_append quiet]
        simp [answered]
      all_goals simp [answered, holds_match held, fault_mem quiet, schema, noGrammar,
        Diagnostic.schema, Diagnostic.plain]
    · have noSchema := mt Fault.not_isGrammar_of_isSchema (not_not_intro grammar)
      simp only [judge, found, rejected_eq] at answered
      refine { asks, creates, before := known, after := ?_, accepted := ?accepted, schema := ?_,
               grammar := ?_, rejected := ?_, passed := ?_ }
      case accepted =>
        intro pattern
        rw [succeeds_append quiet]
        simp [answered]
      all_goals simp [answered, holds_match held, fault_mem quiet, noSchema, grammar]
    · simp only [judge, found] at answered
      refine { asks, creates, before := known, after := ?_, accepted := ?accepted, schema := ?_,
               grammar := ?_, rejected := ?_, passed := ?passed }
      case accepted =>
        intro pattern
        rw [succeeds_append quiet]
        simp [answered]
      case passed =>
        intro other
        simp only [answered, fault_mem quiet, reduceCtorEq, false_and, false_or, true_and,
          Except.error.injEq, Failure.engine.injEq, Reply.fault.injEq]
        constructor
        · rintro rfl
          exact ⟨rfl, noSchema, noGrammar⟩
        · exact And.left
      all_goals simp [answered, holds_match held, fault_mem quiet, noSchema, noGrammar]

-- The probe could not be made, so nothing is matched.
theorem lawful_lost (expression : String) (lacks : ¬Holds history) (fault : Fault) :
    Lawful history
      { expression
        before := false
        exchanges := [⟨.creation, .fault fault⟩]
        answer := .error (if fault.kind = .operational then .diagnostic (.probeNotCreated fault)
          else .engine fault)
        after := false } := by
  have still : ¬Holds (history ++ [⟨.creation, .fault fault⟩]) := by
    simp [holds_append, Exchange.Gains, Exchange.Succeeds, lacks]
  by_cases operational : fault.kind = .operational
  all_goals
    refine { asks := by simp, creates := by simp, before := by simpa using lacks,
             after := by simpa using still, accepted := by simp [Exchange.Succeeds], schema := ?_,
             grammar := ?_, rejected := by simp, passed := ?_ }
  · simp [operational, Diagnostic.probeNotCreated, Diagnostic.schema, Diagnostic.plain]
  · simp [operational, Diagnostic.probeNotCreated, Diagnostic.schema, Diagnostic.plain]
  · simp only [operational, if_true, reduceCtorEq, Except.error.injEq, false_iff]
    rintro other (⟨member, unlike⟩ | ⟨member, -⟩)
    · have same : other = fault := by simpa using member
      exact unlike (same ▸ operational)
    · simp at member
  · simp [operational]
  · simp [operational]
  · intro other
    simp only [operational, if_false, Except.error.injEq, Failure.engine.injEq, List.mem_singleton,
      Exchange.mk.injEq, Reply.fault.injEq, reduceCtorEq, false_and, or_false, true_and]
    constructor
    · rintro rfl
      exact ⟨rfl, operational⟩
    · rintro ⟨rfl, -⟩
      rfl

end

section

variable {columns : List String} {validator : Validator} {history : List Exchange}

theorem exchanges_one (script : Script) (purpose : Purpose) :
    exchanges script (script.step purpose) = [⟨purpose, script.next⟩] := by
  simp [exchanges, Script.step, Script.next]
  cases script.replies <;> rfl

theorem exchanges_two (script : Script) (first second : Purpose) :
    exchanges script ((script.step first).step second) =
      [⟨first, script.next⟩, ⟨second, (script.step first).next⟩] := by
  simp [exchanges, Script.step, Script.next]
  rcases script.replies with _ | ⟨reply, _ | ⟨later, replies⟩⟩ <;> simp

theorem judge_probe (target : Target) (expression : String) (answer : Except Fault Unit) :
    (validator.judge target expression answer).2.probe = validator.probe := by
  cases answer with
  | ok _ => rfl
  | error fault =>
    simp only [judge]
    cases FaultClass.of fault <;> rfl

-- What one call keeps: whether a probe is held is told by the statements so far.
theorem callOf_lawful (probe : validator.probe = .helper columns)
    (known : validator.target.isSome = true ↔ Holds history) (script : Script) (expression : String) :
    Lawful history (callOf validator script expression) ∧
      ((validator.validate expression) { engine := script }).1.2.probe = .helper columns := by
  cases held : validator.target with
  | some target =>
    have holds : Holds history := known.1 (by simp [held])
    have found := validate_found expression (findTarget_held { engine := script } held)
    simp only [Script.answer_eq] at found
    obtain ⟨answered, engine⟩ := found
    have lawful := lawful_match [] script.next validator target expression (by simp)
      (by simpa using holds) (.inl ⟨holds, rfl⟩)
    refine ⟨?_, by rw [answered, judge_probe, probe]⟩
    simpa [callOf, held, answered, engine, exchanges_one, Statement.purpose] using lawful
  | none =>
    have lacks : ¬Holds history := fun holds => by simp [held] at known; exact known holds
    obtain ⟨journal, find⟩ := findTarget_helper { engine := script } probe held
    simp only [Script.answer_eq, Statement.purpose] at find
    by_cases success : ∀ fault, script.next ≠ .fault fault
    · have created : Script.reply (.createProbe (helper columns) columns) script.next = .ok () := by
        cases reply : script.next with
        | fault fault => exact absurd reply (success fault)
        | done | values => rfl
      rw [created] at find
      obtain ⟨answered, engine⟩ := validate_found expression find
      simp only [Script.answer_eq, Statement.purpose] at answered engine
      have gains : Exchange.Gains ⟨.creation, script.next⟩ := ⟨rfl, success⟩
      have lawful := lawful_match [⟨.creation, script.next⟩] (script.step .creation).next validator
        (.helper (helper columns)) expression (by simpa using gains) ((holds_append ..).2 (.inl gains))
        (.inr ⟨lacks, _, rfl⟩)
      refine ⟨?_, by rw [answered, judge_probe, probe]⟩
      simpa [callOf, held, answered, engine, exchanges_two] using lawful
    · obtain ⟨fault, reply⟩ : ∃ fault, script.next = .fault fault := by simpa using success
      rw [reply] at find
      have lost : validator.findTarget.run { engine := script } =
          (.error (if fault.kind = .operational then .diagnostic (.probeNotCreated fault)
            else .engine fault), ⟨script.step .creation, journal⟩) := by
        rw [find]
        simp only [Script.reply]
        split <;> rfl
      have answered := validate_lost expression lost
      refine ⟨?_, by rw [answered]; exact probe⟩
      simpa [callOf, held, answered, exchanges_one, reply] using lawful_lost expression lacks fault

/-- Every call is lawful after the statements of the calls before it. -/
theorem calls_lawful {made : Validator} {script : Script} {expressions : List String}
    {earlier later : List Call} {call : Call} (create : Validator.create none none columns = .ok made)
    (split : calls made script expressions = earlier ++ call :: later) :
    Lawful (earlier.flatMap Call.exchanges) call := by
  have run : ∀ (history : List Exchange) (validator : Validator) (script : Script),
      (∃ columns, validator.probe = .helper columns) → (validator.target.isSome = true ↔ Holds history) →
      calls validator script expressions = earlier ++ call :: later →
      Lawful (history ++ earlier.flatMap Call.exchanges) call := by
    clear create split
    induction expressions generalizing earlier with
    | nil =>
      intro history validator script probe known split
      simp [calls] at split
    | cons expression expressions ih =>
      rintro history validator script ⟨columns, probe⟩ known split
      obtain ⟨lawful, kept⟩ := callOf_lawful probe known script expression
      rw [calls] at split
      cases earlier with
      | nil =>
        obtain ⟨rfl, -⟩ := List.cons.inj split
        simpa using lawful
      | cons first earlier =>
        obtain ⟨rfl, others⟩ := List.cons.inj split
        have rest := ih _ _ _ ⟨columns, kept⟩ lawful.after others
        simpa using rest
  have fresh : (∃ columns, made.probe = .helper columns) ∧ made.target = none := by
    cases create
    exact ⟨⟨_, rfl⟩, rfl⟩
  have lawful := run [] made script fresh.1 (by simp [fresh.2, not_holds_nil]) split
  simpa using lawful

-- A probe is made and lost in the first call, and made again in the second.
theorem calls_lawful_after_loss :
    ∃ made first second,
      Validator.create none none [] = .ok made ∧
      calls made { replies := [.done, .fault (.operational "no such table: temp.probe")] } ["a", "b"] =
        [first, second] ∧
      first.exchanges.length = 2 ∧ first.after = false ∧ second.exchanges.length = 2 ∧
      Lawful first.exchanges second := by
  refine ⟨_, _, _, rfl, rfl, by decide, by decide, by decide, ?_⟩
  have lawful := @calls_lawful [] _
    { replies := [.done, .fault (.operational "no such table: temp.probe")] } ["a", "b"] [_] [] _ rfl rfl
  simpa using lawful

end

end Validator

end TextQuery
