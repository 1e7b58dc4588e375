import TextQuery.Compiler
import TextQuery.Proofs.Validator.Calls

set_option autoImplicit false

namespace TextQuery

open Engine

def Engine.Reply.words : Reply → List Cell
  | .values rows => rows
  | _ => []

namespace Tokenizer

structure Call where
  tokenizer : Tokenizer
  script : Script
  text : String

namespace Call

def result (call : Call) : (Except Failure (List Cell) × Tokenizer) × World Script :=
  call.tokenizer.tokenize call.text { engine := call.script }

def answer (call : Call) : Except Failure (List Cell) := call.result.1.1

def exchanges (call : Call) : List Exchange := Validator.exchanges call.script call.result.2.engine

def warnings (call : Call) : List Record := call.result.2.journal.filter fun record => record.level == Level.warning

def mode (call : Call) (validator : Validator) (mode : Mode) (input : String) :
    (Except Failure (Option Pattern) × Compiler) × World Script :=
  Compiler.compileMode ⟨call.tokenizer, validator⟩ mode input { engine := call.script }

end Call

def calls (tokenizer : Tokenizer) (script : Script) : List String → List Call
  | [] => []
  | text :: texts =>
    let call : Call := ⟨tokenizer, script, text⟩
    call :: calls call.result.1.2 call.result.2.engine texts

def failed (tokenizer : Tokenizer) (fault : Fault) : Record :=
  ⟨Level.warning, "Tokenizer failed: tokenizer=" ++ tokenizer.descriptor ++ " error=" ++ fault.message⟩

/-- Whether the helper table is known, as the statements so far tell it: it has been created. -/
def Knows (history : List Exchange) : Prop := ∃ made ∈ history, made.Gains

/-- What a call comes to after a history of statements. A mode that joins words makes nothing of a call that
found none, and asks nothing more. -/
structure Lawful (choice : TokenizerChoice) (history : List Exchange) (call : Call) : Prop where
  same : call.tokenizer.choice = choice
  empty : call.text = "" → call.exchanges = [] ∧ call.answer = .ok [] ∧ call.warnings = []
  creates : call.text ≠ "" →
    ((∃ reply rest, call.exchanges = ⟨.creation, reply⟩ :: rest) ↔ ¬Knows history)
  selects : call.text ≠ "" →
    ((∃ front reply, call.exchanges = front ++ [⟨.query, reply⟩]) ↔ Knows (history ++ call.exchanges))
  bounded : (call.exchanges.map Exchange.purpose).Sublist [.creation, .query]
  escapes : ∀ failure, call.answer = .error failure →
    ∃ purpose fault, ⟨purpose, .fault fault⟩ ∈ call.exchanges ∧ fault.kind = .warning
  succeeded : call.text ≠ "" → (∀ exchange ∈ call.exchanges, exchange.Succeeds) →
    ∃ reply, ⟨.query, reply⟩ ∈ call.exchanges ∧ call.answer = .ok reply.words ∧ call.warnings = []
  failed : ∀ purpose fault, ⟨purpose, .fault fault⟩ ∈ call.exchanges → fault.kind ≠ .warning →
    call.answer = .ok [] ∧ call.warnings = [failed call.tokenizer fault]
  passed : ∀ purpose fault, ⟨purpose, .fault fault⟩ ∈ call.exchanges → fault.kind = .warning →
    call.answer = .error (.engine fault) ∧ call.warnings = []
  silent : ∀ purpose fault, ⟨purpose, .fault fault⟩ ∈ call.exchanges → fault.kind ≠ .warning →
    ∀ validator mode join input, Candidate.join? mode = some join → Text.normalize input = call.text →
      (call.mode validator mode input).1.1 = .ok none ∧
      (call.mode validator mode input).1.2.validator = validator ∧
      Validator.exchanges call.script (call.mode validator mode input).2.engine = call.exchanges

theorem knows_append (history later : List Exchange) :
    Knows (history ++ later) ↔ Knows history ∨ Knows later := by
  unfold Knows
  constructor
  · rintro ⟨made, member, gains⟩
    obtain old | new := List.mem_append.1 member
    · exact .inl ⟨made, old, gains⟩
    · exact .inr ⟨made, new, gains⟩
  · rintro (⟨made, member, gains⟩ | ⟨made, member, gains⟩)
    · exact ⟨made, List.mem_append_left _ member, gains⟩
    · exact ⟨made, List.mem_append_right _ member, gains⟩

@[simp] theorem knows_nil : ¬Knows [] := by simp [Knows]

@[simp] theorem knows_query (reply : Reply) : ¬Knows [⟨.query, reply⟩] := by simp [Knows, Exchange.Gains]

theorem knows_creation (reply : Reply) (rest : List Exchange) (quiet : ¬Knows rest) :
    Knows (⟨.creation, reply⟩ :: rest) ↔ ∀ fault, reply ≠ .fault fault := by
  have split : (⟨.creation, reply⟩ :: rest : List Exchange) = [⟨.creation, reply⟩] ++ rest := rfl
  rw [split, knows_append, or_iff_left quiet]
  simp [Knows, Exchange.Gains, Exchange.Succeeds]

def concluded (tokenizer : Tokenizer) : Reply → Except Failure (List Cell) × List Record
  | .fault fault =>
    if fault.kind = .warning then (.error (.engine fault), []) else (.ok [], [failed tokenizer fault])
  | reply => (.ok reply.words, [])

theorem giveUp_eq (tokenizer : Tokenizer) (fault : Fault) (script : Script) :
    let gave := tokenizer.giveUp fault { engine := script }
    (gave.1.1, gave.2.journal.filter fun record => record.level == Level.warning) =
        tokenizer.concluded (.fault fault) ∧
      gave.1.2 = tokenizer ∧ gave.2.engine = script := by
  by_cases warning : fault.kind = .warning
  · simp only [giveUp, concluded, warning, beq_self_eq_true, if_true]
    exact ⟨rfl, rfl, rfl⟩
  · have error : (fault.kind == .warning) = false := by simpa using warning
    simp only [giveUp, concluded, warning, error, if_false]
    exact ⟨rfl, rfl, rfl⟩

def told (tokenizer : Tokenizer) (text : String) :
    Except Fault (List Cell) → Run Script (Except Failure (List Cell) × Tokenizer)
  | .error fault => tokenizer.giveUp fault
  | .ok tokens => do
    Run.debug ("Tokenized " ++ Text.quoted text ++ " into " ++ toString tokens.length ++ " tokens")
    return (.ok tokens, tokenizer)

variable {tokenizer ready : Tokenizer} {script after : Script} {text table : String} {choice : TokenizerChoice}
  {history : List Exchange}

theorem result_empty (tokenizer : Tokenizer) (script : Script) :
    Call.result ⟨tokenizer, script, ""⟩ = ((.ok [], tokenizer), { engine := script }) := rfl

-- Once the helper table is there, its answer concludes the call.
theorem result_ensured (filled : text ≠ "")
    (ensured : tokenizer.ensureTable { engine := script } = (.ok (table, ready), { engine := after })) :
    let call : Call := ⟨tokenizer, script, text⟩
    (call.answer, call.warnings) = ready.concluded after.next ∧ call.result.1.2 = ready ∧
      call.result.2.engine = after.step .query := by
  intro call
  have notEmpty : ¬text.isEmpty = true := by simpa using filled
  have ran : call.result =
      ((Run.ask (.selectTokens table text) : Run Script (Except Fault (List Cell))) >>= ready.told text)
        { engine := after } := by
    unfold Call.result tokenize
    rw [if_neg notEmpty, Run.bind_eq, ensured]
    rfl
  rw [Run.bind_eq, Run.ask_eq, Script.answer_eq] at ran
  unfold Call.answer Call.warnings
  cases replied : after.next with
  | fault fault =>
    rw [replied] at ran
    rw [ran]
    exact giveUp_eq ready fault (after.step .query)
  | done =>
    rw [replied] at ran
    rw [ran]
    exact ⟨rfl, rfl, rfl⟩
  | values rows =>
    rw [replied] at ran
    rw [ran]
    exact ⟨rfl, rfl, rfl⟩

-- Without its helper table a tokenizer has it created first.
theorem ensureTable_unknown (unknown : tokenizer.table = none) (script : Script) :
    tokenizer.ensureTable { engine := script } =
      (match script.next with
        | .fault fault => .error fault
        | _ => .ok (helper tokenizer.choice, { tokenizer with table := some (helper tokenizer.choice) }),
        { engine := script.step .creation }) := by
  unfold ensureTable
  rw [unknown]
  dsimp only
  rw [Run.bind_eq, Run.ask_eq, Script.answer_eq]
  cases script.next <;> rfl

theorem result_not_ensured {fault : Fault} (filled : text ≠ "")
    (failed : tokenizer.ensureTable { engine := script } = (.error fault, { engine := after })) :
    let call : Call := ⟨tokenizer, script, text⟩
    (call.answer, call.warnings) = tokenizer.concluded (.fault fault) ∧ call.result.1.2 = tokenizer ∧
      call.result.2.engine = after := by
  intro call
  have notEmpty : ¬text.isEmpty = true := by simpa using filled
  have ran : call.result = tokenizer.giveUp fault { engine := after } := by
    unfold Call.result tokenize
    rw [if_neg notEmpty, Run.bind_eq, failed]
  unfold Call.answer Call.warnings
  rw [ran]
  exact giveUp_eq tokenizer fault after

-- A mode that joins words asks for nothing more if there are none.
theorem mode_silent {call : Call} (nothing : call.answer = .ok []) (validator : Validator) {mode : Mode}
    {join : List String → String} (joins : Candidate.join? mode = some join) {input : String}
    (same : Text.normalize input = call.text) :
    (call.mode validator mode input).1.1 = .ok none ∧
      (call.mode validator mode input).1.2.validator = validator ∧
      (call.mode validator mode input).2.engine = call.result.2.engine := by
  unfold Call.mode Compiler.compileMode Candidate.build
  simp only [joins, bind, StateT.bind, same]
  unfold Call.answer Call.result at nothing
  unfold Call.result
  generalize call.tokenizer.tokenize call.text { engine := call.script } = called at nothing ⊢
  obtain ⟨⟨answer, tokenizer⟩, after⟩ := called
  cases nothing
  exact ⟨rfl, rfl, rfl⟩

structure Ends (history : List Exchange) (call : Call) (before : List Exchange) (purpose : Purpose)
    (reply : Reply) : Prop where
  exchanges : call.exchanges = before ++ [⟨purpose, reply⟩]
  concludes : (call.answer, call.warnings) = call.tokenizer.concluded reply
  quiet : ∀ exchange ∈ before, exchange.Gains

theorem Ends.fault {call : Call} {before : List Exchange} {purpose : Purpose} {reply : Reply}
    (ends : Ends history call before purpose reply) {asked : Purpose} {fault : Fault}
    (member : ⟨asked, .fault fault⟩ ∈ call.exchanges) : reply = .fault fault := by
  rw [ends.exchanges] at member
  obtain old | new := List.mem_append.1 member
  · exact absurd rfl ((ends.quiet _ old).2 fault)
  · simp only [List.mem_singleton, Exchange.mk.injEq] at new
    exact new.2.symm

theorem concluded_of_not_fault {reply : Reply} (success : ∀ fault, reply ≠ .fault fault) :
    tokenizer.concluded reply = (.ok reply.words, []) := by
  cases reply with
  | fault fault => exact absurd rfl (success fault)
  | done | values => rfl

theorem lawful_of_ends {call : Call} {before : List Exchange} {purpose : Purpose} {reply : Reply}
    (same : call.tokenizer.choice = choice) (filled : call.text ≠ "")
    (ends : Ends history call before purpose reply)
    (first : (Knows history ∧ before = [] ∧ purpose = .query) ∨
      (¬Knows history ∧ ((∃ made, before = [⟨.creation, made⟩] ∧ purpose = .query) ∨
        (before = [] ∧ purpose = .creation ∧ ∃ fault, reply = .fault fault)))) :
    Lawful choice history call := by
  have concludes := ends.concludes
  have noWords {fault : Fault} (is : reply = .fault fault) (error : fault.kind ≠ .warning) :
      call.answer = .ok [] ∧ call.warnings = [Tokenizer.failed call.tokenizer fault] := by
    rw [is, concluded, if_neg error, Prod.mk.injEq] at concludes
    exact concludes
  refine { same, empty := fun empty => absurd empty filled, creates := fun _ => ?_, selects := fun _ => ?_,
           bounded := ?_, escapes := ?_, succeeded := fun _ all => ?_, failed := ?_, passed := ?_, silent := ?_ }
  · rw [ends.exchanges]
    obtain ⟨knows, rfl, rfl⟩ | ⟨lacks, ⟨made, rfl, rfl⟩ | ⟨rfl, rfl, -⟩⟩ := first <;> simp_all
  · rw [ends.exchanges]
    obtain ⟨knows, rfl, rfl⟩ | ⟨lacks, ⟨made, rfl, rfl⟩ | ⟨rfl, rfl, fault, rfl⟩⟩ := first
    · exact iff_of_true ⟨[], reply, rfl⟩ ((knows_append ..).2 (.inl knows))
    · have gains := ends.quiet ⟨.creation, made⟩ (by simp)
      exact iff_of_true ⟨_, reply, rfl⟩ ((knows_append ..).2 (.inr ⟨_, by simp, gains⟩))
    · refine iff_of_false ?_ ?_
      · rintro ⟨front, other, split⟩
        have last := (List.append_inj' split rfl).2
        simp at last
      · simp [knows_append, lacks, knows_creation]
  · rw [ends.exchanges]
    obtain ⟨-, rfl, rfl⟩ | ⟨-, ⟨made, rfl, rfl⟩ | ⟨rfl, rfl, -⟩⟩ := first <;> simp
  · intro failure escaped
    by_cases success : ∀ fault, reply ≠ .fault fault
    · rw [concluded_of_not_fault success, Prod.mk.injEq, escaped] at concludes
      cases concludes.1
    · obtain ⟨fault, is⟩ : ∃ fault, reply = .fault fault := by simpa using success
      by_cases warning : fault.kind = .warning
      · exact ⟨purpose, fault, by simp [ends.exchanges, is], warning⟩
      · rw [(noWords is warning).1] at escaped
        cases escaped
  · rw [ends.exchanges] at all ⊢
    have success : ∀ fault, reply ≠ .fault fault := all ⟨purpose, reply⟩ (by simp)
    rw [concluded_of_not_fault success, Prod.mk.injEq] at concludes
    have query : purpose = .query := by
      obtain ⟨-, -, is⟩ | ⟨-, ⟨_, -, is⟩ | ⟨-, -, fault, is⟩⟩ := first
      · exact is
      · exact is
      · exact absurd is (success fault)
    exact ⟨reply, by simp [query], concludes⟩
  · intro asked fault member error
    exact noWords (ends.fault member) error
  · intro asked fault member warning
    rw [ends.fault member, concluded, if_pos warning, Prod.mk.injEq] at concludes
    exact concludes
  · intro asked fault member error validator mode join input joins normal
    obtain ⟨none, kept, engine⟩ := mode_silent (noWords (ends.fault member) error).1 validator joins normal
    exact ⟨none, kept, by rw [engine]; rfl⟩

theorem call_lawful (known : tokenizer.table.isSome = true ↔ Knows history) (same : tokenizer.choice = choice)
    (script : Script) (text : String) :
    let call : Call := ⟨tokenizer, script, text⟩
    Lawful choice history call ∧ call.result.1.2.choice = choice ∧
      (call.result.1.2.table.isSome = true ↔ Knows (history ++ call.exchanges)) := by
  intro call
  by_cases empty : text = ""
  · subst empty
    have asked : call.exchanges = [] := by
      simp [Call.exchanges, call, result_empty, Validator.exchanges]
    refine ⟨?_, same, by rw [asked, List.append_nil]; exact known⟩
    refine { same, empty := fun _ => ⟨asked, rfl, rfl⟩, creates := fun filled => absurd rfl filled,
             selects := fun filled => absurd rfl filled, bounded := by simp [asked],
             escapes := ?_,
             succeeded := fun filled => absurd rfl filled, failed := ?_, passed := ?_, silent := ?_ }
    · intro failure escaped
      cases escaped
    all_goals simp [asked]
  cases table : tokenizer.table with
  | some name =>
    have knows : Knows history := known.1 (by simp [table])
    have ensured : tokenizer.ensureTable { engine := script } = (.ok (name, tokenizer), { engine := script }) := by
      unfold ensureTable
      rw [table]
      rfl
    obtain ⟨concludes, kept, engine⟩ := result_ensured empty ensured
    have asked : call.exchanges = [⟨.query, script.next⟩] := by
      rw [Call.exchanges, engine, Validator.exchanges_one]
    have ends : Ends history call [] .query script.next := ⟨asked, concludes, by simp⟩
    refine ⟨lawful_of_ends same empty ends (.inl ⟨knows, rfl, rfl⟩), ?_, ?_⟩
    · rw [kept, same]
    · rw [kept, asked]
      simp [table, knows_append, knows]
  | none =>
    have lacks : ¬Knows history := fun knows => by simpa [table] using known.2 knows
    have ensured := ensureTable_unknown table script
    by_cases success : ∀ fault, script.next ≠ .fault fault
    · have created : tokenizer.ensureTable { engine := script } =
          (.ok (helper tokenizer.choice, { tokenizer with table := some (helper tokenizer.choice) }),
            { engine := script.step .creation }) := by
        rw [ensured]
        cases reply : script.next with
        | fault fault => exact absurd reply (success fault)
        | done | values => rfl
      obtain ⟨concludes, kept, engine⟩ := result_ensured empty created
      have asked : call.exchanges =
          [⟨.creation, script.next⟩] ++ [⟨.query, (script.step .creation).next⟩] := by
        rw [Call.exchanges, engine, Validator.exchanges_two]
        rfl
      have gains : Exchange.Gains ⟨.creation, script.next⟩ := ⟨rfl, success⟩
      have ends : Ends history call [⟨.creation, script.next⟩] .query (script.step .creation).next :=
        ⟨asked, concludes, by simpa using gains⟩
      refine ⟨lawful_of_ends same empty ends (.inr ⟨lacks, .inl ⟨_, rfl, rfl⟩⟩), ?_, ?_⟩
      · rw [kept]
        exact same
      · rw [kept, asked]
        exact iff_of_true rfl ((knows_append ..).2 (.inr ⟨_, by simp, gains⟩))
    · obtain ⟨fault, reply⟩ : ∃ fault, script.next = .fault fault := by simpa using success
      rw [reply] at ensured
      obtain ⟨concludes, kept, engine⟩ := result_not_ensured empty ensured
      have asked : call.exchanges = [⟨.creation, .fault fault⟩] := by
        rw [Call.exchanges, engine, Validator.exchanges_one, reply]
      have ends : Ends history call [] .creation (.fault fault) := ⟨asked, concludes, by simp⟩
      refine ⟨lawful_of_ends same empty ends (.inr ⟨lacks, .inr ⟨rfl, rfl, fault, rfl⟩⟩), ?_, ?_⟩
      · rw [kept, same]
      · rw [kept, asked]
        simp [table, knows_append, lacks, knows_creation]

/-- Every call is lawful after the statements of the calls before it. -/
theorem calls_settled {name : String} {arguments : List String} {made : Tokenizer} {script : Script}
    {texts : List String} {earlier later : List Call} {call : Call}
    (create : Tokenizer.create name arguments = .ok made)
    (split : calls made script texts = earlier ++ call :: later) :
    Lawful ⟨name, arguments⟩ (earlier.flatMap Call.exchanges) call := by
  have run : ∀ (history : List Exchange) (tokenizer : Tokenizer) (script : Script),
      tokenizer.choice = ⟨name, arguments⟩ → (tokenizer.table.isSome = true ↔ Knows history) →
      calls tokenizer script texts = earlier ++ call :: later →
      Lawful ⟨name, arguments⟩ (history ++ earlier.flatMap Call.exchanges) call := by
    clear create split
    induction texts generalizing earlier with
    | nil =>
      intro history tokenizer script same known split
      simp [calls] at split
    | cons text texts ih =>
      intro history tokenizer script same known split
      obtain ⟨lawful, still, after⟩ := call_lawful known same script text
      rw [calls] at split
      cases earlier with
      | nil =>
        obtain ⟨rfl, -⟩ := List.cons.inj split
        simpa using lawful
      | cons first earlier =>
        obtain ⟨rfl, others⟩ := List.cons.inj split
        have rest := ih _ _ _ still after others
        simpa using rest
  have fresh : made.choice = ⟨name, arguments⟩ ∧ made.table = none := by
    unfold Tokenizer.create at create
    split at create
    · cases create
      exact ⟨rfl, rfl⟩
    · cases create
  have lawful := run [] made script fresh.1 (by simp [fresh.2]) split
  simpa using lawful

-- A mere warning of the engine is no error, so it is not taken for a failure of the tokenizer.
theorem warning_escapes :
    let call : Call := ⟨{ choice := ⟨"simple", []⟩ }, { replies := [.fault ⟨.warning, "w", none⟩] }, "a"⟩
    call.answer = .error (.engine ⟨.warning, "w", none⟩) ∧ call.warnings = [] ∧
      ¬∃ tokens, call.answer = .ok tokens := by
  intro call
  have answer : call.answer = .error (.engine ⟨.warning, "w", none⟩) := by rfl
  exact ⟨answer, by rfl, by simp [answer]⟩

-- The table cannot be created in the first call, and is created in the second.
theorem calls_settled_after_failure :
    ∃ made first second,
      Tokenizer.create "simple" [] = .ok made ∧
      calls made { replies := [.fault (.operational "boom"), .done, .values [.text "b", .text "b"]] }
        ["a", "b b"] = [first, second] ∧
      first.answer = .ok [] ∧ first.warnings = [failed made (.operational "boom")] ∧
      second.answer = .ok [.text "b", .text "b"] ∧ second.warnings = [] ∧
      Lawful ⟨"simple", []⟩ first.exchanges second := by
  have created : Tokenizer.create "simple" [] = .ok { choice := ⟨"simple", []⟩ } := if_pos (by decide)
  refine ⟨{ choice := ⟨"simple", []⟩ }, _, _, created, rfl, by rfl, by rfl, by rfl, by rfl, ?_⟩
  have lawful := @calls_settled "simple" [] { choice := ⟨"simple", []⟩ }
    { replies := [.fault (.operational "boom"), .done, .values [.text "b", .text "b"]] } ["a", "b b"] [_] [] _
    created rfl
  simpa using lawful

end Tokenizer

end TextQuery
