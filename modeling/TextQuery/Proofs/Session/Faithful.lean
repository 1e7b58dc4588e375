import TextQuery.Proofs.Engine.Keeping
import TextQuery.Proofs.Engine.RunKeeping

set_option autoImplicit false

namespace TextQuery

open Engine

def Tokenizer.Faithful (tokenizer : Tokenizer) : Prop :=
  ∀ table, tokenizer.table = some table → table = Tokenizer.helper tokenizer.choice

def Probe.Fits : Probe → Target → Prop
  | .helper columns, target => target = .helper (Validator.helper columns)
  | .table name _, target => ∃ schema, target = .located schema name

theorem Probe.Fits.usual {probe : Probe} {target : Target} (fits : probe.Fits target)
    (expression : String) : (Statement.matchProbe target expression).Usual := by
  cases probe with
  | helper columns =>
    cases fits
    exact ⟨columns, rfl⟩
  | table name schema =>
    obtain ⟨found, rfl⟩ := fits
    trivial

def Validator.Faithful (validator : Validator) : Prop :=
  ∀ target, validator.target = some target → validator.probe.Fits target

structure Compiler.Faithful (compiler : Compiler) : Prop where
  tokenizer : compiler.tokenizer.Faithful
  validator : compiler.validator.Faithful

structure Tokenizer.Continues (tokenizer later : Tokenizer) : Prop where
  choice : later.choice = tokenizer.choice
  faithful : later.Faithful

structure Validator.Continues (validator later : Validator) : Prop where
  probe : later.probe = validator.probe
  faithful : later.Faithful

structure Compiler.Continues (compiler later : Compiler) : Prop where
  tokenizer : compiler.tokenizer.Continues later.tokenizer
  validator : compiler.validator.Continues later.validator

theorem Compiler.Continues.faithful {compiler later : Compiler} (continues : compiler.Continues later) :
    later.Faithful := ⟨continues.tokenizer.faithful, continues.validator.faithful⟩

theorem Compiler.Continues.refl {compiler : Compiler} (faithful : compiler.Faithful) :
    compiler.Continues compiler := ⟨⟨rfl, faithful.tokenizer⟩, ⟨rfl, faithful.validator⟩⟩

theorem Compiler.Continues.trans {first second third : Compiler} (start : first.Continues second)
    (rest : second.Continues third) : first.Continues third :=
  ⟨⟨rest.tokenizer.choice.trans start.tokenizer.choice, rest.tokenizer.faithful⟩,
    rest.validator.probe.trans start.validator.probe, rest.validator.faithful⟩

namespace Run

variable {σ α β : Type} {P : σ → Prop} {Q : α → Prop} {R : β → Prop}

def Leads (P : σ → Prop) (Q : α → Prop) (run : Run σ α) : Prop :=
  ∀ world, P world.engine → P (run world).2.engine ∧ Q (run world).1

theorem leads_pure {value : α} (known : Q value) : Leads P Q (pure value : Run σ α) :=
  fun _ holds => ⟨holds, known⟩

theorem leads_bind {first : Run σ α} {next : α → Run σ β} (lead : Leads P Q first)
    (leadNext : ∀ value, Q value → Leads P R (next value)) : Leads P R (first >>= next) := by
  intro world holds
  obtain ⟨middle, known⟩ := lead world holds
  exact leadNext _ known _ middle

theorem leads_of_keeps {run : Run σ α} (kept : Keeps P run) (known : ∀ value, Q value) :
    Leads P Q run := fun world holds => ⟨kept world holds, known _⟩

end Run

def Attempt.Leads {σ α : Type} (P : σ → Prop) (Q : α → Prop) (attempt : Attempt σ α) : Prop :=
  Run.Leads P (fun result => ∀ value, result = .ok value → Q value) attempt.run

theorem Attempt.leads_bind {σ α β : Type} {P : σ → Prop} {Q : β → Prop} {first : Attempt σ α}
    {next : α → Attempt σ β} (kept : Attempt.Keeps P first)
    (lead : ∀ value, Attempt.Leads P Q (next value)) : Attempt.Leads P Q (first >>= next) := by
  intro world holds
  have middle := kept world holds
  cases result : first.run world with
  | mk answer after =>
    rw [result] at middle
    cases answer with
    | ok value =>
      rw [run_bind_ok next result]
      exact lead value after middle
    | error failure =>
      rw [run_bind_error next result]
      exact ⟨middle, by simp⟩

theorem Attempt.leads_pure {σ α : Type} {P : σ → Prop} {Q : α → Prop} {value : α} (known : Q value) :
    Attempt.Leads P Q (pure value : Attempt σ α) := by
  intro world holds
  refine ⟨holds, ?_⟩
  rintro other same
  cases same
  exact known

theorem Attempt.leads_throw {σ α : Type} {P : σ → Prop} {Q : α → Prop} (failure : Failure) :
    Attempt.Leads P Q (throw failure : Attempt σ α) := by
  intro world holds
  refine ⟨holds, ?_⟩
  rintro other same
  cases same

open Run

section

variable {σ : Type} {P : σ → Prop}

theorem Tokenizer.leads_giveUp {start tokenizer : Tokenizer} (continues : start.Continues tokenizer)
    (fault : Fault) : Leads P (fun result => start.Continues result.2) (tokenizer.giveUp fault : Run σ _) := by
  unfold giveUp
  split
  · exact leads_pure continues
  · exact leads_bind (leads_of_keeps (keeps_record _ _) fun _ => trivial) fun _ _ =>
      leads_pure continues

end

structure Tokenizer.Asks {σ : Type} [Engine σ] (P : σ → Prop) (choice : TokenizerChoice) : Prop where
  created : ∀ engine, P engine → P (Engine.answer (.createTokens (helper choice) choice) engine).2
  selected : ∀ input engine, P engine → P (Engine.answer (.selectTokens (helper choice) input) engine).2

structure Validator.Asks {σ : Type} [Engine σ] (P : σ → Prop) (probe : Probe) : Prop where
  created : ∀ columns, probe = .helper columns → ∀ engine, P engine →
    P (Engine.answer (.createProbe (helper columns) columns) engine).2
  matched : ∀ target expression, probe.Fits target → ∀ engine, P engine →
    P (Engine.answer (.matchProbe target expression) engine).2
  lookedUp : LookedUp P

structure Compiler.Asks {σ : Type} [Engine σ] (P : σ → Prop) (compiler : Compiler) : Prop where
  tokenizer : Tokenizer.Asks P compiler.tokenizer.choice
  validator : Validator.Asks P compiler.validator.probe

section

variable {σ : Type} [Engine σ] {P : σ → Prop}

theorem Watched.asks (watched : Watched P) (choice : TokenizerChoice) : Tokenizer.Asks P choice :=
  ⟨watched _ rfl, fun _ => watched _ trivial⟩

theorem Watched.compilerAsks (watched : Watched P) (compiler : Compiler) : compiler.Asks P :=
  ⟨watched.asks _, fun _ _ => watched _ rfl, fun _ expression fits => watched _ (fits.usual expression),
    watched.lookedUp⟩

theorem Compiler.Asks.later {compiler later : Compiler} (asks : compiler.Asks P)
    (continues : compiler.Continues later) : later.Asks P := by
  refine ⟨?_, ?_⟩
  · rw [continues.tokenizer.choice]
    exact asks.tokenizer
  · rw [continues.validator.probe]
    exact asks.validator

namespace Tokenizer

variable {tokenizer : Tokenizer} (faithful : tokenizer.Faithful) (asks : Asks P tokenizer.choice)
include faithful asks

theorem leads_ensureTable :
    Leads P (fun made => ∀ table ready, made = .ok (table, ready) →
      table = helper tokenizer.choice ∧ tokenizer.Continues ready) (tokenizer.ensureTable : Run σ _) := by
  unfold ensureTable
  split
  · rename_i known same
    apply leads_pure
    rintro table ready made
    cases made
    exact ⟨faithful known same, rfl, faithful⟩
  · refine leads_bind (leads_of_keeps (keeps_ask asks.created) fun _ => trivial) ?_
    intro answer _
    cases answer with
    | ok _ =>
      apply leads_pure
      rintro table ready made
      cases made
      refine ⟨rfl, rfl, ?_⟩
      rintro other same
      cases same
      rfl
    | error fault => exact leads_pure (by simp)

theorem leads_tokenize (text : String) :
    Leads P (fun result => tokenizer.Continues result.2) (tokenizer.tokenize text : Run σ _) := by
  have continues : tokenizer.Continues tokenizer := ⟨rfl, faithful⟩
  unfold tokenize
  split
  · exact leads_pure continues
  · refine leads_bind (leads_ensureTable faithful asks) ?_
    intro made known
    cases made with
    | error fault => exact leads_giveUp continues fault
    | ok ready =>
      obtain ⟨table, ready⟩ := ready
      obtain ⟨rfl, continues⟩ := known table ready rfl
      refine leads_bind (leads_of_keeps (keeps_ask (asks.selected _)) fun _ => trivial) ?_
      intro answer _
      cases answer with
      | error fault => exact leads_giveUp continues fault
      | ok tokens =>
        exact leads_bind (leads_of_keeps (keeps_debug _) fun _ => trivial) fun _ _ =>
          leads_pure continues

end Tokenizer

namespace Validator

variable {validator : Validator} (faithful : validator.Faithful) (asks : Asks P validator.probe)
include faithful asks

theorem leads_findTarget :
    Attempt.Leads P validator.probe.Fits (validator.findTarget : Attempt σ Target) := by
  unfold findTarget
  split
  · rename_i target held
    exact Attempt.leads_pure (faithful target held)
  · rename_i columns lacking probe
    have created := asks.created columns probe
    rw [probe]
    unfold createHelper
    extract_lets table
    refine Attempt.leads_bind (Attempt.keeps_observe created) ?_
    intro answer
    cases answer with
    | ok _ =>
      exact Attempt.leads_bind (Attempt.keeps_debug _) fun _ => Attempt.leads_pure rfl
    | error fault =>
      dsimp only
      split
      · exact Attempt.leads_throw _
      · exact Attempt.leads_throw _
  · rename_i name schema lacking probe
    rw [probe]
    unfold locate
    refine Attempt.leads_bind (Catalog.keeps_resolve asks.lookedUp name schema) ?_
    intro resolved
    refine Attempt.leads_bind (Catalog.keeps_tableSql asks.lookedUp name resolved) ?_
    intro sql
    split
    · exact Attempt.leads_pure ⟨resolved, rfl⟩
    · exact Attempt.leads_throw _

theorem leads_validate (expression : String) :
    Leads P (fun result => validator.Continues result.2) (validator.validate expression : Run σ _) := by
  unfold validate
  refine leads_bind (leads_findTarget faithful asks) ?_
  intro answer known
  cases answer with
  | error failure => exact leads_pure ⟨rfl, faithful⟩
  | ok target =>
    have fits := known target rfl
    have found : validator.Continues { validator with target := some target } := by
      refine ⟨rfl, ?_⟩
      rintro other same
      cases same
      exact fits
    refine leads_bind (leads_of_keeps (keeps_ask (asks.matched target expression fits)) fun _ => trivial) ?_
    intro answer _
    cases answer with
    | ok _ => exact leads_pure found
    | error fault =>
      dsimp only
      split
      · exact leads_pure ⟨rfl, by rintro other same; cases same⟩
      · exact leads_bind (leads_of_keeps (keeps_debug _) fun _ => trivial) fun _ _ => leads_pure found
      · exact leads_pure found

end Validator

namespace Compiler

variable {compiler : Compiler} (faithful : compiler.Faithful) (asks : compiler.Asks P)
include faithful asks

theorem leads_validate (expression : String) :
    Leads P (fun result => compiler.Continues result.2) (compiler.validate expression : Run σ _) := by
  unfold validate
  refine leads_bind (Validator.leads_validate faithful.validator asks.validator expression) ?_
  rintro ⟨answer, validator⟩ known
  exact leads_pure ⟨⟨rfl, faithful.tokenizer⟩, known⟩

theorem leads_compile (expression : String) :
    Leads P (fun result => compiler.Continues result.2) (compiler.compile expression : Run σ _) :=
  leads_bind (leads_of_keeps (keeps_debug _) fun _ => trivial) fun _ _ =>
    leads_validate faithful asks expression

theorem leads_build (mode : Mode) (text : String) :
    Leads P (fun result => compiler.tokenizer.Continues result.2)
      (Candidate.build Tokenizer.tokenize compiler.tokenizer mode text : Run σ _) := by
  unfold Candidate.build
  split
  · exact leads_pure ⟨rfl, faithful.tokenizer⟩
  · refine leads_bind (Tokenizer.leads_tokenize faithful.tokenizer asks.tokenizer _) ?_
    intro result known
    split
    · exact leads_pure known
    · exact leads_bind (leads_of_keeps (keeps_debug _) fun _ => trivial) fun _ _ => leads_pure known
    · exact leads_pure known

theorem leads_compileMode (mode : Mode) (text : String) :
    Leads P (fun result => compiler.Continues result.2) (compiler.compileMode mode text : Run σ _) := by
  unfold compileMode
  refine leads_bind (leads_build faithful asks mode text) ?_
  rintro ⟨candidate, tokenizer⟩ known
  have continues : compiler.Continues ⟨tokenizer, compiler.validator⟩ := ⟨known, rfl, faithful.validator⟩
  dsimp only
  split
  · exact leads_pure continues
  · exact leads_pure continues
  · refine leads_bind (leads_of_keeps (keeps_debug _) fun _ => trivial) ?_
    intro _ _
    refine leads_bind (leads_validate continues.faithful (asks.later continues) _) ?_
    rintro ⟨answer, later⟩ ⟨tokenizer, validator⟩
    exact leads_pure ⟨⟨tokenizer.choice.trans known.choice, tokenizer.faithful⟩, validator⟩

theorem leads_tokenize (text : String) :
    Leads P (fun result => compiler.Continues result.2) (compiler.tokenize text : Run σ _) := by
  unfold tokenize
  refine leads_bind (Tokenizer.leads_tokenize faithful.tokenizer asks.tokenizer _) ?_
  rintro ⟨tokens, tokenizer⟩ known
  exact leads_pure ⟨known, rfl, faithful.validator⟩

end Compiler

theorem Request.leads_run {compiler : Compiler} (faithful : compiler.Faithful) (asks : compiler.Asks P)
    (request : Request) :
    Leads P (fun result => compiler.Continues result.2) (request.run compiler : Run σ _) := by
  have raw {run : Run σ (Except Failure Pattern × Compiler)}
      (lead : Leads P (fun result => compiler.Continues result.2) run) :
      Leads P (fun result => compiler.Continues result.2) (rawAnswer run) :=
    leads_bind lead fun _ known => leads_pure known
  have patterns {run : Run σ (Except Failure (Option Pattern) × Compiler)}
      (lead : Leads P (fun result => compiler.Continues result.2) run) :
      Leads P (fun result => compiler.Continues result.2) (patternAnswer run) :=
    leads_bind lead fun _ known => leads_pure known
  have mode (mode : Mode) (text : String) := patterns (Compiler.leads_compileMode faithful asks mode text)
  cases request with
  | compile expression => exact raw (Compiler.leads_compile faithful asks expression)
  | deserialize text => exact raw (Compiler.leads_compile faithful asks text)
  | compileMode name text =>
    cases found : Mode.ofName? name with
    | some known => simpa only [Request.run, found] using mode known text
    | none =>
      simp only [Request.run, found]
      exact leads_pure (.refl faithful)
  | compileAny text => exact mode .any text
  | compileAll text => exact mode .all text
  | compilePhrase text => exact mode .phrase text
  | tokenize text =>
    refine leads_bind (Compiler.leads_tokenize faithful asks text) ?_
    rintro ⟨tokens, tokenizer⟩ known
    exact leads_pure known
  | descriptor => exact leads_pure (.refl faithful)

end

theorem Compiler.create_faithful {settings : CompilerSettings} {compiler : Compiler}
    (made : Compiler.create settings = .ok compiler) : compiler.Faithful := by
  unfold Compiler.create at made
  obtain ⟨tokenizer, tokens, made⟩ := exists_of_bind_eq_ok made
  obtain ⟨validator, probe, made⟩ := exists_of_bind_eq_ok made
  cases made
  constructor
  · unfold Tokenizer.create at tokens
    split at tokens <;> cases tokens
    rintro table known
    cases known
  · have lacking : validator.target = none := by
      unfold Validator.create at probe
      split at probe
      · cases probe
      · cases probe
        rfl
      · split at probe <;> cases probe
        rfl
    rintro target known
    rw [lacking] at known
    cases known

end TextQuery
