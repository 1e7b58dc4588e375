import TextQuery.Proofs.Engine.Repeating
import TextQuery.Proofs.Session.Undisturbed

set_option autoImplicit false

namespace TextQuery

open Engine Engine.Change Run Text

/-- A compiler that knows a probe on which a pattern is accepted. -/
def Compiler.Takes (compiler : Compiler) (pattern : Pattern) (database : Database) : Prop :=
  ∃ target, compiler.validator.target = some target ∧ database.Accepts target pattern.text

namespace Compiler

theorem gives_true {α : Type} (run : Run Database α) : Gives (fun _ => True) run fun _ _ => True :=
  fun _ _ => trivial

theorem gives_taking (compiler : Compiler) (expression : String) :
    Gives (fun _ => True) (compiler.validate expression) fun result database =>
      ∀ made, result.1 = .ok made → result.2.Takes made database := by
  intro world _ made answered
  have accepted : (compiler.validator.validate expression world).1.1 = .ok made := answered
  cases find : compiler.validator.findTarget.run world with
  | mk found after =>
    cases found with
    | error failure =>
      rw [Validator.validate_lost expression find] at accepted
      cases accepted
    | ok target =>
      obtain ⟨judged, engine⟩ := Validator.validate_found expression find
      rw [judged] at accepted
      cases matched : Engine.answer (.matchProbe target expression) after.engine with
      | mk answer last =>
        rw [matched] at accepted judged engine
        cases answer with
        | ok _ =>
          cases accepted
          refine ⟨target, ?_, ?_⟩
          · exact congrArg (fun result => result.2.target) judged
          · exact engine ▸ Database.Accepts.of_answer matched
        | error fault =>
          unfold Validator.judge at accepted
          cases classified : FaultClass.of fault <;> simp only [classified] at accepted <;> cases accepted

theorem gives_compile_taking (compiler : Compiler) (expression : String) :
    Gives (fun _ => True) (compiler.compile expression) fun result database =>
      ∀ made, result.1 = .ok made → result.2.Takes made database :=
  gives_record_bind (gives_taking compiler expression)

theorem gives_mode_taking (compiler : Compiler) (mode : Mode) (text : String) :
    Gives (fun _ => True) (compiler.compileMode mode text) fun result database =>
      ∀ made, result.1 = .ok (some made) → result.2.Takes made database := by
  refine gives_bind (gives_true _) ?_
  intro built
  obtain ⟨candidate, tokenizer⟩ := built
  cases candidate with
  | error failure => exact gives_pure fun _ _ made answered => by cases answered
  | ok candidate =>
    cases candidate with
    | none => exact gives_pure fun _ _ made answered => by cases answered
    | some candidate =>
      refine gives_record_bind (gives_bind (gives_taking _ candidate) ?_)
      intro validated
      refine gives_pure fun _ takes made answered => ?_
      obtain ⟨answer, later⟩ := validated
      cases answer with
      | error failure => cases answered
      | ok other =>
        cases answered
        exact takes made rfl

end Compiler

theorem Request.gives_taking (compiler : Compiler) (request : Request) :
    Gives (fun _ => True) (request.run compiler) fun result database =>
      ∀ made, result.1 = .ok (.pattern (some made)) → result.2.Takes made database := by
  have raw (expression : String) : Gives (fun _ => True) (rawAnswer (compiler.compile expression))
      fun result database => ∀ made, result.1 = .ok (.pattern (some made)) → result.2.Takes made database := by
    refine gives_bind (Compiler.gives_compile_taking compiler expression) ?_
    intro compiled
    refine gives_pure fun _ takes made answered => ?_
    obtain ⟨answer, later⟩ := compiled
    cases answer with
    | error failure => cases answered
    | ok other =>
      cases answered
      exact takes made rfl
  have mode (mode : Mode) (text : String) :
      Gives (fun _ => True) (patternAnswer (compiler.compileMode mode text))
      fun result database => ∀ made, result.1 = .ok (.pattern (some made)) → result.2.Takes made database := by
    refine gives_bind (Compiler.gives_mode_taking compiler mode text) ?_
    intro compiled
    refine gives_pure fun _ takes made answered => ?_
    obtain ⟨answer, later⟩ := compiled
    cases answer with
    | error failure => cases answered
    | ok other =>
      cases answered
      exact takes made rfl
  cases request with
  | compile expression => exact raw expression
  | deserialize text => exact raw text
  | compileMode name text =>
    cases found : Mode.ofName? name with
    | some known => simpa only [Request.run, found] using mode known text
    | none =>
      simp only [Request.run, found]
      exact gives_pure fun _ _ made answered => by cases answered
  | compileAny text => exact mode .any text
  | compileAll text => exact mode .all text
  | compilePhrase text => exact mode .phrase text
  | tokenize text =>
    refine gives_bind (Compiler.gives_true _) fun compiled => gives_pure fun _ _ made answered => ?_
    obtain ⟨answer, later⟩ := compiled
    cases answer <;> cases answered
  | descriptor => exact gives_pure fun _ _ made answered => by cases answered

namespace Compiler.Takes

variable {compiler : Compiler} {pattern : Pattern} {world : World Database}

theorem validate (takes : compiler.Takes pattern world.engine) :
    ∃ last, compiler.validate pattern.text world = ((.ok pattern, compiler), last) ∧
      world.engine.Retains last.engine ∧ compiler.Takes pattern last.engine := by
  obtain ⟨target, held, accepts⟩ := takes
  obtain ⟨judged, engine⟩ :=
    Validator.validate_found pattern.text (Validator.findTarget_held world held)
  obtain ⟨last, answered, retains, accepts⟩ := accepts.answer_ok
  rw [answered] at judged engine
  have same : { compiler.validator with target := some target } = compiler.validator := by rw [← held]
  refine ⟨(compiler.validator.validate pattern.text world).2, ?_, ?_, target, held, ?_⟩
  · rw [Compiler.validate, Run.bind_eq, judged, Validator.judge, same]
    rfl
  · rw [engine]
    exact retains
  · rw [engine]
    exact accepts

theorem compile (takes : compiler.Takes pattern world.engine) :
    ∃ last, compiler.compile pattern.text world = ((.ok pattern, compiler), last) ∧
      world.engine.Retains last.engine ∧ compiler.Takes pattern last.engine :=
  -- The record that is left first is no concern of the engine.
  @validate compiler pattern { world with journal := _ } takes

theorem compileMode_raw (takes : compiler.Takes pattern world.engine) :
    ∃ last, compiler.compileMode .raw pattern.text world = ((.ok (some pattern), compiler), last) ∧
      world.engine.Retains last.engine ∧ compiler.Takes pattern last.engine := by
  obtain ⟨last, validated, later⟩ := @validate compiler pattern
    { world with
      journal := world.journal ++ [⟨Level.debug,
        "Validating candidate mode=" ++ Mode.raw.name ++ " pattern=" ++ quoted pattern.text⟩] } takes
  refine ⟨last, ?_, later⟩
  simp only [Compiler.compileMode, Candidate.build, Candidate.join?, Run.bind_eq]
  exact congrArg (fun ran : (Except Failure Pattern × Compiler) × World Database =>
    ((ran.1.1.map some, ran.1.2), ran.2)) validated

end Compiler.Takes

/-- The requests that a pattern is read back with: its text, its form as a text, and the mode that takes a
text as it stands. -/
def Pattern.readBack (pattern : Pattern) : List Request :=
  [.compile pattern.serialize, .deserialize pattern.text, .compileMode Mode.raw.name pattern.serialize]

theorem Compiler.Takes.request {compiler : Compiler} {pattern : Pattern} {world : World Database}
    (takes : compiler.Takes pattern world.engine) {request : Request} (reads : request ∈ pattern.readBack) :
    ∃ last, request.run compiler world = ((.ok (.pattern (some pattern)), compiler), last) ∧
      world.engine.Retains last.engine ∧ compiler.Takes pattern last.engine := by
  have raw : ∃ last, Request.rawAnswer (compiler.compile pattern.text) world =
      ((.ok (.pattern (some pattern)), compiler), last) ∧
      world.engine.Retains last.engine ∧ compiler.Takes pattern last.engine := by
    obtain ⟨last, compiled, later⟩ := takes.compile
    refine ⟨last, ?_, later⟩
    rw [Request.rawAnswer, Run.bind_eq, compiled]
    rfl
  simp only [Pattern.readBack, List.mem_cons, List.not_mem_nil, or_false] at reads
  rcases reads with rfl | rfl | rfl
  · exact raw
  · exact raw
  · have named : Mode.ofName? Mode.raw.name = some .raw := by decide
    obtain ⟨last, compiled, later⟩ := takes.compileMode_raw
    refine ⟨last, ?_, later⟩
    simp only [Request.run, named, Request.patternAnswer]
    rw [Run.bind_eq, Pattern.serialize, compiled]
    rfl

namespace Session

variable {session : Session} {id : String} {compiler : Compiler} {others : List (String × Compiler)}
  {pattern : Pattern}

theorem step_readBack (running : session.isClosed = false) (held : session.compilers = (id, compiler) :: others)
    (apart : ∀ entry ∈ others, entry.1 ≠ id) (takes : compiler.Takes pattern session.database)
    {request : Request} (reads : request ∈ pattern.readBack) :
    (session.step (.request id request)).1 = .ok (.pattern (some pattern)) ∧
      ∃ database, (session.step (.request id request)).2.2 = { session with database } ∧
        session.database.Retains database ∧ compiler.Takes pattern database := by
  have found : session.compiler? id = some compiler := by simp [compiler?, held]
  obtain ⟨last, ran, retains, later⟩ := @Compiler.Takes.request compiler pattern
    { engine := session.database } takes request reads
  obtain ⟨answered, stepped⟩ := step_request running found request
  rw [ran] at answered stepped
  refine ⟨answered, last.engine, ?_, retains, later⟩
  have kept : others.filter (fun entry => entry.1 != id) = others := by
    simpa [List.filter_eq_self] using apart
  rw [stepped]
  simp [setCompiler, held, kept]

-- By induction on the requests: each leaves the compiler ready for the next.
theorem after_readBack (running : session.isClosed = false) (held : session.compilers = (id, compiler) :: others)
    (apart : ∀ entry ∈ others, entry.1 ≠ id) (takes : compiler.Takes pattern session.database)
    {again : List Request} (read : ∀ request ∈ again, request ∈ pattern.readBack) :
    ∃ database, session.after (again.map (.request id)) = { session with database } ∧
      session.database.Retains database ∧ compiler.Takes pattern database := by
  induction again generalizing session with
  | nil => exact ⟨session.database, rfl, .refl _, takes⟩
  | cons request again ih =>
    obtain ⟨first, rest⟩ := List.forall_mem_cons.1 read
    obtain ⟨-, middle, stepped, retains, takes⟩ := step_readBack running held apart takes first
    obtain ⟨last, after, since, takes⟩ := @ih { session with database := middle } running held takes rest
    refine ⟨last, ?_, retains.trans since, takes⟩
    simp only [Session.after, List.map_cons, List.foldl_cons] at after ⊢
    rw [stepped]
    exact after

/-- A pattern that a compiler has made is accepted again by that compiler, from its text, from its form as a
text and in the mode that takes texts as they stand. However often this is done, no table and no compiler
changes. -/
theorem pattern_read_back {request : Request}
    (made : (session.step (.request id request)).1 = .ok (.pattern (some pattern))) (again : List Request)
    (read : ∀ request ∈ again, request ∈ pattern.readBack) :
    let after := (session.step (.request id request)).2.2
    let later := after.after (again.map (.request id))
    later.database.schemas = after.database.schemas ∧ later.compilers = after.compilers ∧
      ∀ request ∈ pattern.readBack,
        (later.step (.request id request)).1 = .ok (.pattern (some pattern)) := by
  intro after later
  have running : session.isClosed = false := by
    cases closed : session.isClosed with
    | false => rfl
    | true =>
      simp only [step, closed, Step.isClose, Bool.not_false, Bool.and_self, if_true] at made
      cases made
  obtain ⟨compiler, found⟩ : ∃ compiler, session.compiler? id = some compiler := by
    cases found : session.compiler? id with
    | some compiler => exact ⟨compiler, rfl⟩
    | none =>
      simp only [step, running, Bool.false_and, perform, Session.request, found] at made
      cases made
  obtain ⟨answered, stepped⟩ := step_request running found request
  rw [answered] at made
  have takes := (Request.gives_taking compiler request { engine := session.database } trivial) pattern made
  have held : after.compilers = (id, (request.run compiler { engine := session.database }).1.2) ::
      session.compilers.filter fun entry => entry.1 != id := congrArg Session.compilers stepped
  have apart : ∀ entry ∈ session.compilers.filter fun entry => entry.1 != id, entry.1 ≠ id := by simp
  have runs : after.isClosed = false := (congrArg Session.isClosed stepped).trans running
  have database : after.database = (request.run compiler { engine := session.database }).2.engine :=
    congrArg Session.database stepped
  rw [← database] at takes
  obtain ⟨last, since, retains, takes⟩ := after_readBack runs held apart takes read
  have reached : later = { after with database := last } := since
  rw [reached]
  refine ⟨retains.schemas, rfl, ?_⟩
  intro request reads
  exact (@step_readBack { after with database := last } id _ _ pattern runs held apart takes request reads).1

-- A table that the caller has made, and each way of reading the pattern back once.
theorem pattern_read_back_located :
    let session := fresh.after [.build (.createFullText "main" "f" ["a"] ["detail='column'"] fullTextClause),
      .create "c" { probeTable := some "f" }]
    let made : Pattern := ⟨"one OR two"⟩
    (session.step (.request "c" (.compileAny "one two"))).1 = .ok (.pattern (some made)) ∧
      let after := (session.step (.request "c" (.compileAny "one two"))).2.2
      let later := after.after (made.readBack.map (.request "c"))
      later.database.schemas = after.database.schemas ∧ later.compilers = after.compilers ∧
        ∀ request ∈ made.readBack, (later.step (.request "c" request)).1 = .ok (.pattern (some made)) := by
  intro session made
  have answered : (session.step (.request "c" (.compileAny "one two"))).1 = .ok (.pattern (some made)) := by
    decide +kernel
  exact ⟨answered, pattern_read_back answered made.readBack fun _ reads => reads⟩

end Session

end TextQuery
