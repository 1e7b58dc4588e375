import TextQuery.Proofs.Catalog.Looking
import TextQuery.Proofs.Session.Undisturbed

set_option autoImplicit false

namespace TextQuery

open Engine Engine.Change Text

namespace Tokenizer

section

variable {σ : Type} {tokenizer : Tokenizer} {world : World σ}

-- What a call comes to once the engine has answered.
def settle : Except Fault (List Cell) → Except Failure (List Cell)
  | .ok tokens => .ok tokens
  | .error fault => if fault.kind = .warning then .error (.engine fault) else .ok []

theorem giveUp_result (tokenizer : Tokenizer) (fault : Fault) (world : World σ) :
    (tokenizer.giveUp fault world).1 = (settle (.error fault), tokenizer) ∧
      (tokenizer.giveUp fault world).2.engine = world.engine := by
  unfold giveUp settle
  by_cases warning : fault.kind = .warning
  · simp only [warning, beq_self_eq_true, if_true]
    exact ⟨rfl, rfl⟩
  · have error : (fault.kind == .warning) = false := by simpa using warning
    simp only [error, warning, if_false]
    exact ⟨rfl, rfl⟩

variable [Engine σ]

theorem tokenize_empty {text : String} (empty : text.isEmpty = true) :
    tokenizer.tokenize text world = ((.ok [], tokenizer), world) := by
  unfold tokenize
  rw [if_pos empty]
  rfl

-- Once the helper table is there, its answer settles the call.
theorem tokenize_ensured {ready : Tokenizer} {table text : String} {after : World σ}
    (filled : text.isEmpty = false) (ensured : tokenizer.ensureTable world = (.ok (table, ready), after)) :
    let selected := Engine.answer (.selectTokens table text) after.engine
    (tokenizer.tokenize text world).1 = (settle selected.1, ready) ∧
      (tokenizer.tokenize text world).2.engine = selected.2 := by
  unfold tokenize
  rw [filled, if_neg (by simp), Run.bind_eq, ensured]
  simp only [Run.bind_eq, Run.ask_eq]
  cases (Engine.answer (.selectTokens table text) after.engine).1 with
  | ok tokens => exact ⟨rfl, rfl⟩
  | error fault => exact giveUp_result ready fault _

-- A table that is known is asked right away, and stays known.
theorem tokenize_known {table text : String} (known : tokenizer.table = some table)
    (filled : text.isEmpty = false) :
    let selected := Engine.answer (.selectTokens table text) world.engine
    (tokenizer.tokenize text world).1 = (settle selected.1, tokenizer) ∧
      (tokenizer.tokenize text world).2.engine = selected.2 := by
  have ensured : tokenizer.ensureTable world = (.ok (table, tokenizer), world) := by
    unfold ensureTable
    rw [known]
    rfl
  exact tokenize_ensured filled ensured

theorem tokenize_new {text : String} (unknown : tokenizer.table = none) (filled : text.isEmpty = false) :
    let created := Engine.answer (.createTokens (helper tokenizer.choice) tokenizer.choice) world.engine
    (tokenizer.tokenize text world).1 =
      match created.1 with
      | .error fault => (settle (.error fault), tokenizer)
      | .ok _ =>
        (settle (Engine.answer (.selectTokens (helper tokenizer.choice) text) created.2).1,
          { tokenizer with table := some (helper tokenizer.choice) }) := by
  intro created
  have ensured : tokenizer.ensureTable world =
      (match created.1 with
        | .error fault => .error fault
        | .ok _ => .ok (helper tokenizer.choice,
            { tokenizer with table := some (helper tokenizer.choice) }),
        { world with engine := created.2 }) := by
    unfold ensureTable
    rw [unknown]
    simp only [Run.bind_eq, Run.ask_eq, created]
    cases (Engine.answer (.createTokens (helper tokenizer.choice) tokenizer.choice) world.engine).1 <;> rfl
  cases answered : created.1 with
  | ok _ =>
    rw [answered] at ensured
    exact (tokenize_ensured filled ensured).1
  | error fault =>
    unfold tokenize
    rw [filled, if_neg (by simp), Run.bind_eq, ensured, answered]
    exact (giveUp_result tokenizer fault _).1

theorem tokenize_keeps (known : tokenizer.table.isSome = true) (text : String) (world : World σ) :
    (tokenizer.tokenize text world).1.2 = tokenizer := by
  obtain ⟨table, known⟩ := Option.isSome_iff_exists.1 known
  cases filled : text.isEmpty with
  | true => rw [tokenize_empty filled]
  | false => rw [(tokenize_known known filled).1]

end

/-- The table that is known is the helper table, whose description the engine has read. -/
structure Creatable (choice : TokenizerChoice) : Prop where
  writable : '\x00' ∉ (Statement.createTokens (helper choice) choice).text.toList
  named : ∃ name, TokenTable.readName choice.name = .ok name

variable {choice : TokenizerChoice} {database : Database}

theorem creatable_of_created {after : Database}
    (created : Engine.answer (.createTokens (helper choice) choice) database = (.ok (), after)) :
    Creatable choice := by
  have written : '\x00' ∉ (Statement.createTokens (helper choice) choice).text.toList := by
    intro nul
    rw [answer_nul nul] at created
    cases created
  refine ⟨written, ?_⟩
  obtain ⟨ready, -, responds⟩ := answer_responds created
  have result : (createTokens (helper choice) choice ready).1 = .ok () := congrArg Prod.fst responds
  rw [createTokens_result] at result
  cases read : TokenTable.readName choice.name with
  | ok name => exact ⟨name, rfl⟩
  | error fault =>
    have unmade : splitterOf (helper choice) choice = .error fault := by
      rw [splitterOf, read]
      rfl
    rw [unmade, read] at result
    split at result <;> cases result

theorem selectTokens_follows {after : Database} (follows : database.Follows after) (table text : String) :
    after.selectTokens table text = database.selectTokens table text := by
  unfold Database.selectTokens
  simp only [follows.locate, follows.temp, follows.relationOf, follows.touch]

theorem selectTokens_missing (regular : database.Regular)
    (missing : database.temp.find? (helper choice) = none) (text : String) :
    database.selectTokens (helper choice) text =
      .error (.noSuchTable database.temp.name (helper choice)) := by
  unfold Database.selectTokens Database.locate Database.schemaOr
  simp only [regular.schema?_temp, bind, Except.bind, missing]
  rfl

theorem writable_helper (choice : TokenizerChoice) : Writable (helper choice) :=
  writable_helperName (by unfold Writable; decide) _

theorem answer_select (regular : database.Regular) (choice : TokenizerChoice) (text : String) :
    ∃ after, Engine.answer (.selectTokens (helper choice) text) database =
        (database.reading >>= fun _ => database.selectTokens (helper choice) text, after) ∧
      database.Follows after := by
  have writable : Writable (Statement.selectTokens (helper choice) text).text := by
    have words : Writable "SELECT token FROM temp." ∧ Writable " WHERE input = ? ORDER BY position" := by
      unfold Writable
      decide
    exact writable_append (writable_append words.1 (writable_identifier (writable_helper choice))) words.2
  have begins : "SELECT token FROM temp.".toList <+: (Statement.selectTokens (helper choice) text).text.toList :=
    prefix_append (prefix_append List.prefix_rfl _) _
  exact answer_quiet rfl (fun after follows => Prod.ext (selectTokens_follows follows _ _) rfl)
    (fun _ _ => rfl) (by simp [Database.pragmaSchema?]) writable (.inr (regular.unknown begins (by decide)))

-- A helper table that is there is not made again.
theorem answer_create_there (regular : database.Regular) (creatable : Creatable choice)
    (there : database.temp.find? (helper choice) ≠ none) :
    ∃ after, Engine.answer (.createTokens (helper choice) choice) database = (database.reading, after) ∧
      database.Follows after := by
  obtain ⟨name, named⟩ := creatable.named
  have begins : "CREATE VIRTUAL TABLE IF NOT EXISTS temp.".toList <+:
      (Statement.createTokens (helper choice) choice).text.toList :=
    prefix_append (prefix_append (prefix_append (prefix_append List.prefix_rfl _) _) _) _
  have responds (after : Database) (follows : database.Follows after) :
      respond (.createTokens (helper choice) choice) after = (.ok (), after) := by
    change createTokens (helper choice) choice after = _
    rw [createTokens_eq, named, follows.temp]
    exact if_neg (by simpa using there)
  obtain ⟨after, answered, follows⟩ := answer_quiet rfl responds (fun _ _ => rfl)
    (by simp [Database.pragmaSchema?]) creatable.writable (.inr (regular.unknown begins (by decide)))
  refine ⟨after, answered.trans ?_, follows⟩
  cases database.reading <;> rfl

theorem settle_reading {fault : Fault} (failed : database.reading = .error fault) :
    settle (.error fault) = .ok [] := by
  unfold Database.reading at failed
  split at failed
  · cases failed
    rfl
  · split at failed <;> cases failed
    rfl
  · cases failed

def Sound (tokenizer : Tokenizer) : Prop :=
  ∀ table, tokenizer.table = some table → table = helper tokenizer.choice ∧ Creatable tokenizer.choice

/-- The helper table is known, but there is none of its name. -/
def Lost (tokenizer : Tokenizer) (database : Database) : Prop :=
  tokenizer.table.isSome = true ∧ database.temp.find? (helper tokenizer.choice) = none

variable {tokenizer : Tokenizer} {world : World Database}

theorem sound_tokenize (sound : tokenizer.Sound) (text : String) (world : World Database) :
    (tokenizer.tokenize text world).1.2.Sound := by
  cases known : tokenizer.table with
  | some table =>
    rw [tokenize_keeps (by rw [known]; rfl)]
    exact sound
  | none =>
    cases filled : text.isEmpty with
    | true => rwa [tokenize_empty filled]
    | false =>
      rw [tokenize_new known filled]
      cases created : Engine.answer (.createTokens (helper tokenizer.choice) tokenizer.choice)
          world.engine with
      | mk answer after =>
        cases answer with
        | error fault => exact sound
        | ok _ =>
          intro table same
          cases same
          exact ⟨rfl, creatable_of_created created⟩

theorem tokenize_lost (regular : world.engine.Regular) (sound : tokenizer.Sound)
    (lost : tokenizer.Lost world.engine) (text : String) :
    (tokenizer.tokenize text world).1 = (.ok [], tokenizer) ∧
      world.engine.Follows (tokenizer.tokenize text world).2.engine := by
  obtain ⟨isKnown, missing⟩ := lost
  obtain ⟨table, known⟩ := Option.isSome_iff_exists.1 isKnown
  obtain ⟨rfl, -⟩ := sound table known
  cases filled : text.isEmpty with
  | true =>
    rw [tokenize_empty filled]
    exact ⟨rfl, .refl _⟩
  | false =>
    obtain ⟨after, answered, follows⟩ := answer_select regular tokenizer.choice text
    rw [selectTokens_missing regular missing] at answered
    obtain ⟨result, engine⟩ := @tokenize_known _ tokenizer world _ _ _ known filled
    rw [answered] at result engine
    refine ⟨result.trans ?_, by rwa [engine]⟩
    cases read : world.engine.reading with
    | ok _ => rfl
    | error fault => exact congrArg (·, tokenizer) (settle_reading read)

theorem tokenize_afresh (regular : world.engine.Regular) (sound : tokenizer.Sound)
    (kept : ¬tokenizer.Lost world.engine) (text : String) :
    (tokenizer.tokenize text world).1.1 =
      (Tokenizer.tokenize { choice := tokenizer.choice } text world).1.1 := by
  cases known : tokenizer.table with
  | none =>
    have new : tokenizer = { choice := tokenizer.choice } := by
      cases tokenizer
      cases known
      rfl
    rw [new]
  | some table =>
    obtain ⟨rfl, creatable⟩ := sound table known
    have there : world.engine.temp.find? (helper tokenizer.choice) ≠ none :=
      fun missing => kept ⟨by rw [known]; rfl, missing⟩
    cases filled : text.isEmpty with
    | true => rw [tokenize_empty filled, tokenize_empty filled]
    | false =>
      obtain ⟨after, created, follows⟩ := answer_create_there regular creatable there
      have regularAfter : after.Regular := by
        have usual : (Statement.createTokens (helper tokenizer.choice) tokenizer.choice).Usual := rfl
        have kept := Database.Regular.outlasting.watched _ usual _ regular
        rwa [created] at kept
      obtain ⟨_, here, -⟩ := answer_select regular tokenizer.choice text
      obtain ⟨_, later, -⟩ := answer_select regularAfter tokenizer.choice text
      rw [(tokenize_known known filled).1, tokenize_new rfl filled]
      simp only [created, here]
      cases read : world.engine.reading with
      | error fault => rfl
      | ok _ =>
        have readAfter : after.reading = .ok () :=
          Database.reading_of_readable ((Database.readable_of_reading read).follows follows)
        simp only [later, readAfter, selectTokens_follows follows]

end Tokenizer

section

open Run

variable {σ : Type}

-- Whatever it comes to, the run leaves something with a property behind.
abbrev Leaves {α β : Type} (Q : β → Prop) (run : Run σ (α × β)) : Prop :=
  Leads (fun _ => True) (fun result => Q result.2) run

theorem leaves_any {α β : Type} {Q : β → Prop} {run : Run σ (α × β)} (known : ∀ world, Q (run world).1.2) :
    Leaves Q run := fun world _ => ⟨trivial, known world⟩

theorem leaves_debug_bind {α β : Type} {Q : β → Prop} {message : String} {next : Run σ (α × β)}
    (leaves : Leaves Q next) : Leaves Q (debug message >>= fun _ => next) :=
  leads_bind (leads_of_keeps (Q := fun _ => True) (fun _ _ => trivial) fun _ => trivial) fun _ _ => leaves

variable [Engine σ] {compiler : Compiler} {Q : Tokenizer → Prop} (holds : Q compiler.tokenizer)
  (tokenized : ∀ text (world : World σ), Q (compiler.tokenizer.tokenize text world).1.2)

include holds

theorem leaves_validate (expression : String) :
    Leaves (fun later => Q later.tokenizer) (compiler.validate expression : Run σ _) :=
  leaves_any fun _ => holds

theorem leaves_compile (expression : String) :
    Leaves (fun later => Q later.tokenizer) (compiler.compile expression : Run σ _) :=
  leaves_debug_bind (leaves_validate holds expression)

include tokenized

theorem leaves_build (mode : Mode) (text : String) :
    Leaves Q (Candidate.build Tokenizer.tokenize compiler.tokenizer mode text : Run σ _) := by
  unfold Candidate.build
  split
  · exact leads_pure holds
  · refine leads_bind (leaves_any (tokenized _)) ?_
    intro result known
    split
    · exact leads_pure known
    · exact leaves_debug_bind (leads_pure known)
    · exact leads_pure known

theorem leaves_compileMode (mode : Mode) (text : String) :
    Leaves (fun later => Q later.tokenizer) (compiler.compileMode mode text : Run σ _) := by
  refine leads_bind (leaves_build holds tokenized mode text) ?_
  intro result known
  obtain ⟨candidate, tokenizer⟩ := result
  dsimp only
  split
  · exact leads_pure known
  · exact leads_pure known
  · have validated := @leaves_validate σ _ ⟨tokenizer, compiler.validator⟩ Q known
    apply leaves_debug_bind (Q := fun later : Compiler => Q later.tokenizer)
    refine leads_bind (validated _) ?_
    intro answered known
    exact leads_pure known

theorem Request.leaves_run (request : Request) :
    Leaves (fun later => Q later.tokenizer) (request.run compiler : Run σ _) := by
  have raw (expression : String) :
      Leaves (fun later => Q later.tokenizer) (rawAnswer (compiler.compile expression) : Run σ _) :=
    leads_bind (leaves_compile holds expression) fun _ known => leads_pure known
  have mode (mode : Mode) (text : String) :
      Leaves (fun later => Q later.tokenizer) (patternAnswer (compiler.compileMode mode text) : Run σ _) :=
    leads_bind (leaves_compileMode holds tokenized mode text) fun _ known => leads_pure known
  cases request with
  | compile expression => exact raw expression
  | deserialize text => exact raw text
  | compileMode name text =>
    cases found : Mode.ofName? name with
    | some known => simpa only [Request.run, found] using mode known text
    | none =>
      simp only [Request.run, found]
      exact leads_pure holds
  | compileAny text => exact mode .any text
  | compileAll text => exact mode .all text
  | compilePhrase text => exact mode .phrase text
  | tokenize text =>
    refine leads_bind (Q := fun result => Q result.2.tokenizer) ?_ fun _ known => leads_pure known
    refine leads_bind (leaves_any (tokenized _)) ?_
    intro result known
    exact leads_pure known
  | descriptor => exact leads_pure holds

end

namespace Session

variable {session : Session} {id : String} {compiler : Compiler}

theorem Reachable.each {allowed : Step → Prop} {Q : Compiler → Prop} (reachable : Reachable allowed session)
    (created : ∀ settings compiler, Compiler.create settings = .ok compiler → Q compiler)
    (asked : ∀ compiler (request : Request) (world : World Database), Q compiler →
      Q (request.run compiler world).1.2) : ∀ entry ∈ session.compilers, Q entry.2 := by
  have set {session : Session} (each : ∀ entry ∈ session.compilers, Q entry.2) (id : String)
      {compiler : Compiler} (holds : Q compiler) :
      ∀ entry ∈ (session.setCompiler id compiler).compilers, Q entry.2 := by
    intro entry member
    rcases List.mem_cons.1 member with rfl | member
    · exact holds
    · exact each entry (List.mem_filter.1 member).1
  induction reachable with
  | opened | notADatabase | reopened => simp
  | @step session _ next _ ih =>
    unfold Session.step
    split
    · exact ih
    cases next with
    | create id settings =>
      simp only [perform, create]
      cases made : Compiler.create settings with
      | ok compiler => exact set ih id (created settings compiler made)
      | error failure => exact ih
    | request id request =>
      simp only [perform, Session.request]
      cases found : session.compiler? id with
      | none => exact ih
      | some compiler =>
        have holds := ih _ (mem_of_compiler? found)
        have same : ∀ entry ∈ (session.onDatabase (request.run compiler)).2.2.compilers, Q entry.2 := ih
        exact set same id (asked compiler request { engine := session.database } holds)
    | build | lookup | helpers | bind | close => exact ih

theorem Reachable.sound (reachable : Reachable (fun _ => True) session)
    (found : session.compiler? id = some compiler) : compiler.tokenizer.Sound := by
  refine reachable.each (Q := fun compiler => compiler.tokenizer.Sound) ?_ ?_ _ (mem_of_compiler? found)
  · intro settings compiler made
    obtain ⟨-, rfl⟩ := Compiler.create_eq_ok made
    intro table known
    cases known
  · intro compiler request world sound
    exact (Request.leaves_run sound (Tokenizer.sound_tokenize sound) request world trivial).2

-- A tokenizer that knows its table is left as it is, whatever is asked of its compiler.
theorem tokenizer_after (found : session.compiler? id = some compiler)
    (known : compiler.tokenizer.table.isSome = true) {steps : List Step}
    (notMade : ∀ next ∈ steps, ∀ settings, next ≠ .create id settings) :
    ∃ later, (session.after steps).compiler? id = some later ∧ later.tokenizer = compiler.tokenizer := by
  induction steps generalizing session compiler with
  | nil => exact ⟨compiler, found, rfl⟩
  | cons next steps ih =>
    obtain ⟨first, rest⟩ := List.forall_mem_cons.1 notMade
    have stays : ∃ later, (session.step next).2.2.compiler? id = some later ∧
        later.tokenizer = compiler.tokenizer := by
      unfold Session.step
      split
      · exact ⟨compiler, found, rfl⟩
      by_cases asked : ∃ request, next = .request id request
      · obtain ⟨request, rfl⟩ := asked
        have leaves := Request.leaves_run (Q := (· = compiler.tokenizer)) rfl
          (fun text world => Tokenizer.tokenize_keeps known text world) request
          { engine := session.database } trivial
        simp only [perform, Session.request, found]
        exact ⟨_, compiler?_setCompiler _ id _, leaves.2⟩
      · have same : (session.perform next).2.2.compiler? id = session.compiler? id :=
          compiler?_perform first fun request is => asked ⟨request, is⟩
        exact ⟨compiler, same.trans found, rfl⟩
    obtain ⟨middle, foundMiddle, same⟩ := stays
    obtain ⟨later, foundLater, last⟩ := ih foundMiddle (by rwa [same]) rest
    exact ⟨later, foundLater, last.trans same⟩

theorem after_nil (session : Session) : session.after [] = session := rfl

section

variable {σ : Type} [Engine σ] {world : World σ}

theorem run_tokenize (compiler : Compiler) (text : String) (world : World σ) :
    let called := compiler.tokenizer.tokenize (normalize text) world
    ((Request.tokenize text).run compiler world).1 =
        (called.1.1.map .tokens, { compiler with tokenizer := called.1.2 }) ∧
      ((Request.tokenize text).run compiler world).2 = called.2 := by
  simp only [Request.run, Compiler.tokenize, Run.bind_eq]
  -- The call is not to be run here, only its result is passed on.
  rcases compiler.tokenizer.tokenize (normalize text) world with ⟨⟨tokens, tokenizer⟩, after⟩
  exact ⟨rfl, rfl⟩

-- Without words no mode that joins them makes a pattern.
theorem compileMode_no_tokens {mode : Mode} {join : List String → String}
    (joins : Candidate.join? mode = some join) {text : String}
    (nothing : (compiler.tokenizer.tokenize (normalize text) world).1 = (.ok [], compiler.tokenizer)) :
    (Request.patternAnswer (compiler.compileMode mode text) world).1.1 = .ok (.pattern none) := by
  have built : (Candidate.build Tokenizer.tokenize compiler.tokenizer mode text world).1 =
      (.ok none, compiler.tokenizer) := by
    unfold Candidate.build
    rw [joins]
    dsimp only
    rw [Run.bind_eq, nothing]
    rfl
  unfold Request.patternAnswer Compiler.compileMode
  rw [Run.bind_eq, Run.bind_eq, built]
  rfl

end

theorem step_tokenize (running : session.isClosed = false) (found : session.compiler? id = some compiler)
    (text : String) :
    (session.step (.request id (.tokenize text))).1 =
      (compiler.tokenizer.tokenize (normalize text) { engine := session.database }).1.1.map .tokens := by
  rw [(step_request running found _).1, (run_tokenize compiler text _).1]

theorem lost_replies (regular : session.database.Regular) (running : session.isClosed = false)
    (found : session.compiler? id = some compiler) (sound : compiler.tokenizer.Sound)
    (lost : compiler.tokenizer.Lost session.database) (text : String) :
    (session.step (.request id (.tokenize text))).1 = .ok (.tokens []) ∧
      ∀ request ∈ [Request.compileAny text, .compileAll text, .compilePhrase text],
        (session.step (.request id request)).1 = .ok (.pattern none) := by
  have nothing : (compiler.tokenizer.tokenize (normalize text) { engine := session.database }).1 =
      (.ok [], compiler.tokenizer) := (Tokenizer.tokenize_lost regular sound lost (normalize text)).1
  constructor
  · rw [step_tokenize running found, nothing]
    rfl
  · intro request member
    rw [(step_request running found _).1]
    have runs : ∃ mode join, Candidate.join? mode = some join ∧
        (request.run compiler : Run Database _) = Request.patternAnswer (compiler.compileMode mode text) := by
      simp only [List.mem_cons, List.not_mem_nil, or_false] at member
      rcases member with rfl | rfl | rfl
      · exact ⟨.any, _, rfl, rfl⟩
      · exact ⟨.all, _, rfl, rfl⟩
      · exact ⟨.phrase, _, rfl, rfl⟩
    obtain ⟨mode, join, joins, same⟩ := runs
    rw [same]
    exact compileMode_no_tokens joins nothing

-- What a tokenizer without its table asks changes no table.
theorem step_lost (regular : session.database.Regular) (running : session.isClosed = false)
    (found : session.compiler? id = some compiler) (sound : compiler.tokenizer.Sound)
    (lost : compiler.tokenizer.Lost session.database) (text : String) :
    ∃ after, (session.step (.request id (.tokenize text))).2.2 =
        { session with database := after }.setCompiler id compiler ∧ session.database.Follows after := by
  obtain ⟨nothing, follows⟩ := @Tokenizer.tokenize_lost compiler.tokenizer { engine := session.database }
    regular sound lost (normalize text)
  obtain ⟨result, engine⟩ := run_tokenize compiler text { engine := session.database }
  refine ⟨_, ?_, follows⟩
  rw [(step_request running found _).2, result, nothing, engine]

theorem temp_of_lost (reachable : Reachable (fun _ => True) session) (running : session.isClosed = false)
    (found : session.compiler? id = some compiler) (lost : compiler.tokenizer.Lost session.database)
    (texts : List String) :
    (session.after (texts.map fun text => .request id (.tokenize text))).database.temp =
      session.database.temp := by
  induction texts generalizing session with
  | nil => rfl
  | cons text texts ih =>
    have regular := (reachable.has Database.Regular.outlasting).database
    obtain ⟨after, stepped, follows⟩ := step_lost regular running found (reachable.sound found) lost text
    have next := reachable.step (.request id (.tokenize text)) trivial
    rw [stepped] at next
    have missing : after.temp.find? (Tokenizer.helper compiler.tokenizer.choice) = none := by
      rw [follows.temp]
      exact lost.2
    have rest := ih next running (compiler?_setCompiler _ id compiler) ⟨lost.1, missing⟩
    rw [List.map_cons, Session.after, List.foldl_cons, stepped]
    exact rest.trans follows.temp

/-- Whether a tokenizer finds what a new one of the same description finds is told by its helper table: if it
knows one and there is none any more, it finds no words, and the modes that join words make no pattern, after
whatever steps do not make the table again. Its own calls never do. In all other states it finds what a new
one finds. -/
theorem tokens_lost (reachable : Reachable (fun _ => True) session) (running : session.isClosed = false)
    (found : session.compiler? id = some compiler) :
    let helper := Tokenizer.helper compiler.tokenizer.choice
    let new : Compiler := { compiler with tokenizer := { choice := compiler.tokenizer.choice } }
    (¬compiler.tokenizer.Lost session.database → ∀ text,
      (session.step (.request id (.tokenize text))).1 =
        ((session.setCompiler id new).step (.request id (.tokenize text))).1) ∧
    (compiler.tokenizer.Lost session.database →
      (∀ texts : List String, (session.after
        (texts.map fun text => .request id (.tokenize text))).database.temp = session.database.temp) ∧
      ∀ steps : List Step, (∀ next ∈ steps, ∀ settings, next ≠ .create id settings) →
        (session.after steps).isClosed = false →
        (session.after steps).database.temp.find? helper = none → ∀ text,
          ((session.after steps).step (.request id (.tokenize text))).1 = .ok (.tokens []) ∧
          ∀ request ∈ [Request.compileAny text, .compileAll text, .compilePhrase text],
            ((session.after steps).step (.request id request)).1 = .ok (.pattern none)) := by
  intro helper new
  have regular := (reachable.has Database.Regular.outlasting).database
  have sound := reachable.sound found
  refine ⟨?_, ?_⟩
  · intro kept text
    have afresh := @Tokenizer.tokenize_afresh compiler.tokenizer { engine := session.database } regular sound
      kept (normalize text)
    have there := @step_tokenize (session.setCompiler id new) id new running
      (compiler?_setCompiler session id new) text
    have same : (session.setCompiler id new).database = session.database := rfl
    rw [same] at there
    rw [step_tokenize running found, there, afresh]
  · intro lost
    refine ⟨temp_of_lost reachable running found lost, ?_⟩
    intro steps notMade runs missing text
    obtain ⟨later, foundLater, same⟩ := tokenizer_after found lost.1 notMade
    have reached := reachable.after fun next (_ : next ∈ steps) => trivial
    apply lost_replies (reached.has Database.Regular.outlasting).database runs foundLater
    · rwa [same]
    · exact ⟨by rw [same]; exact lost.1, by rw [same]; exact missing⟩

-- After the helper table has been dropped, two calls in a row find nothing where a new tokenizer finds words.
theorem tokens_lost_dropped :
    let choice : TokenizerChoice := ⟨"simple", []⟩
    let steps : List Step := [.create "c" {}, .request "c" (.tokenize "a b"),
      .build (.drop "temp" (Tokenizer.helper choice))]
    let asked : Step := .request "c" (.tokenize "a b")
    ∃ compiler new, (fresh.after steps).compiler? "c" = some compiler ∧
      compiler.tokenizer.Lost (fresh.after steps).database ∧
      ((fresh.after steps).step asked).1 = .ok (.tokens []) ∧
      (((fresh.after steps).after [asked]).step asked).1 = .ok (.tokens []) ∧
      new = { compiler with tokenizer := { choice } } ∧
      (((fresh.after steps).setCompiler "c" new).step asked).1 = .ok (.tokens [.text "a", .text "b"]) := by
  intro choice steps asked
  let compiler : Compiler :=
    ⟨{ choice, table := some (Tokenizer.helper choice) }, { probe := .helper ["content"] }⟩
  have reachable : Reachable (fun _ => True) (fresh.after steps) :=
    (Reachable.opened memoryPath).after fun _ _ => trivial
  obtain ⟨running, runs, found, missing, again, told⟩ :
      (fresh.after steps).isClosed = false ∧ ((fresh.after steps).after [asked]).isClosed = false ∧
      (fresh.after steps).compiler? "c" = some compiler ∧
      (fresh.after steps).database.temp.find? (Tokenizer.helper choice) = none ∧
      ((fresh.after steps).after [asked]).database.temp.find? (Tokenizer.helper choice) = none ∧
      (((fresh.after steps).setCompiler "c" { compiler with tokenizer := { choice } }).step asked).1 =
        .ok (.tokens [.text "a", .text "b"]) := by decide +kernel
  have lost : compiler.tokenizer.Lost (fresh.after steps).database := ⟨rfl, missing⟩
  have replies := ((tokens_lost reachable running found).2 lost).2
  have now := replies [] (by simp)
  simp only [after_nil] at now
  have later := replies [asked] (by simp [asked]) runs again
  exact ⟨compiler, _, found, lost, (now running missing "a b").1, (later "a b").1, rfl, told⟩

end Session

end TextQuery
