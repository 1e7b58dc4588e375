import TextQuery.Proofs.Program.Records
import TextQuery.Proofs.Session.Modes

set_option autoImplicit false

namespace TextQuery

open Engine CommandLine

def Answer.found : Answer → Bool
  | .pattern made => made.isSome
  | .tokens words => !words.isEmpty
  | .violations rows => rows.isEmpty
  | _ => true

namespace Program

def question : Command → Step
  | .compile text mode => .request "" (.compileMode mode.name text)
  | .tokenize text => .request "" (.tokenize text)
  | .foreignKeys table schema => .lookup (.foreignKeys table schema)
  | .check table schema => .lookup (.violations table schema)

def prepare (settings : CompilerSettings) (session : Session) : Command → Except Failure Session
  | .compile _ _ | .tokenize _ => session.create "" settings
  | .foreignKeys _ _ | .check _ _ => .ok session

def answer (settings : CompilerSettings) (session : Session) (command : Command) : Except Failure Answer := do
  let session ← prepare settings session command
  (session.step (question command)).1

def made (settings : CompilerSettings) (session : Session) (command : Command) : Except Failure Report :=
  ((perform settings command).run { engine := session.database }).1

/-- The reports on answers. Words are texts. -/
inductive Reports : Command → Answer → Report → Prop
  | compile (text : String) (mode : Mode) (made : Option Pattern) :
    Reports (.compile text mode) (.pattern made) (.pattern text mode made)
  | tokenize (text : String) (words : List String) :
    Reports (.tokenize text) (.tokens (words.map .text)) (.tokens text words)
  | foreignKeys (table : String) (schema : Option String) (keys : List ForeignKey) :
    Reports (.foreignKeys table schema) (.keys keys) (.foreignKeys table keys)
  | check (table schema : Option String) (rows : List Violation) :
    Reports (.check table schema) (.violations rows) (.violations rows)

variable {settings : CompilerSettings} {session : Session} {command : Command}

theorem Reports.found_eq {answer : Answer} {report : Report} (reports : Reports command answer report) :
    report.found = answer.found := by
  cases reports with
  | tokenize text words => cases words <;> rfl
  | compile | foreignKeys | check => rfl

theorem Reports.violations_eq {table schema : Option String} {rows : List Violation} {report : Report}
    (reports : Reports (.check table schema) (.violations rows) report) : report = .violations rows := by
  cases reports
  rfl

theorem filterMap_texts (words : List String) : (words.map Cell.text).filterMap Cell.text? = words := by
  simp [List.filterMap_map, Function.comp_def, Cell.text?]

/-- A report fits the answer, and where there is no answer there is the same failure. -/
def Fits (command : Command) (result : Except Failure Report) : Except Failure Answer → Prop
  | .ok answer => ∃ report, result = .ok report ∧ Reports command answer report
  | .error failure => result = .error failure

theorem run_lift {σ α : Type} (run : Run σ α) (world : World σ) :
    (ExceptT.lift run : Attempt σ α).run world = (.ok (run world).1, (run world).2) := rfl

-- A compiler is made or not, whatever the engine.
theorem createCompiler_run {σ : Type} [Engine σ] (engine : σ) :
    ∃ journal, (createCompiler settings).run { engine } = (Compiler.create settings, ⟨engine, journal⟩) :=
  ⟨_, rfl⟩

theorem request_setCompiler (isOpen : session.isClosed = false) (compiler : Compiler) (request : Request) :
    ((session.setCompiler "" compiler).step (.request "" request)).1 =
      ((request.run compiler) { engine := session.database }).1.1 := by
  simp [Session.step, Session.perform, Session.request, Session.compiler?, Session.setCompiler, Session.onDatabase,
    isOpen]
  rfl

theorem lookup_step (isOpen : session.isClosed = false) (question : Lookup) :
    (session.step (.lookup question)).1 = (question.run.run { engine := session.database }).1 := by
  simp [Session.step, Session.perform, Session.onDatabase, isOpen]
  rfl

theorem fits_of_compiler (isOpen : session.isClosed = false) {request : Request}
    {next : Compiler → Attempt Database Report} (prepares : prepare settings session command = session.create "" settings)
    (asks : question command = .request "" request)
    (performs : perform settings command = createCompiler settings >>= next)
    (fits : ∀ compiler journal, Compiler.create settings = .ok compiler →
      Fits command ((next compiler).run ⟨session.database, journal⟩).1
        ((request.run compiler) { engine := session.database }).1.1) :
    Fits command (made settings session command) (answer settings session command) := by
  obtain ⟨journal, ran⟩ := @createCompiler_run settings Database _ session.database
  rw [made, performs, answer, prepares, asks, Session.create]
  cases created : Compiler.create settings with
  | error failure =>
    rw [created] at ran
    exact congrArg Prod.fst (Attempt.run_bind_error next ran)
  | ok compiler =>
    rw [created] at ran
    have asked : ((Except.ok compiler : Except Failure Compiler).map (session.setCompiler "") >>= fun session =>
        (session.step (.request "" request)).1) = ((request.run compiler) { engine := session.database }).1.1 :=
      request_setCompiler isOpen compiler request
    rw [Attempt.run_bind_ok next ran, asked]
    exact fits compiler journal created

theorem fits_of_lookup {α : Type} (isOpen : session.isClosed = false) {asked : Lookup} {attempt : Attempt Database α}
    {tell : α → Answer} {next : α → Attempt Database Report}
    (prepares : prepare settings session command = .ok session) (asks : question command = .lookup asked)
    (runs : asked.run = attempt >>= fun value => pure (tell value))
    (performs : perform settings command = attempt >>= next)
    (fits : ∀ value world, ∃ report, ((next value).run world).1 = .ok report ∧ Reports command (tell value) report) :
    Fits command (made settings session command) (answer settings session command) := by
  have answered : answer settings session command = (attempt.run { engine := session.database }).1.map tell := by
    rw [answer, prepares, asks]
    change (session.step (.lookup asked)).1 = _
    rw [lookup_step isOpen, runs, Attempt.run_map]
  rw [answered, made, performs]
  cases ran : attempt.run { engine := session.database } with
  | mk answer after =>
    cases answer with
    | error failure => exact congrArg Prod.fst (Attempt.run_bind_error next ran)
    | ok value =>
      rw [Attempt.run_bind_ok next ran]
      exact fits value after

theorem fits_compile (isOpen : session.isClosed = false) (text : String) (mode : Mode) :
    Fits (.compile text mode) (made settings session (.compile text mode))
      (answer settings session (.compile text mode)) := by
  apply fits_of_compiler isOpen rfl rfl rfl
  intro compiler journal created
  have named : Mode.ofName? mode.name = some mode := by cases mode <;> decide
  have asked : ((Request.run compiler (.compileMode mode.name text)) { engine := session.database }).1.1 =
      ((compiler.compileMode mode text) { engine := session.database }).1.1.map .pattern := by
    simp only [Request.run, named]
    rfl
  have mild := @Compiler.mild_compileMode Database _ compiler mode text
  let record : Record := ⟨Level.debug, "Compiling mode=" ++ mode.name ++ " text=" ++ Text.quoted text⟩
  have noted : (Attempt.debug record.message).run ⟨session.database, journal⟩ =
    (.ok (), ⟨session.database, journal ++ [record]⟩) := rfl
  have compiled := run_lift (compiler.compileMode mode text) ⟨session.database, journal ++ [record]⟩
  rw [asked, ← mild.answer_eq session.database (journal ++ [record]), Attempt.run_bind_ok _ noted,
    Attempt.run_bind_ok _ compiled]
  generalize (compiler.compileMode mode text) ⟨session.database, journal ++ [record]⟩ = left
  obtain ⟨⟨answer, later⟩, after⟩ := left
  cases answer with
  | error failure => rfl
  | ok made =>
    refine ⟨_, ?_, .compile text mode made⟩
    cases made <;> rfl

theorem fits_tokenize (isOpen : session.isClosed = false) (kept : session.database.Kept) (text : String) :
    Fits (.tokenize text) (made settings session (.tokenize text)) (answer settings session (.tokenize text)) := by
  apply fits_of_compiler isOpen rfl rfl rfl
  intro compiler journal created
  have mild := @Compiler.mild_tokenize Database _ compiler text
  have tokenized := run_lift (compiler.tokenize text) ⟨session.database, journal⟩
  have faithful := (Compiler.create_faithful created).tokenizer
  -- A new connection has no helper table of another kind, so all words are texts.
  have given : ∃ words : List String,
      ((compiler.tokenize text) ⟨session.database, journal⟩).1.1 = .ok (words.map .text) := by
    rw [mild.answer_eq session.database journal, Compiler.tokenize_eq]
    exact (Tokenizer.tokenize_words faithful kept (Text.normalize text)).imp fun words found => found.1
  apply given.elim
  intro words found
  have asked : ((Request.run compiler (.tokenize text)) { engine := session.database }).1.1 =
      ((compiler.tokenize text) { engine := session.database }).1.1.map .tokens := by
    simp only [Request.run, bind, StateT.bind]
    generalize (compiler.tokenize text) { engine := session.database } = left
    rfl
  rw [asked, ← mild.answer_eq session.database journal, Attempt.run_bind_ok _ tokenized]
  generalize (compiler.tokenize text) ⟨session.database, journal⟩ = left at found ⊢
  obtain ⟨⟨answer, later⟩, after⟩ := left
  cases found
  exact ⟨.tokens text words, congrArg (fun words => Except.ok (Report.tokens text words)) (filterMap_texts words),
    .tokenize text words⟩

theorem fits_made (isOpen : session.isClosed = false) (kept : session.database.Kept) (command : Command) :
    Fits command (made settings session command) (answer settings session command) := by
  cases command with
  | compile text mode => exact fits_compile isOpen text mode
  | tokenize text => exact fits_tokenize isOpen kept text
  | foreignKeys table schema =>
    apply fits_of_lookup isOpen rfl rfl rfl rfl
    intro keys world
    exact ⟨_, rfl, .foreignKeys table schema keys⟩
  | check table schema =>
    apply fits_of_lookup isOpen rfl rfl rfl rfl
    intro rows world
    refine ⟨_, ?_, .check table schema rows⟩
    cases rows <;> rfl

end Program

end TextQuery
