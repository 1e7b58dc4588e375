import TextQuery.Proofs.Session.Refused
import TextQuery.Proofs.Session.Undisturbed

set_option autoImplicit false

namespace TextQuery

open Engine

def Request.expression? : Request → Option String
  | .compile expression | .deserialize expression => some expression
  | .compileMode name text => if Mode.ofName? name = some .raw then some text else none
  | .compileAny _ | .compileAll _ | .compilePhrase _ | .tokenize _ | .descriptor => none

def Step.isCall : Step → Bool
  | .request _ asked => asked.expression?.isSome
  | .lookup _ => true
  | .build _ | .create .. | .helpers | .bind _ | .close => false

namespace Session

def faults (session : Session) : Step → List (Purpose × Fault)
  | .request id request =>
    match session.compiler? id with
    | some compiler =>
      ((request.run compiler : Run (Witnessed Database) _) { engine := { engine := session.database } }).2.engine.faults
    | none => []
  | .lookup question =>
    ((question.run : Attempt (Witnessed Database) Answer).run
      { engine := { engine := session.database } }).2.engine.faults
  | .build _ | .create .. | .helpers | .bind _ | .close => []

/-- What is refused in a call while the main schema is locked. -/
def refusals (session : Session) (next : Step) : List Purpose :=
  if session.isClosed = false ∧ session.database.condition = .locked ∧ next.isCall = true then
    (session.faults next).filterMap fun entry => if entry.2 = .busy then some entry.1 else none
  else []

/-- The steps that are taken one after the other, each with the session that it is taken in. -/
def course (session : Session) : List Step → List (Session × Step)
  | [] => []
  | next :: steps => (session, next) :: (session.step next).2.2.course steps

/-- A session that answers as another one would: it has the same compilers, and no more notes of statements. -/
structure Echoes (one other : Session) : Prop where
  path : other.path = one.path
  isClosed : other.isClosed = one.isClosed
  compilers : ∀ id, other.compiler? id = one.compiler? id
  database : one.database.Beside Lacks other.database

theorem Echoes.refl (session : Session) : session.Echoes session :=
  ⟨rfl, rfl, fun _ => rfl, session.database.sound, session.database.isTempUsed, rfl, .refl _⟩

theorem Echoes.trans {one other further : Session} (first : one.Echoes other) (second : other.Echoes further) :
    one.Echoes further where
  path := second.path.trans first.path
  isClosed := second.isClosed.trans first.isClosed
  compilers id := (second.compilers id).trans (first.compilers id)
  database := by
    obtain ⟨_, _, same, lacks⟩ := first.database
    obtain ⟨sound, isTempUsed, also, further⟩ := second.database
    rw [same] at also further
    exact ⟨sound, isTempUsed, also, lacks.trans further⟩

theorem Echoes.setCompiler {one other : Session} (echoes : one.Echoes other) {id : String} {compiler : Compiler}
    (held : other.compiler? id = some compiler) : (one.setCompiler id compiler).Echoes other where
  path := echoes.path
  isClosed := echoes.isClosed
  compilers name := by
    by_cases same : id = name
    · subst same
      rw [held, compiler?_setCompiler]
    · rw [compiler?_setCompiler_ne _ same, echoes.compilers]
  database := echoes.database

end Session

theorem Compiler.run_raw {σ : Type} [TextQuery.Engine σ] (compiler : Compiler) (text : String) (world : World σ) :
    ∃ records, let judged := compiler.validator.validate text { world with journal := records }
      compiler.compileMode .raw text world =
        ((judged.1.1.map some, { compiler with validator := judged.1.2 }), judged.2) :=
  ⟨_, rfl⟩

theorem Request.run_expression {σ : Type} [TextQuery.Engine σ] {request : Request} {expression : String}
    (hands : request.expression? = some expression) (compiler : Compiler) (world : World σ) :
    ∃ records, let judged := compiler.validator.validate expression { world with journal := records }
      request.run compiler world = ((judged.1.1.map fun made => .pattern (some made),
        { compiler with validator := judged.1.2 }), judged.2) := by
  cases request with
  | compile text | deserialize text =>
    obtain rfl := Option.some.inj hands
    exact ⟨_, rfl⟩
  | compileMode name text =>
    simp only [expression?, Option.ite_none_right_eq_some, Option.some.injEq] at hands
    obtain ⟨raw, rfl⟩ := hands
    obtain ⟨records, ran⟩ := compiler.run_raw text world
    refine ⟨records, ?_⟩
    simp only [Request.run, raw, patternAnswer, Run.bind_eq, ran]
    cases (compiler.validator.validate text { world with journal := records }).1.1 <;> rfl
  | compileAny | compileAll | compilePhrase | tokenize | descriptor => cases hands

namespace Session

variable {session : Session} {next : Step} {purpose : Purpose}

theorem mem_refusals : purpose ∈ session.refusals next ↔ session.isClosed = false ∧
    session.database.condition = .locked ∧ next.isCall = true ∧ (purpose, .busy) ∈ session.faults next := by
  unfold refusals
  split
  · rename_i stands
    simp [stands]
  · rename_i stands
    simp only [List.not_mem_nil, false_iff]
    exact fun known => stands ⟨known.1, known.2.1, known.2.2.1⟩

theorem refused_call (refused : purpose ∈ session.refusals next) :
    (∃ id request compiler expression records, next = .request id request ∧
      session.compiler? id = some compiler ∧ request.expression? = some expression ∧
      (purpose, .busy) ∈ (((compiler.validator.validate expression : Run (Witnessed Database) _)
        { engine := { engine := session.database }, journal := records }).2.engine.faults)) ∨
    purpose = .lookup ∧ ∃ question, next = .lookup question ∧ (.lookup, .busy) ∈
      ((question.run : Attempt (Witnessed Database) Answer).run
        { engine := { engine := session.database } }).2.engine.faults := by
  obtain ⟨-, -, isCall, noted⟩ := mem_refusals.1 refused
  cases next with
  | request id request =>
    obtain ⟨expression, hands⟩ := Option.isSome_iff_exists.1 isCall
    cases found : session.compiler? id with
    | none =>
      simp only [faults, found] at noted
      cases noted
    | some compiler =>
      simp only [faults, found] at noted
      obtain ⟨records, ran⟩ :=
        Request.run_expression hands compiler ({ engine := { engine := session.database } } : World (Witnessed Database))
      rw [ran] at noted
      exact .inl ⟨id, request, compiler, expression, records, rfl, found, hands, noted⟩
  | lookup question =>
    have lookups := Lookup.keeps_run Witnessed.lookedUp_lookups question
      { engine := { engine := session.database } } (List.forall_mem_nil _)
    obtain rfl : purpose = .lookup := lookups _ noted
    exact .inr ⟨rfl, question, rfl, noted⟩
  | build | create | helpers | bind | close => cases isCall

theorem step_refused (regular : session.database.Regular) (refused : purpose ∈ session.refusals next) :
    (session.step next).1 = .error (refusal purpose) ∧
      (purpose = .creation → session.database.isRead = false ∧ ∃ id request compiler columns,
        next = .request id request ∧ session.compiler? id = some compiler ∧
        compiler.validator.probe = .helper columns ∧ compiler.validator.target = none) := by
  obtain ⟨running, locked, -⟩ := mem_refusals.1 refused
  rcases refused_call refused with
    ⟨id, request, compiler, expression, records, rfl, found, hands, noted⟩ | ⟨rfl, question, rfl, noted⟩
  · obtain ⟨journal, ran⟩ := Request.run_expression hands compiler ({ engine := session.database } : World Database)
    obtain ⟨judged, -, faults, added, stops⟩ := compiler.validator.shows_validate expression
      { engine := { engine := session.database }, journal := records }
      { engine := session.database, journal } rfl
    constructor
    · rw [(step_request running found request).1, ran]
      rw [added, List.nil_append] at noted
      dsimp only
      rw [← judged, stops purpose noted]
      rfl
    · rintro rfl
      rcases Validator.refused_cases journal noted with
        ⟨-, columns, probe, lacking, made⟩ | ⟨lookup, -⟩ | ⟨query, -⟩
      · rw [answer_database] at made
        exact ⟨(Validator.createProbe_refused locked regular (eq_of_fst made)).1, id, request, compiler, columns, rfl, found,
          probe, lacking⟩
      · cases lookup
      · cases query
  · obtain ⟨judged, -, faults, added, stops⟩ := question.shows_run
      { engine := { engine := session.database } } { engine := session.database } rfl
    rw [added, List.nil_append] at noted
    refine ⟨?_, fun creation => by cases creation⟩
    rw [step_lookup running, ← judged, stops .lookup noted]

theorem echoes_refused (regular : session.database.Regular) (noting : session.database.Noting)
    (guarded : session.database.Guarded) (refused : purpose ∈ session.refusals next) :
    (session.step next).2.2.Echoes session := by
  obtain ⟨running, locked, -⟩ := mem_refusals.1 refused
  rcases refused_call refused with
    ⟨id, request, compiler, expression, records, rfl, found, hands, noted⟩ | ⟨rfl, question, rfl, noted⟩
  · obtain ⟨journal, ran⟩ := Request.run_expression hands compiler ({ engine := session.database } : World Database)
    obtain ⟨unchanged, beside⟩ :=
      Validator.refused_validate locked regular noting guarded journal noted
    rw [(step_request running found request).2, ran]
    dsimp only
    rw [unchanged]
    have echoes (database : Database) (beside : database.Beside Lacks session.database) :
        Echoes { session with database } session := ⟨rfl, rfl, fun _ => rfl, beside⟩
    exact (echoes _ beside).setCompiler found
  · have failed := (step_refused regular refused).1
    rw [step_lookup running] at failed
    have idles := Lookup.idles_run locked regular (.refl session.database) question (eq_of_fst failed)
    have stepped : (session.step (.lookup question)).2.2 = { session with database :=
        ((question.run : Attempt Database Answer).run { engine := session.database }).2.engine } := by
      simp only [step, running, Bool.false_and, Bool.false_eq_true, if_false, perform, onDatabase]
      rfl
    rw [stepped]
    exact ⟨rfl, rfl, fun _ => rfl, idles.beside⟩

end Session

end TextQuery
