import TextQuery.Proofs.Engine.Agreeing
import TextQuery.Proofs.Session.Stopping

set_option autoImplicit false

namespace TextQuery

open Engine Engine.Change

namespace Run

variable {α β : Type}

/-- On databases of which one heeds the other a run comes to the same, and leaves them side by side. -/
def Heeding (run : Run Database α) : Prop :=
  ∀ one other : World Database, one.engine.Heeds other.engine →
    (run one).1 = (run other).1 ∧ (run one).2.engine.Beside Lacks (run other).2.engine

theorem Heeding.of_agree {run : Run Database α} (agree : Agree Database.Heeds Eq run run) : Heeding run :=
  fun one other heeds => ⟨(agree one other heeds).1, (agree one other heeds).2.beside⟩

theorem heeding_pure (value : α) : Heeding (pure value : Run Database α) := .of_agree (agree_pure rfl)

theorem heeding_bind {first : Run Database α} {next : α → Run Database β} (agree : Agree Database.Heeds Eq first first)
    (rest : ∀ value, Heeding (next value)) : Heeding (first >>= next) := by
  intro one other heeds
  obtain ⟨same, middle⟩ := agree one other heeds
  have further := rest (first one).1 _ _ middle
  rw [same] at further
  rw [Run.bind_eq, Run.bind_eq, same]
  exact further

theorem heeding_debug_bind {message : String} {next : Unit → Run Database α} (rest : Heeding (next ())) :
    Heeding (debug message >>= next) := fun _ _ heeds => rest _ _ heeds

theorem heeding_map {run : Run Database α} (heeding : Heeding run) (f : α → β) :
    Heeding (run >>= fun value => pure (f value)) := fun one other heeds =>
  ⟨congrArg f (heeding one other heeds).1, (heeding one other heeds).2⟩

end Run

open Run

theorem Validator.heeding_validate (validator : Validator) (expression : String) :
    Heeding (validator.validate expression) := by
  intro one other heeds
  obtain ⟨⟨same, -⟩, found⟩ := validator.agrees_findTarget Database.Heeds.agreed_lookup Database.Heeds.agreed_createProbe
    one other heeds
  cases find : validator.findTarget.run one with
  | mk answer after =>
    cases also : validator.findTarget.run other with
    | mk answered later =>
      rw [find, also] at same found
      obtain rfl : answer = answered := same
      cases answer with
      | error failure =>
        rw [validate_lost _ find, validate_lost _ also]
        exact ⟨rfl, found.beside⟩
      | ok target =>
        obtain ⟨judged, engine⟩ := validate_found expression find
        obtain ⟨judgedAlso, engineAlso⟩ := validate_found expression also
        obtain ⟨answers, beside⟩ := found.evened_match target expression
        rw [answer_database] at judged engine judgedAlso engineAlso
        rw [judged, judgedAlso, engine, engineAlso, answers]
        exact ⟨rfl, beside⟩

namespace Compiler

theorem agree_tokenizer (tokenizer : Tokenizer) (text : String) :
    Agree Database.Heeds Eq (tokenizer.tokenize text : Run Database _) (tokenizer.tokenize text) :=
  tokenizer.agree_tokenize text (Database.Heeds.agreed_createTokens _) Database.Heeds.agreed_selectTokens

theorem agree_candidate (tokenizer : Tokenizer) (mode : Mode) (text : String) :
    Agree Database.Heeds Eq (Candidate.build Tokenizer.tokenize tokenizer mode text : Run Database _)
      (Candidate.build Tokenizer.tokenize tokenizer mode text) := by
  unfold Candidate.build
  split
  · exact agree_pure rfl
  · refine agree_bind (agree_tokenizer tokenizer _) ?_
    rintro ⟨answer, later⟩ _ rfl
    split
    · exact agree_pure rfl
    · exact agree_record_bind (agree_pure rfl)
    · exact agree_pure rfl

theorem heeding_validate (compiler : Compiler) (expression : String) : Heeding (compiler.validate expression) :=
  heeding_map (compiler.validator.heeding_validate expression) _

theorem heeding_compile (compiler : Compiler) (expression : String) : Heeding (compiler.compile expression) :=
  heeding_debug_bind (compiler.heeding_validate expression)

theorem heeding_compileMode (compiler : Compiler) (mode : Mode) (text : String) :
    Heeding (compiler.compileMode mode text) := by
  refine heeding_bind (agree_candidate compiler.tokenizer mode text) ?_
  rintro ⟨candidate, tokenizer⟩
  dsimp only
  split
  · exact heeding_pure _
  · exact heeding_pure _
  · exact heeding_debug_bind (heeding_map (Compiler.heeding_validate _ _) _)

end Compiler

theorem Request.heeding_run (compiler : Compiler) (request : Request) : Heeding (request.run compiler) := by
  unfold Request.run
  cases request with
  | compile text | deserialize text => exact heeding_map (compiler.heeding_compile text) _
  | compileMode name text =>
    dsimp only
    split
    · exact heeding_map (compiler.heeding_compileMode _ text) _
    · exact heeding_pure _
  | compileAny text | compileAll text | compilePhrase text => exact heeding_map (compiler.heeding_compileMode _ text) _
  | tokenize text =>
    refine heeding_map (.of_agree ?_) _
    refine agree_bind (Compiler.agree_tokenizer compiler.tokenizer _) ?_
    rintro ⟨tokens, tokenizer⟩ _ rfl
    exact agree_pure rfl
  | descriptor => exact heeding_pure _

/-- Two databases, of which the second one lacks notes that no lookup is concerned with. -/
def Engine.Database.Abides (one other : Database) : Prop := one.Regular ∧ one.Beside Lacks other

theorem Engine.Database.Abides.agreed {α : Type} {statement : Statement α} (lookup : statement.purpose = .lookup) :
    Agreed Database.Abides statement := by
  rintro one other ⟨regular, beside⟩
  have evened := evened_unnoted Lacks.tolerant (even_respond lookup) beside (regular.unknown_lookup lookup)
    ((regular.of_beside beside).unknown_lookup lookup)
  exact ⟨evened.1, fun _ _ => trivial, keeps_lookup Database.Regular.lasting.toSteady lookup one regular, evened.2⟩

namespace Session

theorem even_listHelpers : Even Lacks listHelpers listHelpers := by
  unfold listHelpers
  refine even_bind even_readCatalog fun _ => even_bind_get fun one other beside => ?_
  have same : helperNames other = helperNames one := by
    unfold helperNames
    rw [beside.follows.temp]
  rw [beside.follows.temp, same]
  exact even_bind (even_use _) fun _ => even_pure _

variable {one other session : Session}

/-- An answer to a step in one history and in another one. Only the temporary schema may not be detached in
other words. -/
def Alike (next : Step) (one other : Except Failure Answer) : Prop :=
  one = other ∨ ∃ name, next = .build (.detach name) ∧ Text.sameName name "temp" = true ∧
    (∃ failure, one = .error failure) ∧ ∃ failure, other = .error failure

theorem Echoes.onTables (echoes : one.Echoes other) {α : Type} (answer : α → Answer) {change : Change α}
    (evened : Evened Lacks (change one.database) (change other.database)) :
    (one.onTables answer change).1 = (other.onTables answer change).1 ∧
      (one.onTables answer change).2.2.Echoes (other.onTables answer change).2.2 := by
  obtain ⟨same, beside⟩ := evened
  exact ⟨congrArg (fun result => (result.map answer).mapError Failure.engine) same,
    echoes.path, echoes.isClosed, echoes.compilers, beside⟩

theorem Echoes.build (echoes : one.Echoes other) (regular : one.database.Regular) (building : Building) :
    Alike (.build building) (one.perform (.build building)).1 (other.perform (.build building)).1 ∧
      (one.perform (.build building)).2.2.Echoes (other.perform (.build building)).2.2 := by
  rcases evened_build building echoes.database with evened | ⟨name, rfl, temp, refused, also, beside⟩
  · obtain ⟨same, after⟩ := echoes.onTables (fun _ => .nothing) evened
    exact ⟨.inl same, after⟩
  · rw [regular.temp] at temp
    obtain ⟨fault, refused⟩ := refused
    obtain ⟨second, also⟩ := also
    refine ⟨.inr ⟨name, rfl, temp, ⟨.engine fault, ?_⟩, ⟨.engine second, ?_⟩⟩,
      echoes.path, echoes.isClosed, echoes.compilers, beside⟩
    · change ((Change.build (.detach name) one.database).1.map _).mapError _ = _
      rw [refused]
      rfl
    · change ((Change.build (.detach name) other.database).1.map _).mapError _ = _
      rw [also]
      rfl

theorem Echoes.made (echoes : one.Echoes other) (id : String) (compiler : Compiler) :
    (one.setCompiler id compiler).Echoes (other.setCompiler id compiler) where
  path := echoes.path
  isClosed := echoes.isClosed
  compilers name := by
    by_cases same : id = name
    · subst same
      rw [compiler?_setCompiler, compiler?_setCompiler]
    · rw [compiler?_setCompiler_ne _ same, compiler?_setCompiler_ne _ same, echoes.compilers]
  database := echoes.database

theorem Echoes.request (echoes : one.Echoes other) (heeds : one.database.Heeds other.database) (id : String)
    (request : Request) : (one.request id request).1 = (other.request id request).1 ∧
      (one.request id request).2.2.Echoes (other.request id request).2.2 := by
  unfold Session.request
  rw [echoes.compilers id]
  cases found : one.compiler? id with
  | none => exact ⟨rfl, echoes⟩
  | some compiler =>
    obtain ⟨answers, beside⟩ := request.heeding_run compiler { engine := one.database } { engine := other.database } heeds
    have ran : (one.onDatabase (request.run compiler)).2.2.Echoes (other.onDatabase (request.run compiler)).2.2 :=
      ⟨echoes.path, echoes.isClosed, echoes.compilers, beside⟩
    have same : (one.onDatabase (request.run compiler)).1.2 = (other.onDatabase (request.run compiler)).1.2 :=
      congrArg Prod.snd answers
    dsimp only
    rw [same]
    exact ⟨congrArg Prod.fst answers, ran.made id _⟩

theorem Echoes.lookup (echoes : one.Echoes other) (regular : one.database.Regular) (question : Lookup) :
    (one.perform (.lookup question)).1 = (other.perform (.lookup question)).1 ∧
      (one.perform (.lookup question)).2.2.Echoes (other.perform (.lookup question)).2.2 := by
  obtain ⟨⟨answers, -⟩, -, beside⟩ := question.agrees_run Database.Abides.agreed { engine := one.database }
    { engine := other.database } ⟨regular, echoes.database⟩
  exact ⟨answers, echoes.path, echoes.isClosed, echoes.compilers, beside⟩

theorem Echoes.step (echoes : one.Echoes other) (regular : one.database.Regular) (refuses : one.database.Refuses)
    (next : Step) : Alike next (one.step next).1 (other.step next).1 ∧
      (one.step next).2.2.Echoes (other.step next).2.2 := by
  have answered {one other : Except Failure Answer × List Record × Session}
      (evened : one.1 = other.1 ∧ one.2.2.Echoes other.2.2) : Alike next one.1 other.1 ∧ one.2.2.Echoes other.2.2 :=
    ⟨.inl evened.1, evened.2⟩
  unfold Session.step
  rw [echoes.isClosed, echoes.path]
  split
  · exact answered ⟨rfl, echoes⟩
  cases next with
  | build building => exact echoes.build regular building
  | create id settings =>
    apply answered
    simp only [perform, create]
    cases Compiler.create settings with
    | ok compiler => exact ⟨rfl, echoes.made id compiler⟩
    | error failure => exact ⟨rfl, echoes⟩
  | request id request => exact answered (echoes.request ⟨echoes.database, regular, refuses⟩ id request)
  | lookup question => exact answered (echoes.lookup regular question)
  | helpers => exact answered (echoes.onTables .names (even_listHelpers _ _ echoes.database))
  | bind pattern => exact answered ⟨rfl, echoes⟩
  | close => exact answered ⟨rfl, echoes.path, rfl, echoes.compilers, echoes.database⟩

def unrefused (session : Session) (steps : List Step) : List (Session × Step) :=
  (session.course steps).filter fun turn => (turn.1.refusals turn.2).isEmpty

theorem course_unrefused (reachable : Reachable (fun _ => True) one) (echoes : one.Echoes other) (steps : List Step)
    (guarded : ∀ turn ∈ one.course steps, turn.1.database.Guarded) :
    List.Forall₂ (fun turn also => also.2 = turn.2 ∧ Alike turn.2 (turn.1.step turn.2).1 (also.1.step also.2).1)
      (one.unrefused steps) (other.course ((one.unrefused steps).map Prod.snd)) := by
  induction steps generalizing one other with
  | nil => exact .nil
  | cons next steps ih =>
    obtain ⟨guard, rest⟩ := List.forall_mem_cons.1 guarded
    have regular := (reachable.has Database.Regular.outlasting).database
    have later : Reachable (fun _ => True) (one.step next).2.2 := .step reachable next trivial
    cases refused : one.refusals next with
    | nil =>
      obtain ⟨alike, after⟩ := echoes.step regular guard.refuses next
      have kept : one.unrefused (next :: steps) = (one, next) :: (one.step next).2.2.unrefused steps := by
        unfold unrefused
        rw [course, List.filter_cons_of_pos (by simp [refused])]
      rw [kept]
      exact .cons ⟨rfl, alike⟩ (ih later after rest)
    | cons purpose others =>
      have stopped : purpose ∈ one.refusals next := by simp [refused]
      have noting := (reachable.has Database.Noting.outlasting).database
      have before := echoes_refused regular noting guard stopped
      have dropped : one.unrefused (next :: steps) = (one.step next).2.2.unrefused steps := by
        unfold unrefused
        rw [course, List.filter_cons_of_neg (by simp [refused])]
      rw [dropped]
      exact ih later (before.trans echoes) rest

/-- In any history of a session, a call in which a lock of the main schema refuses something fails with that
refusal: the engine says that the database is locked, or the private probe could not be made for that reason,
as long as the catalog is not known. If a lock guards the main schema, the history without these calls is answered
as before, but for the words in which the temporary schema is not detached. -/
theorem refused_calls (reachable : Reachable (fun _ => True) session) (steps : List Step) :
    (∀ turn ∈ session.course steps, ∀ purpose ∈ turn.1.refusals turn.2,
      (turn.1.step turn.2).1 = .error (refusal purpose) ∧
      (purpose = .creation → turn.1.database.isRead = false ∧ ∃ id request compiler columns,
        turn.2 = .request id request ∧ turn.1.compiler? id = some compiler ∧
        compiler.validator.probe = .helper columns ∧ compiler.validator.target = none)) ∧
    ((∀ turn ∈ session.course steps, turn.1.database.Guarded) →
      List.Forall₂ (fun turn also => also.2 = turn.2 ∧ Alike turn.2 (turn.1.step turn.2).1 (also.1.step also.2).1)
        (session.unrefused steps) (session.course ((session.unrefused steps).map Prod.snd))) := by
  refine ⟨?_, fun guarded => course_unrefused reachable (.refl session) steps guarded⟩
  induction steps generalizing session with
  | nil => exact List.forall_mem_nil _
  | cons next steps ih =>
    refine List.forall_mem_cons.2 ⟨fun purpose refused => ?_, ih (.step reachable next trivial)⟩
    exact step_refused (reachable.has Database.Regular.outlasting).database refused

theorem Reachable.course (reachable : Reachable (fun _ => True) session) (steps : List Step) :
    ∀ turn ∈ session.course steps, Reachable (fun _ => True) turn.1 := by
  induction steps generalizing session with
  | nil => exact List.forall_mem_nil _
  | cons next steps ih => exact List.forall_mem_cons.2 ⟨reachable, ih (.step reachable next trivial)⟩

-- A file that is opened anew, locked, read, and locked again.
theorem refused_calls_books :
    ∃ (session : Session) (steps : List Step), session = { path := "books.db", database :=
        (Session.after { path := "books.db" }
          [.build (.createFullText "main" "books" ["title"] [] fullTextClause)]).database.reopened } ∧
      steps = [.create "p" {}, .create "t" { probeTable := some "books" }, .build .lock,
        .request "p" (.compile "a"), .lookup (.resolve "books" none), .build .unlock,
        .request "t" (.compile "a"), .build .lock, .request "t" (.compile "b"), .request "p" (.compile "a"),
        .build .unlock, .request "t" (.deserialize "a")] ∧
      (session.course steps).map (fun turn => turn.1.refusals turn.2) =
        [[], [], [], [.creation], [.lookup], [], [], [], [.query], [], [], []] ∧
      (session.course steps).map (fun turn => (turn.1.step turn.2).1) = [.ok .nothing, .ok .nothing, .ok .nothing,
        .error (.diagnostic (.probeNotCreated .busy)), .error (.engine .busy), .ok .nothing,
        .ok (.pattern (some ⟨"a"⟩)), .ok .nothing, .error (.engine .busy), .ok (.pattern (some ⟨"a"⟩)),
        .ok .nothing, .ok (.pattern (some ⟨"a"⟩))] ∧
      (∀ turn ∈ session.course steps, turn.1.database.Guarded) ∧
      List.Forall₂ (fun turn also => also.2 = turn.2 ∧ Alike turn.2 (turn.1.step turn.2).1 (also.1.step also.2).1)
        (session.unrefused steps) (session.course ((session.unrefused steps).map Prod.snd)) := by
  refine ⟨_, _, rfl, rfl, ?_⟩
  generalize books : ({ path := "books.db", database := (Session.after { path := "books.db" }
    [.build (.createFullText "main" "books" ["title"] [] fullTextClause)]).database.reopened } : Session) = session
  generalize history : ([_, _, _, _, _, _, _, _, _, _, _, _] : List Step) = steps
  have reachable : Reachable (fun _ => True) session := by
    rw [← books]
    exact .reopened _ (.after (.opened _) fun _ _ => trivial)
  obtain ⟨refused, answers, plain⟩ :
      (session.course steps).map (fun turn => turn.1.refusals turn.2) =
        [[], [], [], [.creation], [.lookup], [], [], [], [.query], [], [], []] ∧
      (session.course steps).map (fun turn => (turn.1.step turn.2).1) = [.ok .nothing, .ok .nothing, .ok .nothing,
        .error (.diagnostic (.probeNotCreated .busy)), .error (.engine .busy), .ok .nothing,
        .ok (.pattern (some ⟨"a"⟩)), .ok .nothing, .error (.engine .busy), .ok (.pattern (some ⟨"a"⟩)),
        .ok .nothing, .ok (.pattern (some ⟨"a"⟩))] ∧
      ∀ turn ∈ session.course steps, (∀ table ∈ turn.1.database.temp.tables, table.isView = false) ∧
        ∀ wording ∈ turn.1.database.sound, wording = [(Statement.matchProbe (.located "main" "books") "").text] ∧
          (turn.1.database.locate "main" "books").toOption.any (fun found => found.2.isFullText &&
            !turn.1.database.unopened.contains (turn.1.database.main.name, found.2.name)) = true := by
    rw [← books, ← history]
    decide +kernel
  have guarded : ∀ turn ∈ session.course steps, turn.1.database.Guarded := by
    intro turn member
    have regular := ((reachable.course steps turn member).has Database.Regular.outlasting).database
    refine .of_noted regular (plain turn member).1 fun target expression noted => ?_
    obtain ⟨same, known⟩ := (plain turn member).2 _ noted
    obtain rfl := Statement.target_of_text (List.singleton_inj.1 same)
    cases located : turn.1.database.locate "main" "books" with
    | error fault =>
      rw [located] at known
      cases known
    | ok found =>
      obtain ⟨home, held⟩ := found
      have inside : turn.1.database.main ∈ turn.1.database.schemas := by simp [Database.schemas]
      have main := regular.schema?_eq inside
      rw [regular.main] at main
      obtain rfl := Option.some.inj (main.symm.trans (Database.locate_eq_ok located).1)
      rw [located] at known
      simp only [Except.toOption, Option.any_some, Bool.and_eq_true, Bool.not_eq_eq_eq_not, Bool.not_true] at known
      exact ⟨held, located, known.1, by simpa using known.2⟩
  exact ⟨refused, answers, guarded, (refused_calls reachable steps).2 guarded⟩

end Session

end TextQuery
