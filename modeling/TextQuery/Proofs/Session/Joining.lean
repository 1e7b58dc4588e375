import TextQuery.Proofs.Candidate
import TextQuery.Proofs.Engine.Agreeing
import TextQuery.Proofs.Session.Repeated

set_option autoImplicit false

namespace TextQuery

open Engine Engine.Change Expression Candidate

namespace Engine.Change

theorem search_chain (home table : String) (index : FullText) (operator other : Operator) (first : Query)
    (rest : List Query) : search home table index (.chain operator first rest) =
      search home table index (.chain other first rest) := by
  unfold search FullText.hasWords
  rw [phrases_chain operator other rfl rest]

theorem matchProbe_joined (target : Target) (first : String) (rest : List String) :
    matchProbe target (joinAny (first :: rest)) = matchProbe target (joinAll (first :: rest)) := by
  unfold matchProbe
  refine bind_congr fun located => ?_
  obtain ⟨home, held⟩ := located
  cases body : held.body with
  | ordinary | splitter | view | catalog => simp only [body]; rfl
  | fullText index =>
    simp only [body]
    refine bind_congr fun _ => ?_
    rcases joined_alike index.scope first rest with ⟨fault, any, all⟩ | ⟨-, read⟩
    · rw [any, all]
    · rw [read .or _ (toList_joinAny _), read .and _ (toList_joinAll _)]
      exact search_chain home.name held.name index .or .and _ _

theorem answer_joined (target : Target) (first : String) (rest : List String) :
    answer (.matchProbe target (joinAny (first :: rest))) =
      answer (.matchProbe target (joinAll (first :: rest))) := by
  simp only [answer, respond, matchProbe_joined]
  rfl

-- What a full-text table accepts is not cut off anywhere.
theorem clean_of_answer {target : Target} {first : String} {rest : List String} {before after : Database}
    {home : Schema} {held : Table} {index : FullText}
    (done : answer (.matchProbe target (joinAny (first :: rest))) before = (.ok (), after))
    (located : after.locate target.schema target.table = .ok (home, held))
    (body : held.body = .fullText index) : holdsNul (first :: rest) = false := by
  obtain ⟨writable, admits⟩ := begun_of_answer done
  rw [match_eq writable admits] at done
  unfold matching at done
  obtain ⟨_, read, -, done⟩ := bind_eq_ok done
  obtain ⟨_, opened, -, done⟩ := bind_eq_ok done
  obtain ⟨retains, -⟩ := repeats_matchProbe _ _ _ _ _ done
  rw [retains.toFollows.locate] at located
  have found : find (fun database => database.locate target.schema target.table) opened =
      (.ok (home, held), opened) := Prod.ext located rfl
  unfold matchProbe at done
  rw [bind_ok _ found] at done
  simp only [body] at done
  obtain ⟨_, begun, -, done⟩ := bind_eq_ok done
  obtain ⟨query, answered, read, -⟩ := bind_eq_ok done
  rcases joined_alike index.scope first rest with ⟨fault, refused, -⟩ | ⟨clean, -⟩
  · rw [refused] at read
    cases read
  · exact clean

end Engine.Change

/-- Two outcomes of one kind: nothing, patterns of the same words, one failure, or one fault that is found in
two expressions. -/
inductive Alike : Except Failure (Option Pattern) → Except Failure (Option Pattern) → Prop where
  | nothing : Alike (.ok none) (.ok none)
  | patterns (first : String) (rest : List String) :
    Alike (.ok (some ⟨joinAny (first :: rest)⟩)) (.ok (some ⟨joinAll (first :: rest)⟩))
  | failure (failure : Failure) : Alike (.error failure) (.error failure)
  | rejected (one other : String) (fault : Fault) :
    Alike (.error (.diagnostic (.rejected one fault))) (.error (.diagnostic (.rejected other fault)))

open Run

theorem Validator.judge_alike (validator : Validator) (target : Target) (first : String) (rest : List String)
    (answer : Except Fault Unit) :
    let one := validator.judge target (joinAny (first :: rest)) answer
    let other := validator.judge target (joinAll (first :: rest)) answer
    Alike (one.1.map some) (other.1.map some) ∧ one.2 = other.2 := by
  cases answer with
  | ok _ => exact ⟨.patterns first rest, rfl⟩
  | error fault =>
    cases classified : FaultClass.of fault with
    | schema | other =>
      simp only [judge, classified, and_true]
      exact .failure _
    | grammar =>
      simp only [judge, classified, and_true]
      exact .rejected _ _ fault

theorem Validator.agree_validate (validator : Validator) (first : String) (rest : List String) :
    Agree Eq (fun one other => Alike (one.1.map some) (other.1.map some) ∧ one.2 = other.2)
      (validator.validate (joinAny (first :: rest)) : Run Database _)
      (validator.validate (joinAll (first :: rest))) := by
  intro one other engines
  obtain ⟨⟨same, -⟩, found⟩ := validator.agrees_findTarget (fun _ _ => agreed_eq _) (fun _ => agreed_eq _) one other engines
  cases find : validator.findTarget.run one with
  | mk answer after =>
    cases also : validator.findTarget.run other with
    | mk answered later =>
      rw [find, also] at same found
      obtain rfl : answer = answered := same
      cases answer with
      | error failure =>
        rw [validate_lost _ find, validate_lost _ also]
        exact ⟨⟨.failure failure, rfl⟩, found⟩
      | ok target =>
        obtain ⟨judged, engine⟩ := validate_found (joinAny (first :: rest)) find
        obtain ⟨judgedAlso, engineAlso⟩ := validate_found (joinAll (first :: rest)) also
        have answers : Engine.answer (.matchProbe target (joinAny (first :: rest))) after.engine =
            Engine.answer (.matchProbe target (joinAll (first :: rest))) later.engine := by
          rw [show after.engine = later.engine from found]
          exact congrFun (answer_joined target first rest) later.engine
        rw [judged, judgedAlso, engine, engineAlso, answers]
        exact ⟨validator.judge_alike target first rest _, rfl⟩

theorem texts_cons_ne_nil (mode : Mode) (token : Cell) (tokens : List Cell) :
    texts mode (token :: tokens) ≠ .ok [] := by
  unfold texts
  rw [List.mapM_cons]
  intro told
  cases token with
  | text word =>
    simp only [bind, Except.bind] at told
    split at told <;> cases told
  | null | int | real | blob => cases told

theorem Compiler.agree_validate (compiler : Compiler) (first : String) (rest : List String) :
    Agree Eq (fun one other => Alike (one.1.map some) (other.1.map some) ∧ one.2 = other.2)
      (compiler.validate (joinAny (first :: rest)) : Run Database _)
      (compiler.validate (joinAll (first :: rest))) := by
  refine agree_bind (compiler.validator.agree_validate first rest) ?_
  rintro ⟨result, validator⟩ ⟨other, _⟩ ⟨alike, rfl⟩
  exact agree_pure ⟨alike, rfl⟩

theorem agree_build (tokenizer : Tokenizer) (text : String) :
    Agree Eq (fun one other => one.2 = other.2 ∧
        ((∃ failure, one.1 = .error failure ∧ other.1 = .error failure) ∨
          (one.1 = .ok none ∧ other.1 = .ok none) ∨
          ∃ first rest, one.1 = .ok (some (joinAny (first :: rest))) ∧
            other.1 = .ok (some (joinAll (first :: rest)))))
      (build Tokenizer.tokenize tokenizer .any text : Run Database _)
      (build Tokenizer.tokenize tokenizer .all text) := by
  refine agree_bind (tokenizer.agree_tokenize _ (agreed_eq _) fun _ _ => agreed_eq _) ?_
  rintro ⟨answer, later⟩ _ rfl
  cases answer with
  | error failure => exact agree_pure ⟨rfl, .inl ⟨failure, rfl, rfl⟩⟩
  | ok tokens =>
    cases tokens with
    | nil => exact agree_record_bind (agree_pure ⟨rfl, .inr (.inl ⟨rfl, rfl⟩)⟩)
    | cons token tokens =>
      refine agree_pure ⟨rfl, ?_⟩
      have same : texts .all (token :: tokens) = texts .any (token :: tokens) := rfl
      rw [same]
      cases told : texts .any (token :: tokens) with
      | error fault => exact .inl ⟨.token fault, rfl, rfl⟩
      | ok words =>
        cases words with
        | nil => exact absurd told (texts_cons_ne_nil .any token tokens)
        | cons first rest => exact .inr (.inr ⟨first, rest, rfl, rfl⟩)

theorem Compiler.agree_compileMode (compiler : Compiler) (text : String) :
    Agree Eq (fun one other => Alike one.1 other.1 ∧ one.2 = other.2)
      (compiler.compileMode .any text : Run Database _) (compiler.compileMode .all text) := by
  refine agree_bind (agree_build compiler.tokenizer text) ?_
  rintro ⟨candidate, tokenizer⟩ ⟨other, _⟩ ⟨rfl, made⟩
  rcases made with ⟨failure, rfl, rfl⟩ | ⟨rfl, rfl⟩ | ⟨first, rest, rfl, rfl⟩
  · exact agree_pure ⟨.failure failure, rfl⟩
  · exact agree_pure ⟨.nothing, rfl⟩
  · refine agree_record_bind (agree_bind (Compiler.agree_validate _ first rest) ?_)
    rintro ⟨result, later⟩ ⟨other, _⟩ ⟨alike, rfl⟩
    exact agree_pure ⟨alike, rfl⟩

namespace Session

variable {session : Session} {id : String} {compiler : Compiler}

/-- The compiler of a name has found its probe, and this is a full-text table. -/
def FindsFullText (session : Session) (id : String) : Prop :=
  ∃ compiler target home held index, session.compiler? id = some compiler ∧
    compiler.validator.target = some target ∧
    session.database.locate target.schema target.table = .ok (home, held) ∧ held.body = .fullText index

theorem map_pattern {made : Except Failure (Option Pattern)} {pattern : Pattern}
    (answered : made.map Answer.pattern = .ok (.pattern (some pattern))) : made = .ok (some pattern) := by
  cases made with
  | error failure => cases answered
  | ok found =>
    cases answered
    rfl

theorem step_mode (running : session.isClosed = false) (found : session.compiler? id = some compiler)
    (request : Request) (mode : Mode) (text : String)
    (asks : (request.run compiler : Run Database _) =
      Request.patternAnswer (compiler.compileMode mode text)) :
    let made := compiler.compileMode mode text { engine := session.database }
    (session.step (.request id request)).1 = made.1.1.map .pattern ∧
      (session.step (.request id request)).2.2 =
        { session with database := made.2.engine }.setCompiler id made.1.2 := by
  obtain ⟨answered, after⟩ := step_request running found request
  rw [asks] at answered after
  exact ⟨answered, after⟩

-- A full-text table has taken the pattern as it stands, so none of its words is cut off.
theorem clean_of_takes {pattern : Pattern} {database : Database} {first : String} {rest : List String}
    (takes : compiler.Takes pattern database) (text : pattern.text = joinAny (first :: rest))
    {target : Target} {home : Schema} {held : Table} {index : FullText}
    (finding : compiler.validator.target = some target ∧
      database.locate target.schema target.table = .ok (home, held) ∧ held.body = .fullText index) :
    ∀ token ∈ first :: rest, '\x00' ∉ token.toList := by
  obtain ⟨known, located, body⟩ := finding
  obtain ⟨same, held, accepts⟩ := takes
  obtain rfl : target = same := Option.some.inj (known.symm.trans held)
  obtain ⟨last, answered, retains, -⟩ := accepts.answer_ok
  rw [text] at answered
  rw [← retains.toFollows.locate] at located
  have clean := clean_of_answer answered located body
  rw [← Bool.not_eq_true, holdsNul_iff] at clean
  exact fun token member nul => clean ⟨token, member, nul⟩

/-- From one state of a session, a compiler comes to the same outcome under either operator: no pattern, two
patterns, the same failure, or the same fault found in both expressions. It leaves the same session either
way. If its probe is a full-text table, the two patterns are read as the same strings in the same order,
joined by the one operator and by the other. Of an index with segments that were written by hand nothing is said:
there the engine may find the words of one expression and fail for the other. -/
theorem any_all_alike (found : session.compiler? id = some compiler)
    (_spared : session.SparesProbe compiler.validator) (text : String) :
    let any := session.step (.request id (.compileAny text))
    let all := session.step (.request id (.compileAll text))
    any.2.2 = all.2.2 ∧
    (∃ one other, any.1 = one.map .pattern ∧ all.1 = other.map .pattern ∧ Alike one other) ∧
    (any.2.2.FindsFullText id → ∀ one other, any.1 = .ok (.pattern (some one)) →
      all.1 = .ok (.pattern (some other)) → ∃ (first : String) (rest : List String), ∀ scope,
        Reads scope one.text
          (.chain .or (.ofString first.toList) (rest.map fun token => .ofString token.toList)) ∧
        Reads scope other.text
          (.chain .and (.ofString first.toList) (rest.map fun token => .ofString token.toList))) := by
  intro any all
  cases closed : session.isClosed with
  | true =>
    have failed (request : Request) : session.step (.request id request) =
        (.error (.closed session.path), [], session) := by
      simp [step, closed, Step.isClose]
    have first : any = _ := failed (.compileAny text)
    have second : all = _ := failed (.compileAll text)
    rw [first, second]
    exact ⟨rfl, ⟨_, _, rfl, rfl, .failure _⟩, fun _ _ _ made => by cases made⟩
  | false =>
    obtain ⟨anyAnswer, anyAfter⟩ := step_mode closed found (.compileAny text) .any text rfl
    obtain ⟨allAnswer, allAfter⟩ := step_mode closed found (.compileAll text) .all text rfl
    have takes := Compiler.gives_mode_taking compiler .any text { engine := session.database } trivial
    obtain ⟨⟨alike, same⟩, engines⟩ :=
      compiler.agree_compileMode text { engine := session.database } { engine := session.database } rfl
    generalize compiler.compileMode .any text { engine := session.database } = one at *
    generalize compiler.compileMode .all text { engine := session.database } = other at *
    refine ⟨?_, ⟨one.1.1, other.1.1, anyAnswer, allAnswer, alike⟩, ?_⟩
    · exact anyAfter.trans (by rw [same, engines]; exact allAfter.symm)
    · intro finds p q made also
      rw [show any.2.2 = _ from anyAfter] at finds
      obtain ⟨later, target, home, held, index, known, finding⟩ := finds
      rw [compiler?_setCompiler] at known
      cases known
      have takes := takes p (map_pattern (anyAnswer.symm.trans made))
      rw [map_pattern (anyAnswer.symm.trans made), map_pattern (allAnswer.symm.trans also)] at alike
      cases alike with
      | patterns first rest =>
        have clean := clean_of_takes takes rfl finding
        refine ⟨first, rest, fun scope => ⟨?_, ?_⟩⟩
        · exact reads_joined scope .or first rest (toList_joinAny _) clean
        · exact reads_joined scope .and first rest (toList_joinAll _) clean

-- A table of the caller whose index keeps no more than the rows of words.
theorem any_all_alike_located :
    ∃ session any all, session = fresh.after
        [.build (.createFullText "main" "f" ["a"] ["detail='none'"] fullTextClause),
          .create "c" { probeTable := some "f" }] ∧
      any = session.step (.request "c" (.compileAny "one two")) ∧
      all = session.step (.request "c" (.compileAll "one two")) ∧
      any.1 = .ok (.pattern (some ⟨"one OR two"⟩)) ∧ all.1 = .ok (.pattern (some ⟨"one AND two"⟩)) ∧
      any.2.2 = all.2.2 ∧ ∃ (first : String) (rest : List String), ∀ scope,
        Reads scope "one OR two"
          (.chain .or (.ofString first.toList) (rest.map fun token => .ofString token.toList)) ∧
        Reads scope "one AND two"
          (.chain .and (.ofString first.toList) (rest.map fun token => .ofString token.toList)) := by
  refine ⟨_, _, _, rfl, rfl, rfl, ?_⟩
  generalize made : fresh.after [.build (.createFullText "main" "f" ["a"] ["detail='none'"] fullTextClause),
    .create "c" { probeTable := some "f" }] = session
  obtain ⟨found, any, all, known, isFullText⟩ :
      session.compiler? "c" = some ⟨{ choice := ⟨"simple", []⟩ }, { probe := .table "f" none }⟩ ∧
      (session.step (.request "c" (.compileAny "one two"))).1 = .ok (.pattern (some ⟨"one OR two"⟩)) ∧
      (session.step (.request "c" (.compileAll "one two"))).1 = .ok (.pattern (some ⟨"one AND two"⟩)) ∧
      ((session.step (.request "c" (.compileAny "one two"))).2.2.compiler? "c").map
        (fun compiler => compiler.validator.target) = some (some (.located "main" "f")) ∧
      ((session.step (.request "c" (.compileAny "one two"))).2.2.database.locate "main" "f").toOption.any
        (fun located => located.2.isFullText) = true := by
    rw [← made]
    decide +kernel
  have spared : Reachable (Step.SparesSegments none "f") session := by
    rw [← made]
    refine .after (.opened _) ?_
    rintro next (_ | ⟨_, _ | ⟨_, ⟨⟩⟩⟩)
    · exact fun _ => by decide
    · trivial
  obtain ⟨same, -, read⟩ := any_all_alike found spared "one two"
  obtain ⟨after, known, target⟩ := Option.map_eq_some_iff.1 known
  have finds : (session.step (.request "c" (.compileAny "one two"))).2.2.FindsFullText "c" := by
    cases located : (session.step (.request "c" (.compileAny "one two"))).2.2.database.locate "main" "f" with
    | error fault =>
      rw [located] at isFullText
      cases isFullText
    | ok place =>
      rw [located] at isFullText
      cases body : place.2.body with
      | fullText index => exact ⟨after, _, place.1, place.2, index, known, target, located, body⟩
      | ordinary | splitter | view | catalog =>
        simp [Except.toOption, Table.isFullText, body] at isFullText
  exact ⟨any, all, same, read finds _ _ any all⟩

end Session

end TextQuery
