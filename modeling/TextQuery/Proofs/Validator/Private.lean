import TextQuery.Proofs.Engine.Failing
import TextQuery.Proofs.Validator.Live

set_option autoImplicit false

namespace TextQuery

open Engine Engine.Change Text

namespace Fault

theorem not_isGrammar_of_kind {fault : Fault} (other : fault.kind ≠ .operational) : ¬fault.IsGrammar :=
  fun grammar => other grammar.1

theorem not_isGrammar_of_start {fault : Fault} {start : String}
    (starts : start.toList <+: fault.message.toList)
    (apart : ∀ beginning ∈ FaultClass.grammarBeginnings,
      ¬(beginning.toList <+: start.toList ∨ start.toList <+: beginning.toList)) : ¬fault.IsGrammar := by
  intro grammar
  obtain ⟨beginning, member, comparable⟩ := Begins.comparable grammar starts
  exact apart beginning member comparable

end Fault

-- What a database says of its own state is never about an expression.
theorem covers_of_not_isGrammar {Q : Fault → Prop} (foreign : ∀ fault : Fault, ¬fault.IsGrammar → Q fault) :
    Covers Q where
  nulInText := foreign _ (Fault.not_isGrammar_of_kind (by decide))
  busy := foreign _ (Fault.not_isGrammar_of_start List.prefix_rfl (by decide))
  notADatabase := foreign _ (Fault.not_isGrammar_of_kind (by decide))
  malformedImage := foreign _ (Fault.not_isGrammar_of_kind (by decide))
  logicError := foreign _ (Fault.not_isGrammar_of_start List.prefix_rfl (by decide))
  unknownDatabase name :=
    foreign _ (Fault.not_isGrammar_of_start (prefix_append List.prefix_rfl name) (by decide))
  noSuchTable schema table := by
    have starts : "no such table: ".toList <+: (Fault.noSuchTable schema table).message.toList :=
      prefix_append (prefix_append (prefix_append List.prefix_rfl schema) ".") table
    exact foreign _ (Fault.not_isGrammar_of_start starts (by decide))
  constructorFailed table :=
    foreign _ (Fault.not_isGrammar_of_start (prefix_append List.prefix_rfl table) (by decide))
  damagedIndex table := foreign _ (Fault.not_isGrammar_of_kind (by simp [Schema.damagedIndex, Fault.malformedImage]))
  badVersion version fault failed := by
    unfold Schema.checkVersion at failed
    split at failed
    · cases failed
    · cases failed
      have starts : "invalid fts5 file format (found ".toList <+:
          ("invalid fts5 file format (found " ++ toString version ++ ", expected " ++
            toString Schema.formatVersion ++ ") - run 'rebuild'").toList :=
        prefix_append (prefix_append (prefix_append (prefix_append List.prefix_rfl _) _) _) _
      exact foreign _ (Fault.not_isGrammar_of_start starts (by decide))

namespace Validator

variable {columns : List String} {database : Database}

theorem writable_matchHelper (columns : List String) (expression : String) :
    Writable (Statement.matchProbe (.helper (helper columns)) expression).text := by
  have family : Writable Validator.family := by
    unfold Writable
    decide
  have schema : Writable (Target.helper (helper columns)).schema := by
    unfold Writable
    rw [Target.schema]
    decide
  exact writable_matchProbe schema (writable_helperName family _) expression

theorem admits_matchHelper (kept : database.Kept) (columns : List String) (expression : String) :
    database.Admits [(Statement.matchProbe (.helper (helper columns)) expression).text] := by
  have words : "SELECT rowid FROM temp.".toList = "SELECT rowid FROM ".toList ++ "temp.".toList := by decide
  have source : "SELECT rowid FROM temp.".toList <+:
      ("SELECT rowid FROM " ++ Statement.source (.helper (helper columns))).toList := by
    rw [words, String.toList_append]
    exact (List.prefix_append_right_inj _).2 (prefix_append List.prefix_rfl _)
  have begins : "SELECT rowid FROM temp.".toList <+:
      (Statement.matchProbe (.helper (helper columns)) expression).text.toList :=
    prefix_append (prefix_append (prefix_append source " WHERE ") _) " MATCH ?"
  exact kept.admits begins (by decide)

theorem locate_missing (kept : database.Kept) (missing : ¬There columns database) :
    database.locate (Target.helper (helper columns)).schema (Target.helper (helper columns)).table =
      .error (.noSuchTable "temp" (helper columns)) := by
  have absent : database.temp.find? (helper columns) = none := by
    rw [find?_private (isPrivate_probe columns)]
    exact List.find?_eq_none.2 fun table member same => missing ⟨table, member, by simpa using same⟩
  unfold Database.locate Database.schemaOr
  rw [Target.schema, Target.table, kept.schema?_temp]
  simp only [bind, Except.bind, absent]
  rfl

theorem answer_match_missing (kept : database.Kept) (readable : database.Readable)
    (missing : ¬There columns database) (expression : String) :
    (Engine.answer (.matchProbe (.helper (helper columns)) expression) database).1 =
      .error (.noSuchTable "temp" (helper columns)) := by
  obtain ⟨ready, follows, -, answered⟩ := answer_eq rfl (by simp [Database.pragmaSchema?]) (writable_matchHelper columns expression)
    (admits_matchHelper kept columns expression) readable
  have located : ready.locate (Target.helper (helper columns)).schema
      (Target.helper (helper columns)).table = .error (.noSuchTable "temp" (helper columns)) :=
    (follows.locate _ _).trans (locate_missing kept missing)
  have opening : openTarget (.matchProbe (.helper (helper columns)) expression) ready = (.ok (), ready) := by
    change (get >>= _ : Change Unit) ready = _
    rw [bind_get, located]
    rfl
  have responding : respond (.matchProbe (.helper (helper columns)) expression) ready =
      (.error (.noSuchTable "temp" (helper columns)), ready) := matchProbe_missing located expression
  change (Change.answer _ database).1 = _
  rw [answered, bind_ok _ opening, responding]

/-- A table with all details that refuses an expression. -/
def Refused (expression : String) : Prop :=
  ∃ scope : Expression.Scope, scope.detail = .full ∧ Expression.check scope expression ≠ .ok ()

-- Only what the parser says of an expression reads like a fault of the expression.
theorem failsWith_matchHelper (columns : List String) (expression : String) :
    FailsWith Database.Kept (fun fault => fault.IsGrammar → Refused expression)
      (Change.answer (.matchProbe (.helper (helper columns)) expression)) := by
  have covers : Covers fun fault => fault.IsGrammar → Refused expression :=
    covers_of_not_isGrammar fun _ noGrammar grammar => absurd grammar noGrammar
  refine failsWith_answer covers Database.Kept.lasting.toSteady rfl ?_
  intro database fault after kept failed
  have indifferent : Indifferent fun _ : Database => True :=
    ⟨fun _ _ _ _ _ => trivial, fun _ => trivial, fun _ _ => trivial⟩
  have always := indifferent.steady
  have failed : matchProbe (.helper (helper columns)) expression database = (.error fault, after) := failed
  cases located : database.locate (Target.helper (helper columns)).schema
      (Target.helper (helper columns)).table with
  | error other =>
    rw [matchProbe_missing located] at failed
    cases failed
    rw [Database.locate_eq_error located]
    exact covers.noSuchTable _ _
  | ok found =>
    obtain ⟨home, held⟩ := found
    have there := located
    rw [Target.schema, Target.table] at there
    obtain ⟨-, member, same⟩ := kept.of_locate (isPrivate_probe columns) there
    obtain ⟨index, body, plain⟩ := kept.helpers.probe columns held member same
    rw [matchProbe_fullText located body] at failed
    refine failsWith_bind (P := fun _ => True) (fun _ _ => trivial) (failsWith_start covers _ _) ?_
      database fault after trivial failed
    intro _
    refine failsWith_bind (fun _ _ => trivial) (failsWith_lift ?_) fun query =>
      failsWith_option_forM fun found _ => failsWith_search covers always _ _ index found
    intro fault refused _
    refine ⟨index.scope, plain.detail, ?_⟩
    rw [Expression.check]
    cases read : Expression.query? index.scope expression with
    | ok query =>
      rw [read] at refused
      cases refused
    | error _ => simp [bind, Except.bind]

variable {validator : Validator} {world : World Database}

theorem Faithful.target_eq (faithful : validator.Faithful) (probe : validator.probe = .helper columns)
    {target : Target} (known : validator.target = some target) : target = .helper (helper columns) := by
  have fits := faithful target known
  rw [probe] at fits
  exact fits

theorem findTarget_private (faithful : validator.Faithful) (probe : validator.probe = .helper columns)
    (kept : world.engine.Kept) :
    (∃ found, validator.findTarget.run world = (.ok (.helper (helper columns)), found) ∧
      found.engine.Kept) ∨
    ∃ failure after, validator.findTarget.run world = (.error failure, after) ∧
      ∀ found rejected, failure = .diagnostic found → found.subject ≠ .grammar rejected := by
  cases known : validator.target with
  | some target =>
    cases faithful.target_eq probe known
    exact .inl ⟨world, findTarget_held world known, kept⟩
  | none =>
    obtain ⟨journal, find⟩ := findTarget_helper world probe known
    have keptAfter := Database.Kept.outlasting.watched (.createProbe (helper columns) columns) rfl _ kept
    cases answered : Engine.answer (.createProbe (helper columns) columns) world.engine with
    | mk answer after =>
      rw [answered] at find keptAfter
      cases answer with
      | ok _ => exact .inl ⟨_, find, keptAfter⟩
      | error fault =>
        dsimp only at find
        split at find
        · refine .inr ⟨_, _, find, ?_⟩
          rintro found rejected same
          cases same
          simp [Diagnostic.probeNotCreated, Diagnostic.schema, Diagnostic.plain]
        · refine .inr ⟨_, _, find, ?_⟩
          rintro found rejected same
          cases same

theorem refused_of_grammar (faithful : validator.Faithful) (probe : validator.probe = .helper columns)
    (kept : world.engine.Kept) {expression rejected : String} {found : Diagnostic}
    (answer : ((validator.validate expression) world).1.1 = .error (.diagnostic found))
    (grammar : found.subject = .grammar rejected) : Refused expression := by
  rcases findTarget_private faithful probe kept with ⟨middle, find, keptMiddle⟩ | ⟨failure, after, find, other⟩
  · have judged : ((validator.validate expression) world).1.1 =
        (validator.judge (.helper (helper columns)) expression
          (Engine.answer (.matchProbe (.helper (helper columns)) expression) middle.engine).1).1 :=
      congrArg Prod.fst (validate_found expression find).1
    rw [judged] at answer
    obtain ⟨fault, matched, isGrammar⟩ := judge_grammar answer grammar
    exact (failsWith_matchHelper columns expression).answered keptMiddle matched isGrammar
  · rw [validate_lost expression find] at answer
    cases answer
    exact absurd grammar (other found rejected rfl)

theorem validate_missing (kept : world.engine.Kept) (readable : world.engine.Readable)
    (known : validator.target = some (.helper (helper columns)))
    (missing : ¬There columns world.engine) (expression : String) :
    ((validator.validate expression) world).1.1 =
      .error (.diagnostic (.noSuchTableIn "temp" (helper columns))) := by
  rw [(validate_found expression (findTarget_held world known)).1, answer_match_missing kept readable missing]
  have schema : FaultClass.of (.noSuchTable "temp" (helper columns)) = .schema := by
    have starts : "no such table".toList <+: (Fault.noSuchTable "temp" (helper columns)).message.toList :=
      prefix_append (prefix_append (prefix_append (by decide) "temp") ".") (helper columns)
    exact FaultClass.of_eq_schema.2 ⟨rfl, "no such table", by simp, startsWith_iff.2 starts⟩
  simp only [judge, schema]
  rfl

theorem validate_private (creatable : Creatable columns) (faithful : validator.Faithful)
    (probe : validator.probe = .helper columns) (whole : world.engine.Whole)
    (readable : world.engine.Readable) (there : validator.target.isSome = true → There columns world.engine) :
    ∃ index : FullText, index.IsPlain ∧
      ∀ expression, ((validator.validate expression) world).1.1 = verdict index.scope expression := by
  have decided {found : World Database} (whole : found.engine.Whole) (readable : found.engine.Readable)
      (there : There columns found.engine)
      (find : validator.findTarget.run world = (.ok (.helper (helper columns)), found)) :
      ∃ index : FullText, index.IsPlain ∧
        ∀ expression, ((validator.validate expression) world).1.1 = verdict index.scope expression := by
    obtain ⟨held, entry⟩ := there.find?
    obtain ⟨index, plain, live⟩ := whole.live entry
    refine ⟨index, plain, ?_⟩
    intro expression
    exact validate_target (writable_matchHelper columns expression)
      (admits_matchHelper whole.toKept columns expression) readable live find
  cases known : validator.target with
  | some target =>
    cases faithful.target_eq probe known
    exact decided whole readable (there (by simp [known])) (findTarget_held world known)
  | none =>
    obtain ⟨declared, declares⟩ := creatable.declares
    obtain ⟨after, created, thereAfter, readableAfter⟩ :=
      createProbe_there declares whole.toKept readable
    have wholeAfter : after.Whole := by
      have kept := Database.Whole.outlasting.watched (.createProbe (helper columns) columns) rfl _ whole
      rwa [created] at kept
    obtain ⟨journal, find⟩ := findTarget_helper world probe known
    rw [created] at find
    exact decided wholeAfter readableAfter thereAfter find

end Validator

end TextQuery
