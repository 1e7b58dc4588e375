import TextQuery.Proofs.Session.Probes
import TextQuery.Proofs.Validator.Outcome

set_option autoImplicit false

namespace TextQuery

open Engine Engine.Change

namespace FaultClass

theorem of_refused {fault : Expression.Fault} (other : ∀ written, fault ≠ .badDistance written) :
    of (.operational fault.message) = .grammar := by
  refine of_eq_grammar.2 ⟨rfl, ?_⟩
  cases fault with
  | unexpected near =>
    have begins : "fts5:".toList <+: ("fts5: syntax error near \"" ++ near).toList :=
      Text.prefix_append (by decide) near
    exact ⟨"fts5:", by simp, Text.startsWith_iff.2 (Text.prefix_append begins "\"")⟩
  | unterminated => exact ⟨"unterminated string", by simp, by decide⟩
  | overflow | phraseNotStored | nearNotStored | columnsNotStored =>
    exact ⟨"fts5:", by simp, by decide⟩
  | noSuchColumn name =>
    exact ⟨"no such column", by simp, Text.startsWith_iff.2 (Text.prefix_append (by decide) name)⟩
  | unknownDirective word =>
    exact ⟨"unknown special query", by simp,
      Text.startsWith_iff.2 (Text.prefix_append (by decide) word)⟩
  | badDistance written => exact absurd rfl (other written)

theorem of_badDistance (written : String) :
    of (.operational (Expression.Fault.badDistance written).message) = .other := by
  have begins : "expected integer, got \"".toList <+:
      (Expression.Fault.badDistance written).message.toList := by
    have first : "expected integer, got \"".toList <+: ("expected integer, got \"" ++ written).toList :=
      Text.prefix_append List.prefix_rfl written
    exact Text.prefix_append first "\""
  have schema : ¬∃ beginning ∈ schemaBeginnings, beginning.toList <+: "expected integer, got \"".toList ∨
      "expected integer, got \"".toList <+: beginning.toList := by decide
  have grammar : ¬∃ beginning ∈ grammarBeginnings, beginning.toList <+: "expected integer, got \"".toList ∨
      "expected integer, got \"".toList <+: beginning.toList := by decide
  rcases of_cases (.operational (Expression.Fault.badDistance written).message) with
    ⟨-, found⟩ | ⟨-, found⟩ | ⟨found, -⟩
  · exact absurd (Fault.Begins.comparable found begins) schema
  · exact absurd (Fault.Begins.comparable found begins) grammar
  · exact found

end FaultClass

namespace Validator

def verdict (scope : Expression.Scope) (expression : String) : Except Failure Pattern :=
  match Expression.check scope expression with
  | .ok () => .ok ⟨expression⟩
  | .error (.badDistance written) =>
    .error (.engine (.operational (Expression.Fault.badDistance written).message))
  | .error fault => .error (.diagnostic (.grammar expression fault.message Diagnostic.errorCode))

/-- What a validator finds where its probe is a full-text table that can be read: the table, or, if the
declaration of a table of the caller does not read as that of a full-text table, why it is refused. -/
inductive Finds (database : Database) (validator : Validator) : Except Diagnostic FullText → Prop
  | held {target : Target} {home : Schema} {table : Table} {index : FullText}
    (known : validator.target = some target) (live : Live database target home table index) :
    Finds database validator (.ok index)
  | made {columns : List String} {after : Database} {home : Schema} {table : Table} {index : FullText}
    (unknown : validator.target = none) (probe : validator.probe = .helper columns)
    (created : Engine.answer (.createProbe (helper columns) columns) database = (.ok (), after))
    (live : Live after (.helper (helper columns)) home table index) : Finds database validator (.ok index)
  | named {name resolved : String} {schema : Option String} {home : Schema} {table : Table}
    {index : FullText} (unknown : validator.target = none) (probe : validator.probe = .table name schema)
    (resolves : ((Catalog.resolve name schema : Attempt Database String).run
      { engine := database }).1 = .ok resolved)
    (live : Live database (.located resolved name) home table index) :
    Finds database validator
      (if Declaration.isFullText table.sql then .ok index else .error (.notFullText resolved name))

theorem judge_refused (validator : Validator) (target : Target) (scope : Expression.Scope)
    (expression : String) :
    (validator.judge target expression
      ((Expression.check scope expression).mapError fun fault => .operational fault.message)).1 =
      verdict scope expression := by
  unfold verdict
  cases Expression.check scope expression with
  | ok _ => rfl
  | error fault =>
    simp only [Except.mapError, judge]
    cases fault with
    | badDistance written => rw [FaultClass.of_badDistance]
    | unexpected | unterminated | overflow | noSuchColumn | phraseNotStored | nearNotStored
    | columnsNotStored | unknownDirective =>
      rw [FaultClass.of_refused (by simp)]
      rfl

variable {database : Database}

section

variable {target : Target} {home : Schema} {table : Table} {index : FullText}
  (clean : database.Clean) (usable : database.condition = .usable)
  (live : Live database target home table index)
include clean usable live

-- The stored declaration of a table that can be read is found.
theorem answer_tableSql :
    ∃ after, Engine.answer (.tableSql target.schema target.table) database =
      (.ok (some table.sql), after) ∧ database.Follows after := by
  have writable := writable_tableSql (clean.of_locate live.located).1 target.table
  have admits : database.Admits [(Statement.tableSql target.schema target.table).text] :=
    .inl (by rw [usable]; decide)
  obtain ⟨ready, follows, -, answered⟩ := answer_eq rfl (by simp [Database.pragmaSchema?]) writable admits (.inl usable)
  refine ⟨ready, ?_, follows⟩
  have live := live.follows follows
  obtain ⟨found, entry⟩ := Database.locate_eq_ok live.located
  have listed : ready.listed target.schema = .ok home := by
    simp only [Database.listed, Database.schemaOr, found, touch_ok live.unlocked, bind, Except.bind, pure,
      Except.pure]
  have stored : Table.find? home.tables target.table = some table := by
    rcases Schema.find?_cases entry with ⟨looked, -⟩ | ⟨rfl, -⟩
    · exact looked
    · cases live.body
  have plain : table.isView = false := by
    unfold Table.isView
    rw [live.body]
  have told : ready.tableSql target.schema target.table = .ok (some table.sql) := by
    simp only [Database.tableSql, listed, stored, Option.filter, plain, bind, Except.bind, pure,
      Except.pure, Bool.not_false, if_true, Option.map_some]
  have response : respond (.tableSql target.schema target.table) ready =
      (ready.tableSql target.schema target.table, ready) := rfl
  have opening : openTarget (.tableSql target.schema target.table) ready = (.ok (), ready) := rfl
  change Change.answer _ database = _
  rw [answered, bind_ok _ opening, response, told]

end

theorem validate_target {target : Target} {home : Schema} {table : Table} {index : FullText}
    {validator : Validator} {world found : World Database} {expression : String}
    (writable : Writable (Statement.matchProbe target expression).text)
    (admits : found.engine.Admits [(Statement.matchProbe target expression).text])
    (readable : found.engine.Readable) (live : Live found.engine target home table index)
    (find : validator.findTarget.run world = (.ok target, found)) :
    ((validator.validate expression) world).1.1 = verdict index.scope expression := by
  obtain ⟨after, answered, -⟩ := answer_match live expression writable admits readable
  obtain ⟨result, -⟩ := validate_found expression find
  rw [result]
  change (validator.judge target expression (Change.answer _ found.engine).1).1 = _
  rw [answered]
  exact judge_refused validator target index.scope expression

-- In a main schema that can be read nothing holds up a statement.
theorem validate_usable {target : Target} {home : Schema} {table : Table} {index : FullText}
    {validator : Validator} {world found : World Database} (clean : found.engine.Clean)
    (usable : found.engine.condition = .usable) (live : Live found.engine target home table index)
    (find : validator.findTarget.run world = (.ok target, found)) (expression : String) :
    ((validator.validate expression) world).1.1 = verdict index.scope expression := by
  obtain ⟨schema, name⟩ := clean.of_locate live.located
  exact validate_target (writable_matchProbe schema name expression) (.inl (by rw [usable]; decide))
    (.inl usable) live find

-- The helper table is there, or it has just been made.
theorem validate_made {columns : List String} {validator : Validator} {database after : Database}
    {home : Schema} {table : Table} {index : FullText} (clean : database.Clean)
    (usable : database.condition = .usable) (unknown : validator.target = none)
    (probe : validator.probe = .helper columns)
    (created : Engine.answer (.createProbe (helper columns) columns) database = (.ok (), after))
    (live : Live after (.helper (helper columns)) home table index) (expression : String) :
    ((validator.validate expression) { engine := database }).1.1 = verdict index.scope expression := by
  obtain ⟨journal, find⟩ := findTarget_helper { engine := database } probe unknown
  have usual : (Statement.createProbe (helper columns) columns).Usual := rfl
  have clean := Database.Clean.outlasting.watched _ usual _ clean
  have usable := Database.watched_condition _ _ usual _ usable
  simp only [created] at find clean usable
  exact validate_usable clean usable live find expression

-- A table of the caller is looked for, which changes no table, and then its declaration is read.
theorem validate_named {name resolved : String} {schema : Option String} {validator : Validator}
    {database : Database} {home : Schema} {table : Table} {index : FullText} (clean : database.Clean)
    (usable : database.condition = .usable) (unknown : validator.target = none)
    (probe : validator.probe = .table name schema)
    (resolves : ((Catalog.resolve name schema : Attempt Database String).run
      { engine := database }).1 = .ok resolved)
    (live : Live database (.located resolved name) home table index) (expression : String) :
    ((validator.validate expression) { engine := database }).1.1 =
      if Declaration.isFullText table.sql then verdict index.scope expression
      else .error (.diagnostic (.notFullText resolved name)) := by
  have kept (P : Database → Prop) (lookedUp : LookedUp P) (holds : P database) :=
    Catalog.keeps_resolve lookedUp name schema { engine := database } holds
  have follows := kept _ (lookedUp_of (Database.steady_follows database)) (.refl database)
  have cleanAfter := kept _ (Watched.lookedUp Database.Clean.outlasting.watched) clean
  cases looked : (Catalog.resolve name schema : Attempt Database String).run { engine := database } with
  | mk answer middle =>
    rw [looked] at resolves follows cleanAfter
    cases resolves
    have live := live.follows follows
    have usable : middle.engine.condition = .usable := follows.condition.trans usable
    obtain ⟨after, told, later⟩ := answer_tableSql cleanAfter usable live
    have told : Engine.answer (.tableSql resolved name) middle.engine = (.ok (some table.sql), after) :=
      told
    have find := findTarget_table probe unknown looked told
    split at find
    · rename_i recognized
      rw [if_pos recognized]
      have clean := Watched.lookedUp Database.Clean.outlasting.watched
        (.tableSql resolved name) rfl _ cleanAfter
      rw [told] at clean
      exact validate_usable clean (later.condition.trans usable) (live.follows later) find expression
    · rename_i unrecognized
      rw [if_neg unrecognized, validate_lost expression find]

theorem Creatable.finds {columns : List String} (creatable : Creatable columns) (whole : database.Whole)
    (readable : database.Readable) {validator : Validator} (unknown : validator.target = none)
    (probe : validator.probe = .helper columns) :
    ∃ index : FullText, Finds database validator (.ok index) := by
  obtain ⟨declared, declares⟩ := creatable.declares
  obtain ⟨after, created, there, -⟩ := createProbe_there declares whole.toKept readable
  have wholeAfter : after.Whole := by
    have kept := Database.Whole.outlasting.watched (.createProbe (helper columns) columns) rfl _ whole
    rwa [created] at kept
  obtain ⟨held, found⟩ := there.find?
  obtain ⟨index, -, live⟩ := wholeAfter.live found
  exact ⟨index, .made unknown probe created live⟩

/-- Against a full-text table that can be read, and whose segments nobody has written by hand, there are three
outcomes: the expression is accepted, it is refused with what the parser says, or a bad distance is passed on as the
engine reports it. -/
theorem validate_live {session : Session} {validator : Validator} (spared : session.SparesProbe validator)
    (usable : session.database.condition = .usable) {found : Except Diagnostic FullText}
    (finds : Finds session.database validator found) (expression : String) :
    let answer := ((validator.validate expression) { engine := session.database }).1.1
    (answer = do verdict (← found.mapError .diagnostic).scope expression) ∧
    ((∃ fault, answer = .error (.engine fault)) ↔ ∃ index written, found = .ok index ∧
      Expression.check index.scope expression = .error (.badDistance written)) := by
  intro answer
  have clean := (spared.reachable.has Database.Clean.outlasting).database
  have answered : answer = (do verdict (← found.mapError .diagnostic).scope expression) := by
    cases finds with
    | held known live =>
      exact validate_usable clean usable live (findTarget_held { engine := _ } known) expression
    | made unknown probe created live =>
      exact validate_made clean usable unknown probe created live expression
    | named unknown probe resolves live =>
      refine (validate_named clean usable unknown probe resolves live expression).trans ?_
      split <;> rfl
  refine ⟨answered, ?_⟩
  rw [answered]
  cases found with
  | error refused => simp [Except.mapError, bind, Except.bind]
  | ok index =>
    change (∃ fault, verdict index.scope expression = .error (.engine fault)) ↔ _
    unfold verdict
    cases checked : Expression.check index.scope expression with
    | ok _ => simp [checked]
    | error fault => cases fault <;> simp [checked]

-- A distance that is no number, against a probe that is made for it.
theorem validate_live_bad_distance :
    let validator : Validator := { probe := .helper ["content"] }
    let database := Session.fresh.database
    Session.fresh.SparesProbe validator ∧ database.condition = .usable ∧
    ∃ index : FullText, Finds database validator (.ok index) ∧
      ((validator.validate "NEAR(a b, x)") { engine := database }).1.1 =
        .error (.engine (.operational "expected integer, got \"x\"")) := by
  intro validator database
  have spared : Session.fresh.SparesProbe validator := Session.Reachable.opened _
  have creatable : Creatable ["content"] := by decide +kernel
  have whole : database.Whole := Database.Whole.outlasting.opened .usable
  have found : ∃ index : FullText, Finds database validator (.ok index) :=
    creatable.finds whole (.inl rfl) rfl rfl
  obtain ⟨index, finds⟩ := found
  have refused : Expression.check index.scope "NEAR(a b, x)" = .error (.badDistance "x") := rfl
  have answered := (validate_live spared rfl finds "NEAR(a b, x)").1
  refine ⟨spared, rfl, index, finds, answered.trans ?_⟩
  change verdict index.scope "NEAR(a b, x)" = _
  rw [verdict, refused]
  rfl

end Validator

end TextQuery
