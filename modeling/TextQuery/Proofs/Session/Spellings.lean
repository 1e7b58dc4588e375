import TextQuery.Proofs.Session.Twins
import TextQuery.Proofs.Catalog.Searching

set_option autoImplicit false

namespace TextQuery

open Engine Engine.Change Text

/-- Two answers tally if they are related values, or the same failure; what is not there may be missed under either
of two names. -/
inductive Tally {α : Type} (R : α → α → Prop) : Except Failure α → Except Failure α → Prop
  | values {one other : α} (related : R one other) : Tally R (.ok one) (.ok other)
  | failure (failure : Failure) : Tally R (.error failure) (.error failure)
  | missing {one other : Failure} (missed : one.IsSchema) (also : other.IsSchema) : Tally R (.error one) (.error other)

namespace Tally

variable {α β : Type} {R : α → α → Prop} {one other : Except Failure α}

theorem map (tally : Tally R one other) {f : α → β} (same : ∀ a b, R a b → f a = f b) :
    Tally Eq (one.map f) (other.map f) := by
  cases tally with
  | values related => exact .values (same _ _ related)
  | failure failure => exact .failure failure
  | missing missed also => exact .missing missed also

theorem of_ok {value : α} (tally : Tally Eq one other) (done : one = .ok value) : other = .ok value := by
  subst done
  cases tally with
  | values same => rw [same]

end Tally

namespace Attempt

variable {α β : Type} {base : Database} {R : α → α → Prop} {T : β → β → Prop}

def Tallies (base : Database) (R : α → α → Prop) (first second : Attempt Database α) : Prop :=
  Run.Agree base.Twin (Tally R) first.run second.run

theorem tallies_pure {one other : α} (related : R one other) : Tallies base R (pure one) (pure other) :=
  Run.agree_pure (.values related)

theorem tallies_fail (message text : String) : Tallies base R (fail (.schema message)) (fail (.schema text)) :=
  Run.agree_pure (.missing ⟨_, rfl, rfl⟩ ⟨_, rfl, rfl⟩)

theorem tallies_debug (message text : String) : Tallies base (fun _ _ => True) (debug message) (debug text) :=
  fun _ _ twin => ⟨.values trivial, twin⟩

theorem tallies_ask {first second : Statement α} {Q : α → Prop} (akin : Akin base first second Q) :
    Tallies base (fun one other => one = other ∧ Q one) (ask first) (ask second) := by
  intro one other twin
  obtain ⟨same, holds, after⟩ := akin _ _ twin
  rw [run_ask, run_ask]
  refine ⟨?_, after⟩
  change Tally _ ((Change.answer first one.engine).1.mapError _) ((Change.answer second other.engine).1.mapError _)
  rw [← same]
  cases answered : (Change.answer first one.engine).1 with
  | ok value => exact .values ⟨rfl, holds value answered⟩
  | error fault => exact .failure _

theorem tallies_of_agrees {attempt : Attempt Database α} (agrees : Agrees base.Twin attempt) :
    Tallies base Eq attempt attempt := by
  intro one other twin
  obtain ⟨⟨same, -⟩, after⟩ := agrees one other twin
  refine ⟨?_, after⟩
  rw [same]
  cases (attempt.run other).1 with
  | ok value => exact .values rfl
  | error failure => exact .failure failure

theorem tallies_bind {first second : Attempt Database α} {next further : α → Attempt Database β}
    (tallies : Tallies base R first second) (rest : ∀ one other, R one other →
      Tallies base T (next one) (further other)) : Tallies base T (first >>= next) (second >>= further) := by
  intro one other twin
  obtain ⟨tally, middle⟩ := tallies one other twin
  cases ran : first.run one with
  | mk answer after =>
    cases also : second.run other with
    | mk answered later =>
      rw [ran, also] at tally middle
      cases tally with
      | values related =>
        rw [run_bind_ok next ran, run_bind_ok further also]
        exact rest _ _ related after later middle
      | failure failure =>
        rw [run_bind_error next ran, run_bind_error further also]
        exact ⟨.failure failure, middle⟩
      | missing missed alsoMissed =>
        rw [run_bind_error next ran, run_bind_error further also]
        exact ⟨.missing missed alsoMissed, middle⟩

end Attempt

open Attempt

section

variable {base : Database} {one other : String} (same : sameName one other = true)
  {schema further : Option String} (alike : Option.Rel (fun name called => sameName name called = true) schema further)
include same

namespace Catalog

omit same in
theorem tallies_ensureSchema {schema further : String} (alike : sameName schema further = true) :
    Tallies base Eq (ensureSchema schema) (ensureSchema further) := by
  have listed : Tallies base Eq schemaNames schemaNames :=
    tallies_of_agrees (agrees_schemaNames (agreed_lookup rfl))
  refine tallies_bind listed ?_
  rintro names _ rfl
  have picked : canonical? names further = canonical? names schema := by
    unfold canonical?
    rw [lower_congr alike]
  rw [picked]
  split
  · exact tallies_pure rfl
  · exact tallies_fail _ _

theorem tallies_firstHolding (names : List String) :
    Tallies base (fun found also => found = also ∧ ∀ name, found = some name → ∃ home, base.Finds name one home)
      (firstHolding one names) (firstHolding other names) := by
  induction names with
  | nil => exact tallies_pure ⟨rfl, nofun⟩
  | cons name names ih =>
    refine tallies_bind (tallies_ask (akin_tableExists same name)) ?_
    rintro found _ ⟨rfl, finds⟩
    split
    · rename_i there
      refine tallies_pure ⟨rfl, ?_⟩
      rintro _ ⟨⟩
      exact finds there
    · exact ih

include alike in
theorem tallies_resolve : Tallies base (fun name also => name = also ∧ ∃ home, base.Finds name one home)
    (resolve one schema) (resolve other further) := by
  cases alike with
  | none =>
    have listed : Tallies base Eq schemaNames schemaNames :=
      tallies_of_agrees (agrees_schemaNames (agreed_lookup rfl))
    refine tallies_bind listed ?_
    rintro names _ rfl
    refine tallies_bind (tallies_firstHolding same names) ?_
    rintro found _ ⟨rfl, finds⟩
    cases found with
    | some name => exact tallies_pure ⟨rfl, finds name rfl⟩
    | none => exact tallies_fail _ _
  | some alike =>
    refine tallies_bind (tallies_ensureSchema alike) ?_
    rintro name _ rfl
    refine tallies_bind (tallies_ask (akin_tableExists same name)) ?_
    rintro found _ ⟨rfl, finds⟩
    split
    · rename_i there
      exact tallies_pure ⟨rfl, finds there⟩
    · exact tallies_fail _ _

end Catalog

namespace ForeignKey

include alike

theorem tallies_declared : Tallies base Eq (declared one schema) (declared other further) := by
  refine tallies_bind (Catalog.tallies_resolve same alike) ?_
  rintro name _ ⟨rfl, -⟩
  refine tallies_bind (tallies_ask (akin_foreignKeyList same name)) ?_
  rintro columns _ ⟨rfl, -⟩
  refine tallies_bind (tallies_of_agrees (agrees_ofListing agreed_lookup name columns _)) ?_
  rintro keys _ rfl
  exact tallies_bind (tallies_debug _ _) fun _ _ _ => tallies_pure rfl

theorem tallies_check : Tallies base (fun found also => found = also ∧
      ∃ home held, base.schema? found.1 = some home ∧ Table.find? home.tables one = some held ∧
        ∀ violation ∈ found.2, violation.originTable = held.name)
    (check (some one) schema) (check (some other) further) := by
  refine tallies_bind (Catalog.tallies_resolve same alike) ?_
  rintro name _ ⟨rfl, home, finds⟩
  refine tallies_bind (tallies_ask (akin_foreignKeyCheck same finds)) ?_
  rintro found _ ⟨rfl, held, there, origin⟩
  exact tallies_pure ⟨rfl, home, held, finds.known, there, origin⟩

theorem tallies_violations :
    Tallies base Eq (violations (some one) schema) (violations (some other) further) := by
  refine tallies_bind (tallies_check same alike) ?_
  rintro found _ ⟨rfl, -⟩
  exact tallies_pure rfl

theorem tallies_ensureNone : Tallies base Eq (ensureNone (some one) schema) (ensureNone (some other) further) := by
  refine tallies_bind (tallies_check same alike) ?_
  rintro ⟨name, found⟩ _ ⟨rfl, -⟩
  cases found with
  | nil => exact tallies_pure rfl
  | cons violation rest =>
    refine tallies_bind (tallies_of_agrees (agrees_describe agreed_lookup violation name)) ?_
    rintro message _ rfl
    exact tallies_bind (tallies_debug _ _) fun _ _ _ => Run.agree_pure (.failure _)

end ForeignKey

namespace Validator

include alike in
theorem tallies_locate : Tallies base (fun found also => ∃ name, found = .located name one ∧
      also = .located name other ∧ base.Serves name one)
    (locate one schema) (locate other further) := by
  refine tallies_bind (Catalog.tallies_resolve same alike) ?_
  rintro name _ ⟨rfl, home, finds⟩
  have stored : Tallies base (fun sql also => sql = also ∧ ∃ held,
      Table.find? home.tables one = some held ∧ (held.isView = true → sql = ""))
      (Catalog.tableSql one name) (Catalog.tableSql other name) := by
    refine tallies_bind (tallies_ask (akin_tableSql same finds)) ?_
    rintro sql _ ⟨rfl, held, there, view⟩
    exact tallies_pure ⟨rfl, held, there, fun isView => by rw [view isView]; rfl⟩
  refine tallies_bind stored ?_
  rintro sql _ ⟨rfl, held, there, view⟩
  split
  · rename_i isFullText
    refine tallies_pure ⟨name, rfl, rfl, home, held, finds, there, ?_⟩
    rw [Bool.eq_false_iff]
    intro isView
    rw [view isView] at isFullText
    cases isFullText
  · exact tallies_fail _ _

/-- Validators of one table under two names, which have found it or have not. -/
structure Spelled (base : Database) (one other : String) (schema further : Option String)
    (validator also : Validator) : Prop where
  probe : validator.probe = .table one schema
  alsoProbe : also.probe = .table other further
  target : (validator.target = none ∧ also.target = none) ∨ ∃ name, validator.target = some (.located name one) ∧
    also.target = some (.located name other) ∧ base.Serves name one

variable {validator also : Validator} (spelled : Spelled base one other schema further validator also)
include spelled

include alike in
theorem tallies_findTarget : Tallies base (fun found also => ∃ name, found = .located name one ∧
      also = .located name other ∧ base.Serves name one) validator.findTarget also.findTarget := by
  rcases spelled.target with ⟨lacking, alsoLacking⟩ | ⟨name, held, alsoHeld, serves⟩
  · rw [findTarget_new lacking, findTarget_new alsoLacking, spelled.probe, spelled.alsoProbe]
    exact tallies_locate same alike
  · intro first second twin
    rw [findTarget_held first held, findTarget_held second alsoHeld]
    exact ⟨.values ⟨name, rfl, rfl, serves⟩, twin⟩

omit same in
theorem judge_spelled {name : String} (serves : base.Serves name one) (expression : String)
    (answer : Except Fault Unit) :
    Tally Eq (validator.judge (.located name one) expression answer).1
        (also.judge (.located name other) expression answer).1 ∧
      Spelled base one other schema further (validator.judge (.located name one) expression answer).2
        (also.judge (.located name other) expression answer).2 := by
  unfold judge
  cases answer with
  | ok _ => exact ⟨.values rfl, spelled.probe, spelled.alsoProbe, .inr ⟨name, rfl, rfl, serves⟩⟩
  | error fault =>
    dsimp only
    split
    · exact ⟨.failure _, spelled.probe, spelled.alsoProbe, .inl ⟨rfl, rfl⟩⟩
    · exact ⟨.failure _, spelled.probe, spelled.alsoProbe, .inr ⟨name, rfl, rfl, serves⟩⟩
    · exact ⟨.failure _, spelled.probe, spelled.alsoProbe, .inr ⟨name, rfl, rfl, serves⟩⟩

include alike in
theorem agree_validate_spelled (expression : String) :
    Run.Agree base.Twin (fun found also => Tally Eq found.1 also.1 ∧
        Spelled base one other schema further found.2 also.2)
      (validator.validate expression) (also.validate expression) := by
  intro first second twin
  obtain ⟨tally, middle⟩ := tallies_findTarget same alike spelled first second twin
  cases find : validator.findTarget.run first with
  | mk answer after =>
    cases find' : also.findTarget.run second with
    | mk answered later =>
      rw [find, find'] at tally middle
      cases tally with
      | failure failure =>
        rw [validate_lost _ find, validate_lost _ find']
        exact ⟨⟨.failure failure, spelled⟩, middle⟩
      | missing missed alsoMissed =>
        rw [validate_lost _ find, validate_lost _ find']
        exact ⟨⟨.missing missed alsoMissed, spelled⟩, middle⟩
      | values found =>
        obtain ⟨name, rfl, rfl, serves⟩ := found
        obtain ⟨judged, engine⟩ := validate_found expression find
        obtain ⟨alsoJudged, alsoEngine⟩ := validate_found expression find'
        obtain ⟨answers, -, twin⟩ := akin_match same serves expression _ _ middle
        have answers : (Engine.answer (.matchProbe (.located name one) expression) after.engine).1 =
            (Engine.answer (.matchProbe (.located name other) expression) later.engine).1 := answers
        rw [judged, alsoJudged, engine, alsoEngine, answers]
        exact ⟨judge_spelled spelled serves expression _, twin⟩

end Validator

end

namespace Catalog

theorem isSchema_of_resolve {world : World Database} (regular : world.engine.Regular)
    (usable : world.engine.condition = .usable) {table : String} {schema : Option String} {failure : Failure}
    (failed : ((resolve table schema : Attempt Database String).run world).1 = .error failure) :
    failure.IsSchema := by
  have unlocked : world.engine.condition ≠ .locked := by
    rw [usable]
    decide
  have readable : world.engine.reading = .ok () := by rw [Database.reading, usable]
  cases schema with
  | none =>
    rw [resolve_bare regular unlocked, readable] at failed
    dsimp only at failed
    split at failed
    · cases failed
    · cases failed
      exact ⟨_, rfl, rfl⟩
  | some schema =>
    have named := resolve_named regular table schema
    split at named
    · rw [named] at failed
      cases failed
      exact ⟨_, rfl, rfl⟩
    · rename_i picked found
      obtain ⟨-, -, tells⟩ := named
      have ready := (access_unlocked unlocked picked.name).trans readable
      cases there : Table.find? picked.tables table with
      | none =>
        rw [tells.missing ready there] at failed
        cases failed
        exact ⟨_, rfl, rfl⟩
      | some held =>
        rw [tells.there ready there] at failed
        cases failed

end Catalog

namespace Shared

theorem outcomes_spelled {base : Database} {one other : String} (same : sameName one other = true)
    {schema further : Option String}
    (alike : Option.Rel (fun name called => sameName name called = true) schema further)
    {session later : Session} (closed : later.isClosed = session.isClosed) (path : later.path = session.path)
    (twin : base.Twin session.database later.database) {validator also : Validator}
    (spelled : Validator.Spelled base one other schema further validator also)
    (latest last : Option (Except Failure Pattern)) (expressions : List String) :
    List.Forall₂ (Tally Eq) ((outcomes ⟨session, validator, latest⟩ (expressions.map .validate)).map Prod.fst)
      ((outcomes ⟨later, also, last⟩ (expressions.map .validate)).map Prod.fst) := by
  induction expressions generalizing session later validator also latest last with
  | nil => exact .nil
  | cons expression expressions ih =>
    simp only [List.map_cons, outcomes, next, Validator.call, closed]
    split
    · refine .cons ?_ (ih closed path twin spelled _ _)
      rw [path]
      exact .failure _
    · obtain ⟨⟨tally, spelled⟩, twin⟩ := Validator.agree_validate_spelled same alike spelled expression
        ⟨session.database, []⟩ ⟨later.database, []⟩ twin
      refine .cons (tally.map ?_) ?_
      · rintro made _ rfl
        rfl
      · apply ih
        · exact closed
        · exact path
        · exact twin
        · exact spelled

end Shared

namespace Session

variable {session : Session}

theorem step_tally (reachable : Reachable (fun _ => True) session) {first second : Lookup}
    (tallies : Tallies session.database Eq first.run second.run) :
    Tally Eq (session.step (.lookup first)).1 (session.step (.lookup second)).1 := by
  by_cases closed : session.isClosed = true
  · simp only [step, closed, Step.isClose, Bool.not_false, Bool.and_true, if_true]
    exact .failure _
  · rw [Bool.not_eq_true] at closed
    have regular := (reachable.has Database.Regular.outlasting).database
    have noting := (reachable.has Database.Noting.outlasting).database
    rw [step_lookup closed, step_lookup closed]
    exact (tallies ⟨session.database, []⟩ ⟨session.database, []⟩ (.refl regular noting)).1

theorem lost_of_resolve (isOpen : session.isClosed = false) {table : String} {schema : Option String}
    {failure : Failure} (failed : (session.step (.lookup (.resolve table schema))).1 = .error failure) :
    ∃ after, (Catalog.resolve table schema : Attempt Database String).run ⟨session.database, []⟩ =
      (.error failure, after) := by
  rw [step_lookup isOpen, Lookup.run, run_map] at failed
  cases ran : (Catalog.resolve table schema : Attempt Database String).run ⟨session.database, []⟩ with
  | mk answer after =>
    rw [ran] at failed
    cases answer with
    | ok name => cases failed
    | error missed =>
      cases failed
      exact ⟨after, rfl⟩

theorem fails_as_resolve (isOpen : session.isClosed = false) {table : String} {schema : Option String}
    {failure : Failure} (failed : (session.step (.lookup (.resolve table schema))).1 = .error failure)
    {question : Lookup} (begins : ∃ rest : String → Attempt Database Answer,
      question.run = Catalog.resolve table schema >>= rest) :
    (session.step (.lookup question)).1 = .error failure := by
  obtain ⟨after, lost⟩ := lost_of_resolve isOpen failed
  obtain ⟨rest, run⟩ := begins
  rw [step_lookup isOpen, run, run_bind_error rest lost]

theorem judged_as_resolve (isOpen : session.isClosed = false) {table : String} {schema : Option String}
    {failure : Failure} (failed : (session.step (.lookup (.resolve table schema))).1 = .error failure)
    (expression : String) :
    (Validator.call { probe := .table table schema } session expression).1.1 = .error failure := by
  obtain ⟨after, lost⟩ := lost_of_resolve isOpen failed
  have missed : (Validator.findTarget { probe := .table table schema } : Attempt Database Target).run
      ⟨session.database, []⟩ = (.error failure, after) := by
    rw [Validator.findTarget_new rfl]
    exact run_bind_error _ lost
  unfold Validator.call
  rw [if_neg (by simp [isOpen]), onDatabase]
  simp only [StateT.run, Validator.validate_lost expression missed]

theorem violations_stored (regular : session.database.Regular) (noting : session.database.Noting)
    (isOpen : session.isClosed = false) {table : String} {schema : Option String} {found : List Violation}
    (answered : (session.step (.lookup (.violations (some table) schema))).1 = .ok (.violations found)) :
    ∃ home ∈ session.database.schemas, ∃ held, Table.find? home.tables table = some held ∧
      ∀ violation ∈ found, violation.originTable = held.name := by
  have own : Option.Rel (fun name called => sameName name called = true) schema schema := by
    cases schema with
    | none => exact .none
    | some schema => exact .some (sameName_refl schema)
  obtain ⟨tally, -⟩ := ForeignKey.tallies_check (sameName_refl table) own ⟨session.database, []⟩
    ⟨session.database, []⟩ (.refl regular noting)
  rw [step_lookup isOpen, Lookup.run, run_map, ForeignKey.violations_run] at answered
  cases ran : ((ForeignKey.check (some table) schema : Attempt Database _).run ⟨session.database, []⟩).1 with
  | error failure =>
    rw [ran] at answered
    cases answered
  | ok checked =>
    rw [ran] at answered tally
    cases answered
    obtain ⟨⟨-, home, held, known, there, origin⟩⟩ := tally
    exact ⟨home, List.mem_of_find?_eq_some known, held, there, origin⟩

/-- What is asked about a table comes to the same under all spellings of its name and of its schema: its foreign
keys, the rows that violate them, which are reported under the stored name, the failure that tells the first of
them, and the expressions that a probe accepts. Where there is no such table all of it fails as finding it does, in
a main schema that can be read with a failure of the schema. -/
theorem spellings_tally (reachable : Reachable (fun _ => True) session) {one other : String}
    (same : sameName one other = true) {schema further : Option String}
    (alike : Option.Rel (fun name called => sameName name called = true) schema further) :
    let answer (question : Lookup) := (session.step (.lookup question)).1
    let judged (table : String) (schema : Option String) (expressions : List String) :=
      (Shared.outcomes ⟨session, { probe := .table table schema }, none⟩ (expressions.map .validate)).map Prod.fst
    Tally Eq (answer (.foreignKeys one schema)) (answer (.foreignKeys other further)) ∧
    Tally Eq (answer (.violations (some one) schema)) (answer (.violations (some other) further)) ∧
    (∀ found, answer (.violations (some one) schema) = .ok (.violations found) →
      ∃ home ∈ session.database.schemas, ∃ held, Table.find? home.tables one = some held ∧
        ∀ violation ∈ found, violation.originTable = held.name) ∧
    Tally Eq (answer (.ensureNone (some one) schema)) (answer (.ensureNone (some other) further)) ∧
    (∀ expressions, List.Forall₂ (Tally Eq) (judged one schema expressions) (judged other further expressions)) ∧
    Tally Eq (answer (.resolve one schema)) (answer (.resolve other further)) ∧
    ∀ failure, answer (.resolve one schema) = .error failure →
      (session.isClosed = false → session.database.condition = .usable → failure.IsSchema) ∧
      answer (.foreignKeys one schema) = .error failure ∧
      answer (.violations (some one) schema) = .error failure ∧
      answer (.ensureNone (some one) schema) = .error failure ∧
      ∀ expression, judged one schema [expression] = [.error failure] := by
  intro answer judged
  have regular := (reachable.has Database.Regular.outlasting).database
  have noting := (reachable.has Database.Noting.outlasting).database
  refine ⟨?_, ?_, fun found answered => ?_, ?_, fun expressions => ?_, ?_, fun failure failed => ?_⟩
  · refine step_tally reachable (tallies_bind (ForeignKey.tallies_declared same alike) ?_)
    rintro keys _ rfl
    exact tallies_pure rfl
  · refine step_tally reachable (tallies_bind (ForeignKey.tallies_violations same alike) ?_)
    rintro found _ rfl
    exact tallies_pure rfl
  · by_cases closed : session.isClosed = true
    · simp only [answer, step, closed, Step.isClose, Bool.not_false, Bool.and_true, if_true] at answered
      cases answered
    · exact violations_stored regular noting (Bool.not_eq_true _ ▸ closed) answered
  · refine step_tally reachable (tallies_bind (ForeignKey.tallies_ensureNone same alike) ?_)
    exact fun _ _ _ => tallies_pure rfl
  · exact Shared.outcomes_spelled same alike rfl rfl (.refl regular noting) ⟨rfl, rfl, .inl ⟨rfl, rfl⟩⟩ _ _ expressions
  · refine step_tally reachable (tallies_bind (Catalog.tallies_resolve same alike) ?_)
    rintro name _ ⟨rfl, -⟩
    exact tallies_pure rfl
  · by_cases closed : session.isClosed = true
    · have refused (question : Lookup) : answer question = .error (.closed session.path) := by
        simp only [answer, step, closed, Step.isClose, Bool.not_false, Bool.and_true, if_true]
      rw [refused] at failed
      cases failed
      refine ⟨fun isOpen => ?_, refused _, refused _, refused _, fun expression => ?_⟩
      · rw [closed] at isOpen
        cases isOpen
      · simp only [judged, List.map_cons, List.map_nil, Shared.outcomes, Shared.next, Validator.call, closed, if_true]
        rfl
    · rw [Bool.not_eq_true] at closed
      obtain ⟨after, lost⟩ := lost_of_resolve closed failed
      have violations : ∃ rest : String → Attempt Database Answer,
          (Lookup.violations (some one) schema).run = Catalog.resolve one schema >>= rest := by
        simp only [Lookup.run, ForeignKey.violations, ForeignKey.check_eq, bind_assoc]
        exact ⟨_, rfl⟩
      have ensureNone : ∃ rest : String → Attempt Database Answer,
          (Lookup.ensureNone (some one) schema).run = Catalog.resolve one schema >>= rest := by
        simp only [Lookup.run, ForeignKey.ensureNone, ForeignKey.check_eq, bind_assoc]
        exact ⟨_, rfl⟩
      refine ⟨fun _ usable => ?_, fails_as_resolve closed failed ⟨_, bind_assoc _ _ _⟩,
        fails_as_resolve closed failed violations, fails_as_resolve closed failed ensureNone, fun expression => ?_⟩
      · have unread : session.database = (⟨session.database, []⟩ : World Database).engine := rfl
        rw [unread] at regular usable
        exact Catalog.isSchema_of_resolve regular usable (congrArg Prod.fst lost)
      · simp only [judged, List.map_cons, List.map_nil, Shared.outcomes, Shared.next]
        rw [judged_as_resolve closed failed]
        rfl

-- A table with a violation, named in two ways that are not the stored one.
theorem spellings_tally_violated :
    let session := fresh.after [
      .build (.createTable "main" "Tab" { columns := [⟨"a", ""⟩], references := [{ columns := ["a"], table := "p" }] }),
      .build (.insert "main" "Tab" [[.int 1]])]
    let answer (question : Lookup) := (session.step (.lookup question)).1
    let violation : Violation := ⟨"Tab", some 1, "p", 0⟩
    Reachable (fun _ => True) session ∧ sameName "TAB" "tab" = true ∧ sameName "MAIN" "main" = true ∧
    answer (.violations (some "TAB") (some "MAIN")) = .ok (.violations [violation]) ∧
    answer (.violations (some "tab") (some "main")) = .ok (.violations [violation]) := by
  intro session answer violation
  have reachable : Reachable (fun _ => True) session := (Reachable.opened _).after fun _ _ => trivial
  have table : sameName "TAB" "tab" = true := by decide
  have schema : sameName "MAIN" "main" = true := by decide
  have found : answer (.violations (some "TAB") (some "MAIN")) = .ok (.violations [violation]) := by
    decide +kernel
  obtain ⟨-, tally, -⟩ := spellings_tally reachable table (.some schema)
  exact ⟨reachable, table, schema, found, tally.of_ok found⟩

end Session

end TextQuery
