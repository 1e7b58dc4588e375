import Mathlib.Data.List.Dedup
import TextQuery.Proofs.Frame.Gaining
import TextQuery.Proofs.Session.Undisturbed

set_option autoImplicit false

namespace TextQuery

open Engine Engine.Change Engine.Database Text

namespace Session

variable {session : Session}

theorem Reachable.regular (reachable : Reachable (fun _ => True) session) : session.database.Regular :=
  (reachable.has Regular.outlasting).database

theorem perform_leaves (reachable : Reachable (fun _ => True) session) {id : String} {compiler : Compiler}
    (found : session.compiler? id = some compiler) (request : Request) :
    ∃ made, compiler.Leaves session.database made
      (session.perform (.request id request)).2.2.database := by
  have faithful := faithful_of_compiler? (reachable.has Regular.outlasting) found
  have asks := Compiler.asks_leaves reachable.regular compiler
  simp only [perform, Session.request, found]
  exact (Request.leads_run faithful asks request { engine := session.database } ⟨[], .refl compiler _⟩).1

theorem step_leaves (reachable : Reachable (fun _ => True) session) {id : String} {compiler : Compiler}
    (found : session.compiler? id = some compiler) (request : Request) :
    ∃ made, compiler.Leaves session.database made (session.step (.request id request)).2.2.database := by
  unfold step
  split
  · exact ⟨[], .refl compiler _⟩
  · exact perform_leaves reachable found request

theorem lookup_request (reachable : Reachable (fun _ => True) session) {id : String} {compiler : Compiler}
    (found : session.compiler? id = some compiler) (request : Request) {made : List Table}
    (leaves : compiler.Leaves session.database made (session.step (.request id request)).2.2.database)
    (unmentioned : session.database.Unmentioned made)
    (remembers : session.database.Remembers (session.step (.request id request)).2.2.database ∨
      session.database.Rereads)
    {table : String} (other : Table.find? made table = none) {question : Lookup}
    (about : question.About table) :
    ((session.step (.request id request)).2.2.step (.lookup question)).1 =
      (session.step (.lookup question)).1 := by
  have later := (Reachable.step reachable (.request id request) trivial).regular
  cases closed : session.isClosed with
  | true =>
    have same : (session.step (.request id request)).2.2 = session := by
      simp [step, closed, Step.isClose]
    rw [same]
  | false =>
    have running : (session.step (.request id request)).2.2.isClosed = false := by
      rw [(step_request closed found request).2]
      exact closed
    have veils := leaves.adds.veils unmentioned
    have resembles := leaves.resembles reachable.regular unmentioned remembers later
    rw [step_lookup running, step_lookup closed]
    exact question.answers_alike reachable.regular veils resembles (not_not.2 fun _ => other) about _ _

end Session

def Step.names : Step → List String
  | .build (.createTable schema table _) | .build (.createView schema table _)
  | .build (.createFullText schema table _ _ _) =>
    if sameName schema "temp" then table :: FullText.parts.map (FullText.indexName table) else []
  | _ => []

namespace Session

def asks (session : Session) : Step → List Compiler
  | .request id _ => (session.compiler? id).toList
  | _ => []

def asked (session : Session) : List Step → List Compiler
  | [] => []
  | next :: steps => session.asks next ++ (session.step next).2.2.asked steps

end Session

structure Engine.Database.Accounted (known : List String) (database : Database) : Prop where
  temp : database.temp.name = "temp"
  named : ∀ table ∈ database.temp.tables, Session.isVirtual table = true →
    startsWith table.name Session.helperFamily = true → table.name ∈ known

namespace Engine.Database.Accounted

variable {known : List String} {database : Database}

theorem within (accounted : database.Accounted known) {name : String} {edit : List Table → List Table}
    (edited : sameName name "temp" = true → ∀ table ∈ edit database.temp.tables,
      Session.isVirtual table = true → startsWith table.name Session.helperFamily = true →
        table.name ∈ known) : (database.within name edit).Accounted known := by
  refine ⟨(within_frame database name edit).1.2.trans accounted.temp, ?_⟩
  rcases within_tables database name edit with same | ⟨temporary, same⟩
  · rw [same]
    exact accounted.named
  · rw [same]
    exact edited (by rwa [accounted.temp] at temporary)

-- Rows are written to tables that are no virtual ones, and stay such.
theorem lasting : Lasting (fun _ _ => True) (fun _ => True) (Accounted known) where
  noted _ _ _ _ accounted := ⟨accounted.temp, accounted.named⟩
  read accounted := ⟨accounted.temp, accounted.named⟩
  checked _ accounted := ⟨accounted.temp, accounted.named⟩
  several _ := trivial
  started _ accounted := ⟨accounted.temp, accounted.named⟩
  reread accounted := ⟨accounted.temp, accounted.named⟩
  undone _ before _ := ⟨before.temp, before.named⟩
  written {database _ name _ _ rows} _ _ _ accounted := by
    refine accounted.within fun _ => ?_
    intro table member isVirtual family
    obtain ⟨held, there, rfl⟩ := List.mem_map.1 member
    rw [Table.withRows_name] at family ⊢
    refine accounted.named held there ?_ family
    rcases held.withRows_cases name rows with same | ⟨_, _, body, same⟩
    · rwa [same] at isVirtual
    · rw [same] at isVirtual
      cases isVirtual

theorem mayMake {schema table : String}
    (names : sameName schema "temp" = true → ∀ name ∈ table :: FullText.parts.map (FullText.indexName table),
      name ∈ known) : MayMake (Accounted known) schema table := by
  rintro home tables same adds database accounted -
  refine accounted.within fun temporary => ?_
  have named := names (sameName_trans (sameName_symm same) temporary)
  intro made member isVirtual family
  rcases List.mem_append.1 member with old | new
  · exact accounted.named made old isVirtual family
  · apply named
    rcases adds.names made new with name | ⟨part, listed, name⟩
    · rw [name]
      exact List.mem_cons_self
    · rw [name]
      exact List.mem_cons_of_mem _ (List.mem_map_of_mem listed)

theorem mayBuild {building : Building} (names : ∀ name ∈ (Step.build building).names, name ∈ known) :
    MayBuild (Accounted known) (fun _ _ => True) building := by
  cases building with
  | createTable schema table | createView schema table | createFullText schema table =>
    refine mayMake fun temporary => ?_
    unfold Step.names at names
    simpa only [temporary, if_true] using names
  | insert | delete => exact fun _ _ _ _ => ⟨trivial, fun _ _ => trivial⟩
  | drop =>
    rintro home held database accounted - -
    refine accounted.within fun _ => ?_
    exact fun table member => accounted.named table (List.mem_filter.1 member).1
  | attach | detach => exact fun _ accounted _ => ⟨accounted.temp, accounted.named⟩
  | lock | unlock => exact fun _ accounted => ⟨accounted.temp, accounted.named⟩

-- What a compiler adds has the names of its helper tables.
theorem leaves {compiler : Compiler} {made : List Table} {later : Database}
    (accounted : database.Accounted known) (leaves : compiler.Leaves database made later)
    (names : compiler.helpers ⊆ known) : later.Accounted known := by
  refine ⟨(Prod.mk.inj leaves.grows.temp).1.trans accounted.temp, ?_⟩
  rw [leaves.grows.temp_tables]
  intro table member isVirtual family
  rcases List.mem_append.1 member with old | new
  · exact accounted.named table old isVirtual family
  · apply names
    rcases leaves.adds.name new with name | ⟨columns, probe, -, name | ⟨_, -, -, other⟩⟩
    · rw [name]
      exact List.mem_cons_self
    · rw [name]
      refine List.mem_cons_of_mem _ ?_
      rw [probe]
      exact List.mem_singleton_self _
    · rw [other] at isVirtual
      cases isVirtual

end Engine.Database.Accounted

namespace Session

variable {session : Session} {known : List String}

theorem accounted_perform (reachable : Reachable (fun _ => True) session)
    (accounted : session.database.Accounted known) {next : Step}
    (built : ∀ name ∈ next.names, name ∈ known)
    (asks : ∀ compiler ∈ session.asks next, compiler.helpers ⊆ known) :
    (session.perform next).2.2.database.Accounted known := by
  have lasting := @Accounted.lasting known
  cases next with
  | request id request =>
    cases found : session.compiler? id with
    | none => simpa only [perform, Session.request, found] using accounted
    | some compiler =>
      obtain ⟨made, leaves⟩ := perform_leaves reachable found request
      exact accounted.leaves leaves (asks compiler (by simp [Session.asks, found]))
  | build building => exact keeps_build lasting (fun _ => Accounted.mayBuild built) _ accounted
  | lookup question =>
    exact Lookup.keeps_run (lookedUp_of lasting.toSteady) question { engine := session.database } accounted
  | helpers => exact keeps_listHelpers lasting _ accounted
  | create id settings =>
    simp only [perform, create]
    cases Compiler.create settings <;> exact accounted
  | bind | close => exact accounted

theorem accounted_step (reachable : Reachable (fun _ => True) session)
    (accounted : session.database.Accounted known) {next : Step}
    (built : ∀ name ∈ next.names, name ∈ known)
    (asks : ∀ compiler ∈ session.asks next, compiler.helpers ⊆ known) :
    (session.step next).2.2.database.Accounted known := by
  unfold step
  split
  · exact accounted
  · exact accounted_perform reachable accounted built asks

theorem accounted_after (reachable : Reachable (fun _ => True) session)
    (accounted : session.database.Accounted known) {steps : List Step}
    (built : ∀ next ∈ steps, ∀ name ∈ next.names, name ∈ known)
    (asked : ∀ compiler ∈ session.asked steps, compiler.helpers ⊆ known) :
    (session.after steps).database.Accounted known := by
  induction steps generalizing session with
  | nil => exact accounted
  | cons next steps ih =>
    obtain ⟨first, rest⟩ := List.forall_mem_cons.1 built
    obtain ⟨asks, others⟩ := List.forall_mem_append.1 asked
    exact ih (.step reachable next trivial) (accounted_step reachable accounted first asks) rest others

/-- The helper tables that there are after some steps, apart from tables that were built under such names. -/
def helpersAfter (session : Session) (steps : List Step) : List String :=
  (helperNames (session.after steps).database).filter fun name => !(steps.flatMap Step.names).contains name

theorem mem_helperNames {database : Database} {name : String} :
    name ∈ helperNames database ↔ ∃ table ∈ database.temp.tables,
      isVirtual table = true ∧ startsWith table.name helperFamily = true ∧ table.name = name := by
  unfold helperNames
  rw [List.mem_mergeSort, List.mem_map]
  simp only [List.mem_filter, Bool.and_eq_true, and_assoc]

theorem nodup_helperNames {database : Database} (regular : database.Regular) :
    (helperNames database).Nodup := by
  unfold helperNames
  rw [(List.mergeSort_perm _ _).nodup_iff]
  have distinct := regular.distinct database.temp (by simp [schemas])
  refine List.pairwise_map.2 ((distinct.filter _).imp ?_)
  intro one other apart same
  rw [same, sameName_refl] at apart
  cases apart

theorem length_helpersAfter (reachable : Reachable (fun _ => True) session)
    (none : session.database.temp.tables = []) (steps : List Step) :
    (session.helpersAfter steps).length ≤
      ((session.asked steps).map fun compiler => compiler.tokenizer.descriptor).dedup.length +
      ((session.asked steps).filterMap fun compiler => compiler.validator.probe.columns?).dedup.length := by
  have accounted : (session.after steps).database.Accounted
      (steps.flatMap Step.names ++ (session.asked steps).flatMap Compiler.helpers) := by
    refine accounted_after reachable ⟨reachable.regular.temp, by simp [none]⟩ ?_ ?_
    · intro next member name listed
      exact List.mem_append_left _ (List.mem_flatMap.2 ⟨next, member, listed⟩)
    · intro compiler member name listed
      exact List.mem_append_right _ (List.mem_flatMap.2 ⟨compiler, member, listed⟩)
  have distinct : (session.helpersAfter steps).Nodup := by
    have later : Reachable (fun _ => True) (session.after steps) := reachable.after fun _ _ => trivial
    exact (nodup_helperNames later.regular).filter _
  have inside : session.helpersAfter steps ⊆
      (((session.asked steps).map fun compiler => compiler.tokenizer.descriptor).dedup.map
        (helperName Tokenizer.family)) ++
      (((session.asked steps).filterMap fun compiler => compiler.validator.probe.columns?).dedup.map
        Validator.helper) := by
    intro name member
    obtain ⟨listed, unbuilt⟩ := List.mem_filter.1 member
    obtain ⟨table, there, isVirtual, family, rfl⟩ := mem_helperNames.1 listed
    rcases List.mem_append.1 (accounted.named table there isVirtual family) with built | helper
    · simp [built] at unbuilt
    · obtain ⟨compiler, asked, own⟩ := List.mem_flatMap.1 helper
      rcases List.mem_cons.1 own with words | probe
      · refine List.mem_append_left _ (List.mem_map.2 ⟨compiler.tokenizer.descriptor, ?_, words.symm⟩)
        exact List.mem_dedup.2 (List.mem_map_of_mem asked)
      · obtain ⟨columns, same, named⟩ := Option.map_eq_some_iff.1 (Option.mem_toList.1 probe)
        refine List.mem_append_right _ (List.mem_map.2 ⟨columns, ?_, named⟩)
        exact List.mem_dedup.2 (List.mem_filterMap.2 ⟨compiler, asked, same⟩)
  have bounded := (distinct.subperm inside).length_le
  simpa only [List.length_append, List.length_map] using bounded

/-- Whatever a compiler is asked for, and whether it succeeds or not: the tables of the main schema and of
attached ones stay as they are, and so do the temporary ones; behind these there are at most the helper tables
of the compiler, and nothing if these are there already. What has been read of the catalogs is not forgotten,
unless the engine refuses to make a helper table. Lookups about other tables are answered as before, unless a
temporary table has named one of those that have been added, or the catalogs have to be read again and cannot
be. Over any steps there are no more helper tables than descriptors and lists of columns that have been asked
for. -/
theorem requests_framed (reachable : Reachable (fun _ => True) session) :
    (∀ id compiler request, session.compiler? id = some compiler →
      let before := session.database
      let later := (session.step (.request id request)).2.2
      ∃ made, compiler.Adds before made ∧
        later.database.main.content = before.main.content ∧
        later.database.attached.map Schema.content = before.attached.map Schema.content ∧
        later.database.temp.tables = before.temp.tables ++ made ∧
        ((∀ name ∈ compiler.helpers, (before.temp.find? name).isSome = true) → made = []) ∧
        (∀ name, ¬IsPrivate name → Table.find? made name = none) ∧
        (before.Remembers later.database ∨ compiler.Refused before) ∧
        (before.Unmentioned made → before.Remembers later.database ∨ before.Rereads →
          ∀ table question, Table.find? made table = none → question.About table →
            (later.step (.lookup question)).1 = (session.step (.lookup question)).1)) ∧
    (session.database.temp.tables = [] → ∀ steps,
      (session.helpersAfter steps).length ≤
        ((session.asked steps).map fun compiler => compiler.tokenizer.descriptor).dedup.length +
        ((session.asked steps).filterMap fun compiler => compiler.validator.probe.columns?).dedup.length) := by
  refine ⟨?_, fun none => length_helpersAfter reachable none⟩
  intro id compiler request found before later
  obtain ⟨made, leaves⟩ := step_leaves reachable found request
  refine ⟨made, leaves.adds, leaves.grows.main, leaves.grows.attached, leaves.grows.temp_tables, ?_, ?_,
    leaves.remembers, ?_⟩
  · exact fun there => leaves.adds.eq_nil there
  · exact fun name other => leaves.adds.find?_eq_none other
  · intro unmentioned remembers table question other about
    exact lookup_request reachable found request leaves unmentioned remembers other about

-- A row of a temporary table that breaks its foreign key, and two compilers with the same settings.
theorem requests_framed_temporary :
    (∃ session later, session = fresh.after
        [.build (.createTable "temp" "u" ⟨[⟨"a", ""⟩], [], [], [⟨["a"], "v", none, none, none, none⟩], false⟩),
        .build (.insert "temp" "u" [[.int 1]]), .create "c" {}] ∧
      later = (session.step (.request "c" (.tokenize "one"))).2.2 ∧
      later.database.main.content = session.database.main.content ∧
      session.database.temp.tables.length = 1 ∧ later.database.temp.tables.length = 2 ∧
      (session.step (.lookup (.violations (some "u") none))).1 = .ok (.violations [⟨"u", some 1, "v", 0⟩]) ∧
      (later.step (.lookup (.violations (some "u") none))).1 = .ok (.violations [⟨"u", some 1, "v", 0⟩])) ∧
    (fresh.helpersAfter [.create "c" {}, .request "c" (.tokenize "one"), .create "d" {},
      .request "d" (.compile "two")]).length ≤ 2 := by
  constructor
  · refine ⟨_, _, rfl, rfl, ?_⟩
    generalize made : fresh.after
      [.build (.createTable "temp" "u" ⟨[⟨"a", ""⟩], [], [], [⟨["a"], "v", none, none, none, none⟩], false⟩),
      .build (.insert "temp" "u" [[.int 1]]), .create "c" {}] = session
    have reachable : Reachable (fun _ => True) session := by
      rw [← made]
      exact (Reachable.opened _).after fun _ _ => trivial
    obtain ⟨known, one, two, mentions, usable, unopened, violations⟩ :
        (session.compiler? "c").isSome = true ∧ session.database.temp.tables.length = 1 ∧
        (session.step (.request "c" (.tokenize "one"))).2.2.database.temp.tables.length = 2 ∧
        session.database.temp.tables.flatMap Table.mentions = ["v"] ∧
        session.database.condition ≠ .locked ∧ session.database.forget.unopened = [] ∧
        (session.step (.lookup (.violations (some "u") none))).1 =
          .ok (.violations [⟨"u", some 1, "v", 0⟩]) := by
      rw [← made]
      decide +kernel
    obtain ⟨compiler, found⟩ := Option.isSome_iff_exists.1 known
    obtain ⟨tables, -, main, -, -, -, free, -, same⟩ :=
      (requests_framed reachable).1 "c" compiler (.tokenize "one") found
    have unmentioned : session.database.Unmentioned tables := by
      intro table member name mentioned _
      have listed := List.mem_flatMap.2 ⟨table, member, mentioned⟩
      rw [mentions, List.mem_singleton] at listed
      rw [listed]
      exact free "v" (by unfold IsPrivate; decide)
    have rereads : session.database.Rereads := ⟨usable, by simp [unopened]⟩
    have about : (Lookup.violations (some "u") none).About "u" := .violations none
    have other : Table.find? tables "u" = none := free "u" (by unfold IsPrivate; decide)
    refine ⟨main, one, two, violations, ?_⟩
    rw [same unmentioned (.inr rereads) "u" _ other about, violations]
  · have counted := (requests_framed (Reachable.opened memoryPath)).2 rfl
      [.create "c" {}, .request "c" (.tokenize "one"), .create "d" {}, .request "d" (.compile "two")]
    refine counted.trans ?_
    decide +kernel

-- A foreign key to a table that is added, a catalog that is locked, and the name of a helper table in
-- capital letters.
theorem lookups_disturbed :
    (∃ session later, Reachable (fun _ => True) session ∧ session = fresh.after
        [.build (.createTable "temp" "t" ⟨[⟨"a", ""⟩], [], [],
          [⟨["a"], "safematch_tokens_0f7d0d088b6e", none, none, none, none⟩], false⟩),
        .build (.insert "temp" "t" [[.int 1]]), .create "c" {}] ∧
      later = (session.step (.request "c" (.tokenize "a"))).2.2 ∧
      (session.step (.lookup (.violations (some "t") (some "temp")))).1 =
        .ok (.violations [⟨"t", some 1, "safematch_tokens_0f7d0d088b6e", 0⟩]) ∧
      (later.step (.lookup (.violations (some "t") (some "temp")))).1 ≠
        .ok (.violations [⟨"t", some 1, "safematch_tokens_0f7d0d088b6e", 0⟩])) ∧
    (∃ session later, Reachable (fun _ => True) session ∧ session = ({ path := "stored.db" } : Session).after
        [.build (.createTable "temp" "u" ⟨[⟨"a", ""⟩], [], [], [], false⟩),
        .create "c" { tokenizer := "none" }, .build .lock] ∧
      later = (session.step (.request "c" (.tokenize "a"))).2.2 ∧
      (session.step (.lookup (.resolve "u" none))).1 = .ok (.text "temp") ∧
      (later.step (.lookup (.resolve "u" none))).1 ≠ .ok (.text "temp")) ∧
    ∃ session later, Reachable (fun _ => True) session ∧ session = fresh.after [.create "c" {}] ∧
      later = (session.step (.request "c" (.tokenize "a"))).2.2 ∧
      startsWith "SAFEMATCH_TOKENS_0F7D0D088B6E" helperFamily = false ∧
      (later.step (.lookup (.resolve "SAFEMATCH_TOKENS_0F7D0D088B6E" none))).1 = .ok (.text "temp") ∧
      (session.step (.lookup (.resolve "SAFEMATCH_TOKENS_0F7D0D088B6E" none))).1 ≠ .ok (.text "temp") := by
  have reachable (path : String) (steps : List Step) :
      Reachable (fun _ => True) (({ path } : Session).after steps) :=
    (Reachable.opened path).after fun _ _ => trivial
  refine ⟨⟨_, _, reachable _ _, rfl, rfl, ?_⟩, ⟨_, _, reachable _ _, rfl, rfl, ?_⟩,
    ⟨_, _, reachable _ _, rfl, rfl, ?_⟩⟩
  · decide +kernel
  · decide +kernel
  · decide +kernel

end Session

end TextQuery
