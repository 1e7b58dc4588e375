import TextQuery.Proofs.Catalog.Searching
import TextQuery.Proofs.Engine.Guarding
import TextQuery.Proofs.Engine.Witnessing

set_option autoImplicit false

namespace TextQuery

open Engine Engine.Change Text Attempt

theorem Attempt.run_bind_eq_error {σ α β : Type} {first : Attempt σ α} {next : α → Attempt σ β} {world after : World σ}
    {failure : Failure} (failed : (first >>= next).run world = (.error failure, after)) :
    first.run world = (.error failure, after) ∨
      ∃ value middle, first.run world = (.ok value, middle) ∧ (next value).run middle = (.error failure, after) := by
  cases ran : first.run world with
  | mk answer middle =>
    cases answer with
    | ok value => exact .inr ⟨value, middle, rfl, by rwa [run_bind_ok next ran] at failed⟩
    | error other =>
      rw [run_bind_error next ran] at failed
      obtain ⟨same, rfl⟩ := Prod.mk.inj failed
      exact .inl (congrArg (·, middle) (congrArg Except.error (Except.error.inj same)))

theorem Attempt.pure_ne_error {σ α : Type} (value : α) {world after : World σ} {failure : Failure} :
    (pure value : Attempt σ α).run world ≠ (.error failure, after) := by rintro ⟨⟩

theorem Attempt.run_bind_eq_ok {σ α β : Type} {first : Attempt σ α} {next : α → Attempt σ β} {world after : World σ}
    {result : β} (done : (first >>= next).run world = (.ok result, after)) :
    ∃ value middle, first.run world = (.ok value, middle) ∧ (next value).run middle = (.ok result, after) := by
  cases ran : first.run world with
  | mk answer middle =>
    cases answer with
    | ok value => exact ⟨value, middle, rfl, by rwa [run_bind_ok next ran] at done⟩
    | error failure =>
      rw [run_bind_error next ran] at done
      cases done

theorem Attempt.answer_of_refused {σ α : Type} [Engine σ] {statement : Statement α} {world after : World σ}
    (refused : (ask statement).run world = (.error (.engine .busy), after)) :
    Engine.answer statement world.engine = (.error .busy, after.engine) := by
  rw [run_ask] at refused
  obtain ⟨failed, rfl⟩ := Prod.mk.inj refused
  cases answered : (Engine.answer statement world.engine).1 with
  | ok value =>
    rw [answered] at failed
    cases failed
  | error fault =>
    rw [answered] at failed
    obtain rfl : fault = .busy := Failure.engine.inj (Except.error.inj failed)
    exact Prod.ext answered rfl

theorem Attempt.answer_of_found {σ α : Type} [Engine σ] {statement : Statement α} {world after : World σ} {value : α}
    (found : (ask statement).run world = (.ok value, after)) :
    Engine.answer statement world.engine = (.ok value, after.engine) := by
  rw [run_ask] at found
  obtain ⟨done, rfl⟩ := Prod.mk.inj found
  cases answered : (Engine.answer statement world.engine).1 with
  | ok other =>
    rw [answered] at done
    cases done
    exact Prod.ext answered rfl
  | error fault =>
    rw [answered] at done
    cases done

section

variable {base : Database} (locked : base.condition = .locked)
include locked

theorem idles_asked {α : Type} {statement : Statement α} (lookup : statement.purpose = .lookup)
    (opens : Database.target? statement = none) :
    ∀ engine : Database, base.Idles engine → base.Idles (Engine.answer statement engine).2 :=
  fun engine idles => idles.trans (quiet_lookup lookup opens engine (idles.follows.condition.trans locked))

namespace Catalog

theorem idles_schemaNames : Keeps base.Idles (schemaNames : Attempt Database _) :=
  keeps_bind (keeps_ask (idles_asked locked rfl rfl)) fun _ => keeps_pure _

theorem idles_ensureSchema (schema : String) : Keeps base.Idles (ensureSchema schema : Attempt Database _) := by
  refine keeps_bind (idles_schemaNames locked) fun names => ?_
  split
  · exact keeps_pure _
  · exact keeps_fail _

theorem idles_firstHolding (table : String) (names : List String) :
    Keeps base.Idles (firstHolding table names : Attempt Database _) := by
  induction names with
  | nil => exact keeps_pure _
  | cons name names ih =>
    refine keeps_bind (keeps_ask (idles_asked locked rfl rfl)) fun found => ?_
    split
    · exact keeps_pure _
    · exact ih

theorem idles_resolve (table : String) (schema : Option String) :
    Keeps base.Idles (resolve table schema : Attempt Database _) := by
  cases schema with
  | some schema =>
    refine keeps_bind (idles_ensureSchema locked schema) fun name =>
      keeps_bind (keeps_ask (idles_asked locked rfl rfl)) fun found => ?_
    split
    · exact keeps_pure _
    · exact keeps_fail _
  | none =>
    refine keeps_bind (idles_schemaNames locked) fun names =>
      keeps_bind (idles_firstHolding locked table names) fun found => ?_
    split
    · exact keeps_pure _
    · exact keeps_fail _

theorem idles_tableSql (table schema : String) :
    Keeps base.Idles (tableSql table schema : Attempt Database _) :=
  keeps_bind (keeps_ask (idles_asked locked rfl rfl)) fun _ => keeps_pure _

-- A table that is found under a lock is in another schema than the main one.
theorem Holds.elsewhere {world after : World Database} {table : String} {home : Schema}
    (holds : Holds world table home after) (idles : base.Idles world.engine) :
    sameName home.name base.main.name = false ∧ after.engine.isRead = true := by
  obtain ⟨reading, untouched⟩ := Database.access_eq_ok.1 holds.ready
  have stays : after.engine.condition = .locked :=
    holds.toFollows.condition.trans (idles.follows.condition.trans locked)
  constructor
  · rw [Bool.eq_false_iff]
    intro main
    unfold Database.touch at untouched
    rw [stays, holds.toFollows.main, idles.follows.main, main] at untouched
    cases untouched
  · rcases Database.readable_of_reading reading with usable | ⟨-, isRead⟩
    · rw [stays] at usable
      cases usable
    · exact isRead

omit locked in
-- A name for a schema that is always there picks that one.
theorem sameName_of_canonical {names : List String} {schema name always : String}
    (picked : canonical? names schema = some name) (member : always ∈ standing)
    (same : sameName schema always = true) : sameName name always = true := by
  have plain : ∀ name ∈ standing, ∀ d ∈ name.toList, d ∈ Text.Case.standingLetters := by
    simp only [← List.forall_iff_forall_mem]
    decide
  have fixed : ∀ name ∈ standing, lower name = name := by decide
  have lowered : lower name = lower schema := by simpa using List.find?_some picked
  exact sameName_of_lower (plain always member) (lowered.trans ((lower_congr same).trans (fixed always member)))

end Catalog

structure Engine.Database.Knows (base database : Database) : Prop where
  follows : base.Follows database
  regular : database.Regular
  isRead : database.isRead = true

omit locked in
theorem Engine.Database.lookedUp_knows (base : Database) : LookedUp base.Knows := by
  intro α statement lookup engine knows
  have later := keeps_lookup engine.steady_follows lookup engine (.refl engine)
  exact ⟨knows.follows.trans later, keeps_lookup Database.Regular.lasting.toSteady lookup engine knows.regular,
    later.isRead knows.isRead⟩

namespace ForeignKey

open Catalog

theorem idles_check (table schema : Option String) :
    Keeps base.Idles (check table schema : Attempt Database _) := by
  unfold check
  extract_lets rest
  have kept (resolved : String) : Keeps base.Idles (rest resolved) :=
    keeps_bind (keeps_ask (idles_asked locked rfl rfl)) fun _ => keeps_pure _
  cases table with
  | some table => exact keeps_bind (idles_resolve locked table schema) kept
  | none =>
    cases schema with
    | some schema => exact keeps_bind (idles_ensureSchema locked schema) kept
    | none => exact keeps_bind (keeps_pure _) kept

-- The columns that keys of another schema point at are not read from the main one.
theorem not_busy_ofListing {resolved : String} (other : sameName resolved base.main.name = false)
    (columns : List KeyColumn) (ids : List Int) {world after : World Database} (knows : base.Knows world.engine) :
    (ofListing resolved columns ids : Attempt Database _).run world ≠ (.error (.engine .busy), after) := by
  induction ids generalizing world after with
  | nil => rintro ⟨⟩
  | cons id ids ih =>
    intro failed
    rcases run_bind_eq_error failed with first | ⟨key, middle, first, failed⟩
    · cases parts : columnsOf columns id with
      | nil =>
        rw [parts] at first
        cases first
      | cons part rest =>
        rw [parts] at first
        rcases run_bind_eq_error first with first | ⟨_, _, -, ⟨⟩⟩
        unfold destinationsOf at first
        split at first
        · cases first
        · rcases run_bind_eq_error first with asked | ⟨_, _, -, ⟨⟩⟩
          have main := tableInfo_refused knows.regular (knows.follows.condition.trans locked) knows.isRead
            (answer_of_refused asked)
          rw [knows.follows.main, other] at main
          cases main
    · have later : base.Knows middle.engine := by
        have kept := keeps_ofListing base.lookedUp_knows resolved columns [id] world knows
        have one : (ofListing resolved columns [id] : Attempt Database _).run world = (.ok (key.toList ++ []), middle) :=
          run_bind_ok _ first
        rwa [one] at kept
      rcases run_bind_eq_error failed with rest | ⟨_, _, -, ⟨⟩⟩
      exact ih later rest

variable (regular : base.Regular) {world after : World Database} (idles : base.Idles world.engine)
include regular idles

theorem idles_refused {α : Type} {statement : Statement α} (lookup : statement.purpose = .lookup)
    (refused : (ask statement : Attempt Database α).run world = (.error (.engine .busy), after)) :
    base.Idles after.engine :=
  idles.trans (refused_lookup (idles.regular regular) (idles.follows.condition.trans locked) lookup
    (answer_of_refused refused))

theorem idles_declared {table : String} {schema : Option String}
    (refused : (declared table schema : Attempt Database _).run world = (.error (.engine .busy), after)) :
    base.Idles after.engine := by
  rcases run_bind_eq_error refused with first | ⟨resolved, middle, first, refused⟩
  · simpa [first] using idles_resolve locked table schema world idles
  have middling : base.Idles middle.engine := by simpa [first] using idles_resolve locked table schema world idles
  obtain ⟨home, rfl, holds⟩ := resolve_ok (idles.regular regular) first
  obtain ⟨other, known⟩ := holds.elsewhere locked idles
  rcases run_bind_eq_error refused with second | ⟨columns, listed, second, refused⟩
  · exact idles_refused locked regular middling rfl second
  have listing : base.Idles listed.engine := by
    simpa [second] using keeps_ask (@idles_asked base locked _ (.foreignKeyList home.name table) rfl rfl) middle middling
  rcases run_bind_eq_error refused with third | ⟨keys, found, -, refused⟩
  · refine absurd third (not_busy_ofListing locked other columns _ ⟨listing.follows, listing.regular regular, ?_⟩)
    rw [listing.isRead, ← middling.isRead, known]
  · cases refused

theorem idles_describe {violation : Violation} {schema : String}
    (refused : (describe violation schema : Attempt Database _).run world = (.error (.engine .busy), after)) :
    base.Idles after.engine := by
  unfold describe at refused
  rcases run_bind_eq_error refused with first | ⟨keys, described, first, refused⟩
  · exact idles_declared locked regular idles first
  have shown : ∃ rowid, (ask (.selectRow schema violation.originTable rowid) : Attempt Database _).run described =
      (.error (.engine .busy), after) := by
    extract_lets key rest at refused
    have done (row : Option Row) (world : World Database) : (rest row).run world ≠ (.error (.engine .busy), after) :=
      pure_ne_error _
    split at refused
    · rename_i rowid _
      rcases run_bind_eq_error refused with asked | ⟨row, middle, -, last⟩
      · exact ⟨rowid, asked⟩
      · exact absurd last (done row middle)
    · rcases run_bind_eq_error refused with nothing | ⟨row, middle, -, last⟩
      · exact absurd nothing (pure_ne_error _)
      · exact absurd last (done row middle)
  obtain ⟨rowid, asked⟩ := shown
  obtain ⟨resolved, middle, second, first⟩ := run_bind_eq_ok first
  have middling : base.Idles middle.engine := by
    simpa [second] using idles_resolve locked violation.originTable (some schema) world idles
  have regularly := idles.regular regular
  obtain ⟨picked, home, rfl, holds⟩ := picked_of_resolve regularly second
  obtain ⟨other, known⟩ := holds.elsewhere locked idles
  obtain ⟨columns, listed, third, first⟩ := run_bind_eq_ok first
  have listing : base.Idles listed.engine := by
    simpa [third] using
      keeps_ask (@idles_asked base locked _ (.foreignKeyList home.name violation.originTable) rfl rfl) middle middling
  obtain ⟨found, made, fourth, last⟩ := run_bind_eq_ok first
  have unchanged : described.engine = made.engine := by
    obtain ⟨_, debugged, fifth, last⟩ := run_bind_eq_ok last
    cases fifth
    cases last
    rfl
  have knows : base.Knows made.engine := by
    have knows : base.Knows listed.engine :=
      ⟨listing.follows, listing.regular regular, by rw [listing.isRead, ← middling.isRead, known]⟩
    simpa [fourth] using keeps_ofListing base.lookedUp_knows home.name columns (listedIds columns) listed knows
  have stays := knows.follows.condition.trans locked
  have asked := answer_of_refused asked
  rw [unchanged] at asked
  rcases selectRow_refused knows.regular stays knows.isRead asked with main | ⟨temp, view, member, isView, same⟩
  · rw [knows.follows.main, regular.main] at main
    rw [regular.main, sameName_of_canonical picked (by simp [standing]) main] at other
    cases other
  · rw [knows.follows.temp] at temp member
    rw [regular.temp] at temp
    -- The table is the view that the row would have been read through.
    have named := sameName_of_canonical picked (by simp [standing]) temp
    have found : base.schema? home.name = some home := (idles.follows.schema? _).symm.trans holds.found
    obtain rfl : base.temp = home :=
      regular.home_eq found (by simp [Database.schemas]) (by rw [regular.temp]; exact sameName_symm named)
    obtain ⟨held, there⟩ := Option.isSome_iff_exists.1 holds.there
    obtain rfl : view = held := by
      have called : sameName held.name violation.originTable = true := by simpa using List.find?_some there
      exact eq_of_sameName (regular.distinct _ (by simp [Database.schemas])) member (List.mem_of_find?_eq_some there)
        (sameName_trans same (sameName_symm called))
    obtain rfl : columns = [] := by
      obtain ⟨ready, follows, responds⟩ := answer_responds (answer_of_found third)
      have follows := middling.follows.trans follows
      have untouched : ready.touch base.temp.name = .ok () := by
        rw [follows.touch, Database.touch, other, Bool.and_false]
        rfl
      have keys := Database.foreignKeyList_eq ((follows.schema? _).trans found) (find?_of_tables there) untouched
      have listed : ready.foreignKeyList base.temp.name violation.originTable = .ok columns := congrArg Prod.fst responds
      rw [keys] at listed
      rw [← Except.ok.inj listed]
      unfold Table.keyColumns
      unfold Table.isView at isView
      split
      · rename_i body
        rw [body] at isView
        cases isView
      · rfl
    have nothing : listed = made := congrArg Prod.snd fourth
    rw [← nothing] at unchanged asked
    exact listing.trans (refused_lookup (listing.regular regular) (listing.follows.condition.trans locked) rfl asked)

theorem idles_ensureNone {table schema : Option String}
    (refused : (ensureNone table schema : Attempt Database _).run world = (.error (.engine .busy), after)) :
    base.Idles after.engine := by
  unfold ensureNone at refused
  have checking := idles_check locked table schema world idles
  rcases run_bind_eq_error refused with first | ⟨⟨resolved, violations⟩, checked, first, refused⟩
  · rwa [first] at checking
  rw [first] at checking
  cases violations with
  | nil => cases refused
  | cons violation rest =>
    rcases run_bind_eq_error refused with described | ⟨message, told, -, refused⟩
    · exact idles_describe locked regular checking described
    · rcases run_bind_eq_error refused with debugged | ⟨_, _, -, failed⟩
      · cases debugged
      · cases failed

end ForeignKey

theorem Lookup.idles_run (regular : base.Regular) {world after : World Database} (idles : base.Idles world.engine)
    (question : Lookup)
    (refused : (question.run : Attempt Database Answer).run world = (.error (.engine .busy), after)) :
    base.Idles after.engine := by
  have first {α : Type} {attempt : Attempt Database α} {f : α → Answer}
      (refused : (attempt >>= fun value => pure (f value)).run world = (.error (.engine .busy), after)) :
      attempt.run world = (.error (.engine .busy), after) := by
    rcases run_bind_eq_error refused with first | ⟨_, _, -, last⟩
    · exact first
    · exact absurd last (pure_ne_error _)
  have quietly {α : Type} {attempt : Attempt Database α} {f : α → Answer} (kept : Keeps base.Idles attempt)
      (refused : (attempt >>= fun value => pure (f value)).run world = (.error (.engine .busy), after)) :
      base.Idles after.engine := by
    simpa [first refused] using kept world idles
  unfold Lookup.run at refused
  cases question with
  | schemaNames => exact quietly (Catalog.idles_schemaNames locked) refused
  | ensureSchema schema => exact quietly (Catalog.idles_ensureSchema locked schema) refused
  | tableExists table schema => exact quietly (keeps_ask (idles_asked locked rfl rfl)) refused
  | tableSql table schema => exact quietly (Catalog.idles_tableSql locked table schema) refused
  | primaryKeyColumns table schema =>
    rcases run_bind_eq_error (first refused) with asked | ⟨_, _, -, ⟨⟩⟩
    exact ForeignKey.idles_refused locked regular idles rfl asked
  | resolve table schema => exact quietly (Catalog.idles_resolve locked table schema) refused
  | foreignKeys table schema => exact ForeignKey.idles_declared locked regular idles (first refused)
  | violations table schema =>
    exact quietly (keeps_bind (ForeignKey.idles_check locked table schema) fun _ => keeps_pure _) refused
  | ensureNone table schema =>
    rcases run_bind_eq_error refused with asked | ⟨_, _, -, last⟩
    · exact ForeignKey.idles_ensureNone locked regular idles asked
    · exact absurd last (pure_ne_error _)
  | describe violation schema => exact ForeignKey.idles_describe locked regular idles (first refused)

namespace Validator

theorem idles_locate (table : String) (schema : Option String) :
    Keeps base.Idles (locate table schema : Attempt Database Target) := by
  refine keeps_bind (Catalog.idles_resolve locked table schema) fun resolved =>
    keeps_bind (Catalog.idles_tableSql locked table resolved) fun sql => ?_
  split
  · exact keeps_pure _
  · exact keeps_fail _

variable (regular : base.Regular)
include regular

-- A probe is refused only as long as the catalog is not known.
theorem createProbe_refused {columns : List String} {after : Database}
    (refused : Change.answer (.createProbe (helper columns) columns) base = (.error .busy, after)) :
    base.isRead = false ∧ base.Idles after := by
  have calm (opened : Database) : Calm (respond (.createProbe (helper columns) columns) opened).1 :=
    calm_createProbe _ _
  obtain ⟨idles, noted | unread⟩ := refused_early locked calm refused
  · exact absurd noted (regular.unnoted_creation rfl)
  · exact ⟨unread, idles⟩

theorem not_refused_located (noting : base.Noting) {table : String} {schema : Option String} {target : Target}
    {journal : List Record} {found : World Database}
    (located : (locate table schema : Attempt Database Target).run { engine := base, journal } = (.ok target, found))
    (expression : String) : (Change.answer (.matchProbe target expression) found.engine).1 ≠ .error .busy := by
  have idles : base.Idles found.engine := by
    simpa [located] using idles_locate locked table schema { engine := base, journal } (.refl base)
  unfold locate at located
  obtain ⟨resolved, middle, first, located⟩ := run_bind_eq_ok located
  have middling : base.Idles middle.engine := by
    simpa [first] using Catalog.idles_resolve locked table schema { engine := base, journal } (.refl base)
  obtain ⟨home, rfl, holds⟩ := Catalog.resolve_ok regular first
  obtain ⟨other, known⟩ := holds.elsewhere locked (.refl base)
  obtain ⟨sql, told, second, located⟩ := run_bind_eq_ok located
  obtain ⟨held, there⟩ := Option.isSome_iff_exists.1 holds.there
  have noView : held.isView = false := by
    obtain ⟨stored, asked, answered, rest⟩ := run_bind_eq_ok second
    obtain ⟨after, tells, -⟩ := answer_tableSql holds.regular ((holds.toFollows.schema? _).trans holds.found) table
    have answered : Engine.answer (.tableSql home.name table) middle.engine = (.ok stored, asked.engine) :=
      answer_of_found answered
    change Change.answer (.tableSql home.name table) middle.engine = _ at answered
    rw [answered, holds.ready, there] at tells
    have stored := Except.ok.inj (congrArg Prod.fst tells)
    rw [Bool.eq_false_iff]
    intro isView
    rw [Option.filter_some, isView] at stored
    subst stored
    obtain rfl : "" = sql := Except.ok.inj (congrArg Prod.fst rest)
    rw [show Declaration.isFullText "" = false from rfl] at located
    cases located
  cases fullText : Declaration.isFullText sql with
  | false =>
    rw [fullText] at located
    cases located
  | true =>
    rw [fullText] at located
    obtain ⟨same, rfl⟩ := Prod.mk.inj (show (Except.ok (Target.located home.name table), told) = (.ok target, found) from located)
    obtain rfl := Except.ok.inj same
    have untouched : base.touch home.name = .ok () := by
      rw [Database.touch, other, Bool.and_false]
      rfl
    have serves : base.Serves home.name table := ⟨home, held, ⟨holds.found, holds.there, untouched⟩, there, noView⟩
    have stays := idles.follows.condition.trans locked
    have noting : told.engine.Noting := by
      obtain ⟨isTempUsed, same⟩ := idles
      rw [same]
      exact noting
    have unnoted : [(Statement.matchProbe (.located home.name table) expression).text] ∉ told.engine.sound := by
      rcases serves.admits (sameName_refl table) idles.follows (idles.regular regular) noting expression with free | unnoted
      · exact absurd stays free
      · exact unnoted
    intro refused
    obtain ⟨also, under, located, touched⟩ := match_reads stays (by rw [idles.isRead, ← middling.isRead, known]) unnoted refused
    have entry : base.locate home.name table = .ok (home, held) := by
      unfold Database.locate
      rw [Database.schemaOr_eq_ok.2 holds.found]
      simp only [bind, Except.bind, ForeignKey.find?_of_tables there]
      rfl
    have located : told.engine.locate home.name table = .ok (also, under) := located
    rw [idles.follows.locate, entry] at located
    obtain ⟨rfl, rfl⟩ := Prod.mk.inj (Except.ok.inj located)
    rw [Database.underlying_other _ _ _ noView, idles.follows.touch, untouched] at touched
    cases touched

theorem refused_validate (noting : base.Noting) (guarded : base.Guarded) {validator : Validator} {expression : String}
    {purpose : Purpose} {journal : List Record} (records : List Record)
    (refused : (purpose, .busy) ∈ (((validator.validate expression : Run (Witnessed Database) _)
      { engine := { engine := base }, journal }).2.engine.faults)) :
    ((validator.validate expression) { engine := base, journal := records }).1.2 = validator ∧
      ((validator.validate expression) { engine := base, journal := records }).2.engine.Beside Lacks base := by
  rcases refused_cases records refused with
    ⟨-, columns, probe, lacking, refused⟩ | ⟨-, table, schema, probe, lacking, refused⟩ | ⟨-, target, found, find, refused⟩
  · obtain ⟨left, find⟩ := findTarget_helper { engine := base, journal := records : World Database } probe lacking
    rw [answer_database] at refused
    dsimp only at find
    rw [answer_database, refused] at find
    have unchanged := (createProbe_refused locked regular (eq_of_fst refused)).2.beside
    rw [validate_lost expression find]
    dsimp only
    exact ⟨rfl, unchanged⟩
  · have located : (validator.findTarget : Attempt Database Target) = locate table schema := by
      unfold findTarget
      rw [lacking, probe]
    have idles := idles_locate locked table schema { engine := base, journal := records } (.refl base)
    rw [← located] at refused idles
    have unchanged := idles.beside
    rw [validate_lost expression (eq_of_fst refused)]
    dsimp only
    exact ⟨rfl, unchanged⟩
  · obtain ⟨judged, left⟩ := validate_found expression find
    rw [answer_database] at refused judged left
    cases known : validator.target with
    | some held =>
      rw [findTarget_held _ known] at find
      obtain ⟨same, rfl⟩ := Prod.mk.inj find
      obtain rfl := Except.ok.inj same
      have other : FaultClass.of .busy = .other := by decide
      have unchanged := (refused_match regular locked (eq_of_fst refused)).beside rfl
      rw [judged, left, refused]
      refine ⟨?_, unchanged⟩
      simp only [judge, other, ← known]
    | none =>
      exfalso
      cases probe : validator.probe with
      | helper columns =>
        obtain ⟨rest, made⟩ := findTarget_helper { engine := base, journal := records : World Database } probe known
        rw [find] at made
        dsimp only at made
        rw [answer_database] at made
        cases created : (Change.answer (.createProbe (helper columns) columns) base).1 with
        | error fault =>
          rw [created] at made
          dsimp only at made
          split at made
          · cases made
          · cases made
        | ok _ =>
          rw [created] at made
          obtain ⟨same, rfl⟩ := Prod.mk.inj made
          obtain rfl := Except.ok.inj same
          have served := guarded.not_refused regular locked (eq_of_fst created) expression
          dsimp only at refused
          exact served refused
      | table table schema =>
        have located : (validator.findTarget : Attempt Database Target) = locate table schema := by
          unfold findTarget
          rw [known, probe]
        rw [located] at find
        have served := not_refused_located locked regular noting find expression
        exact served refused

end Validator

end

end TextQuery
