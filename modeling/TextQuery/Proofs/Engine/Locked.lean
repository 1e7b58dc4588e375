import TextQuery.Proofs.Engine.Refusing

set_option autoImplicit false

namespace TextQuery.Engine

open Text

namespace Database

variable {before after : Database}

theorem Idles.beside (idles : before.Idles after) : after.Beside Lacks before := by
  obtain ⟨isTempUsed, rfl⟩ := idles
  exact ⟨before.sound, before.isTempUsed, rfl, .refl _⟩

def Notes (wording : Wording) (before after : Database) : Prop :=
  ∃ sound isTempUsed, after = { before with sound, isTempUsed } ∧
    (sound = before.sound ∨ sound = wording :: before.sound)

theorem Notes.beside {wording : Wording} (notes : before.Notes wording after)
    (single : wording.length = 1) : after.Beside Lacks before := by
  obtain ⟨sound, isTempUsed, rfl, rfl | rfl⟩ := notes
  · exact ⟨before.sound, before.isTempUsed, rfl, .refl _⟩
  · exact ⟨before.sound, before.isTempUsed, rfl, {
      fewer := fun _ member => List.mem_cons_of_mem _ member
      several := fun _ member several => by
        rcases List.mem_cons.1 member with rfl | member
        · exact absurd single several
        · exact member }⟩

end Database

-- What a database answers as an engine.
theorem answer_database {α : Type} (statement : Statement α) (database : Database) :
    TextQuery.Engine.answer statement database = Change.answer statement database := rfl

theorem eq_of_fst {α β : Type} {pair : α × β} {first : α} (same : pair.1 = first) : pair = (first, pair.2) :=
  Prod.ext same rfl

namespace Change

variable {α : Type} {statement : Statement α} {database after : Database}

theorem quiet_answer (opens : Database.target? statement = none) (quiet : Quiet (respond statement)) :
    Quiet (answer statement) := by
  intro database locked
  rcases answer_locked statement locked with ⟨fault, after, ran, idles, -⟩ | ⟨ready, idles, -, ran⟩
  · rw [ran]
    exact idles
  · have opened : Quiet (openTarget statement) := by
      unfold openTarget
      rw [opens]
      exact quiet_pure _
    rw [ran]
    exact idles.trans (quiet_bind opened (fun _ => quiet) ready (idles.follows.condition.trans locked))

theorem quiet_lookup (lookup : statement.purpose = .lookup) (opens : Database.target? statement = none) :
    Quiet (answer statement) := by
  apply quiet_answer opens
  cases statement with
  | createTokens | createProbe | selectTokens | matchProbe => cases lookup
  | tableInfo | selectRow => cases opens
  | databaseList => exact fun database _ => .refl database
  | tableExists | tableSql | foreignKeyList | foreignKeyCheck => exact quiet_find _

-- Where a refusal comes from: the statement is stopped before it begins, or by what it reads.
theorem answer_refused (locked : database.condition = .locked)
    (refused : answer statement database = (.error .busy, after)) :
    (database.Idles after ∧ ([statement.text] ∈ database.sound ∨ database.isRead = false)) ∨
    ∃ ready opened, database.Idles ready ∧ openTarget statement ready = (.ok (), opened) ∧
      respond statement opened = (.error .busy, after) := by
  rcases answer_locked statement locked with ⟨fault, stopped, ran, idles, why⟩ | ⟨ready, idles, -, ran⟩
  · obtain ⟨same, rfl⟩ := Prod.mk.inj (ran.symm.trans refused)
    exact .inl ⟨idles, why (Except.error.inj same)⟩
  · rw [ran] at refused
    cases opening : openTarget statement ready with
    | mk answer opened =>
      have calm := calm_openTarget statement ready
      rw [opening] at calm
      cases answer with
      | error fault =>
        rw [bind_error _ opening] at refused
        exact absurd (Except.error.inj (congrArg Prod.fst refused)) (calm_error.1 calm)
      | ok _ =>
        rw [bind_ok _ opening] at refused
        exact .inr ⟨ready, opened, idles, opening, refused⟩

-- Where the response is never refused, the statement has not begun.
theorem refused_early (locked : database.condition = .locked) (calm : ∀ opened, Calm (respond statement opened).1)
    (refused : answer statement database = (.error .busy, after)) :
    database.Idles after ∧ ([statement.text] ∈ database.sound ∨ database.isRead = false) := by
  rcases answer_refused locked refused with early | ⟨ready, opened, -, -, responds⟩
  · exact early
  · exact absurd (congrArg Prod.fst responds) (calm opened)

theorem follows_opened {ready opened : Database} (opening : openTarget statement ready = (.ok (), opened)) :
    ready.Follows opened := by
  simpa [opening] using keeps_openTarget ready.steady_follows statement ready (.refl ready)

-- What reads the main schema through a table is stopped before the table is opened.
theorem opened_of_refused (regular : database.Regular) (locked : database.condition = .locked)
    {ready opened : Database} (idles : database.Idles ready)
    (opening : openTarget statement ready = (.ok (), opened)) {schema table : String}
    (target : Database.target? statement = some (schema, table))
    (reads : ∀ home held, opened.locate schema table = .ok (home, held) →
      opened.touch (opened.underlying opened.tableFuel home held).1.name = .error .busy) : opened = ready := by
  have follows := follows_opened opening
  refine openTarget_main (idles.regular regular) (idles.follows.condition.trans locked) ?_ opening
  intro first second home held same located
  obtain ⟨rfl, rfl⟩ := Prod.mk.inj (Option.some.inj (target.symm.trans same))
  have busy := reads home held ((follows.locate _ _).trans located)
  rwa [follows.touch, follows.underlying, Database.tableFuel, follows.schemas] at busy

theorem tableInfo_busy {schema table : String} (busy : database.tableInfo schema table = .error .busy) :
    ∃ home, database.schema? schema = some home ∧ database.touch home.name = .error .busy := by
  unfold Database.tableInfo Database.described at busy
  cases found : database.schema? schema with
  | none =>
    rw [Database.schemaOr, found] at busy
    exact absurd (Except.error.inj busy) (Fault.operational_ne_busy _)
  | some home =>
    refine ⟨home, rfl, ?_⟩
    rw [Database.schemaOr_eq_ok.2 found] at busy
    by_contra free
    refine calm_bind (calm_ok home) (fun _ same => ?_) busy
    obtain rfl := Except.ok.inj same
    extract_lets last
    have finished (columns : List ColumnInfo) : Calm (last columns) := calm_bind free fun _ _ => calm_ok _
    split
    · exact finished _
    · split
      · exact finished _
      · exact calm_bind (Database.calm_relationOf _ _ _) fun _ _ => finished _

theorem selectRow_busy {schema table : String} {rowid : Int}
    (busy : selectRow schema table rowid database = (.error .busy, after)) :
    after = database ∧ ∃ home held relation, database.locate schema table = .ok (home, held) ∧
      database.relationOf home held = .ok relation ∧ database.touch relation.home = .error .busy := by
  unfold selectRow at busy
  rw [bind_find] at busy
  cases located : database.locate schema table with
  | error fault =>
    rw [located, Database.locate_eq_error located] at busy
    exact absurd (Except.error.inj (congrArg Prod.fst busy)) (Fault.operational_ne_busy _)
  | ok found =>
    obtain ⟨home, held⟩ := found
    rw [located] at busy
    dsimp only at busy
    rw [bind_find] at busy
    have calm := Database.calm_relation database database.tableFuel [] home held
    cases made : database.relationOf home held with
    | error fault =>
      rw [made] at busy
      have failed : fault = .busy := Except.error.inj (congrArg Prod.fst busy)
      exact absurd (made.trans (congrArg Except.error failed)) calm.1
    | ok relation =>
      rw [made] at busy
      dsimp only at busy
      rw [bind_lift] at busy
      cases checked : relation.checkNumbered with
      | error fault =>
        have numbered := Database.calm_checkNumbered relation
        rw [checked] at busy numbered
        exact absurd (Except.error.inj (congrArg Prod.fst busy)) (calm_error.1 numbered)
      | ok _ =>
        rw [checked] at busy
        dsimp only at busy
        split at busy
        · cases busy
        · cases touched : database.touch relation.home with
          | error fault =>
            have stopped : touch relation.home database = (.error fault, database) := congrArg (·, database) touched
            rw [bind_error _ stopped] at busy
            obtain ⟨same, rfl⟩ := Prod.mk.inj busy
            exact ⟨rfl, home, held, relation, rfl, made, touched.trans (congrArg _ (Except.error.inj same))⟩
          | ok _ =>
            have free : touch relation.home database = (.ok (), database) := congrArg (·, database) touched
            rw [bind_ok _ free] at busy
            refine absurd (congrArg Prod.fst busy) (calm_bind_change (calm_beginReading _ _) fun _ later => ?_)
            refine calm_bind_change ?_ fun _ _ => calm_ok _
            change Calm (relation.rowsOfNumber rowid)
            unfold Relation.rowsOfNumber
            split
            · exact calm_bind (calm.2 relation made) fun _ _ => calm_ok _
            · exact calm_bind (calm.2 relation made) fun _ _ => calm_ok _
            · exact calm_ok _

theorem refused_lookup (regular : database.Regular) (locked : database.condition = .locked)
    (lookup : statement.purpose = .lookup) (refused : answer statement database = (.error .busy, after)) :
    database.Idles after := by
  have quietly (opens : Database.target? statement = none) : database.Idles after := by
    have idles := quiet_lookup lookup opens database locked
    rwa [refused] at idles
  rcases answer_refused locked refused with ⟨idles, -⟩ | ⟨ready, opened, idles, opening, responds⟩
  · exact idles
  cases statement with
  | createTokens | createProbe | selectTokens | matchProbe => cases lookup
  | databaseList | tableExists | tableSql | foreignKeyList | foreignKeyCheck => exact quietly rfl
  | tableInfo schema table =>
    obtain ⟨busy, rfl⟩ := Prod.mk.inj responds
    obtain ⟨home, known, touched⟩ := tableInfo_busy busy
    have follows := idles.follows.trans (follows_opened opening)
    have inside : home ∈ database.schemas := by
      rw [← follows.schemas]
      exact List.mem_of_find?_eq_some known
    -- The main schema is not the temporary one, so that its views stay within it.
    have main : home = database.main :=
      eq_of_sameName regular.apart inside (by simp [Database.schemas])
        (follows.main ▸ Database.touch_eq_busy touched)
    have other : home.name ≠ opened.temp.name := by
      rw [main, follows.temp, regular.main, regular.temp]
      decide
    obtain rfl := opened_of_refused regular locked idles opening rfl fun found held located => by
      obtain rfl := Option.some.inj (known.symm.trans (Database.locate_eq_ok located).1)
      rwa [Database.underlying_own _ _ other]
    exact idles
  | selectRow schema table rowid =>
    obtain ⟨rfl, home, held, relation, located, made, touched⟩ := selectRow_busy responds
    obtain rfl := opened_of_refused regular locked idles opening rfl fun found under also => by
      obtain ⟨rfl, rfl⟩ := Prod.mk.inj (Except.ok.inj (located.symm.trans also))
      rwa [← Database.relation_underlying _ made]
    exact idles

theorem tableInfo_refused (regular : database.Regular) (locked : database.condition = .locked)
    (known : database.isRead = true) {schema table : String}
    (refused : answer (.tableInfo schema table) database = (.error .busy, after)) :
    sameName schema database.main.name = true := by
  rcases answer_refused locked refused with ⟨-, noted | unread⟩ | ⟨ready, opened, idles, opening, responds⟩
  · exact absurd noted (regular.unknown_lookup rfl)
  · rw [known] at unread
    cases unread
  · obtain ⟨home, found, touched⟩ := tableInfo_busy (congrArg Prod.fst responds)
    have follows := idles.follows.trans (follows_opened opening)
    rw [← follows.main]
    exact sameName_trans (sameName_symm (Database.sameName_of_schema? found)) (Database.touch_eq_busy touched)

theorem selectRow_refused (regular : database.Regular) (locked : database.condition = .locked)
    (known : database.isRead = true) {schema table : String} {rowid : Int}
    (refused : answer (.selectRow schema table rowid) database = (.error .busy, after)) :
    sameName schema database.main.name = true ∨ (sameName schema database.temp.name = true ∧
      ∃ view ∈ database.temp.tables, view.isView = true ∧ sameName view.name table = true) := by
  rcases answer_refused locked refused with ⟨-, noted | unread⟩ | ⟨ready, opened, idles, opening, responds⟩
  · exact absurd noted (regular.unknown_lookup rfl)
  · rw [known] at unread
    cases unread
  · obtain ⟨-, home, held, relation, located, made, touched⟩ := selectRow_busy responds
    have follows := idles.follows.trans (follows_opened opening)
    rw [← follows.main, ← follows.temp]
    have main := Database.touch_eq_busy touched
    by_cases own : home.name ≠ opened.temp.name ∨ held.isView = false
    · rw [Database.relation_home _ made own] at main
      exact .inl (sameName_trans (sameName_symm (Database.sameName_of_schema? (Database.locate_eq_ok located).1)) main)
    · rw [not_or, not_not, Bool.not_eq_false] at own
      exact Database.view_of_locate located own.1 own.2

theorem refused_match (regular : database.Regular) (locked : database.condition = .locked) {target : Target}
    {expression : String} (refused : answer (.matchProbe target expression) database = (.error .busy, after)) :
    database.Notes [(Statement.matchProbe target expression).text] after := by
  rcases answer_refused locked refused with ⟨idles, -⟩ | ⟨ready, opened, idles, opening, responds⟩
  · obtain ⟨isTempUsed, rfl⟩ := idles
    exact ⟨database.sound, isTempUsed, rfl, .inl rfl⟩
  · have responds : matchProbe target expression opened = (.error .busy, after) := responds
    obtain ⟨home, held, located, touched, noted⟩ := matchProbe_refused (congrArg Prod.fst responds)
    rw [responds] at noted
    obtain rfl := opened_of_refused regular locked idles opening rfl fun found under also => by
      obtain ⟨rfl, rfl⟩ := Prod.mk.inj (Except.ok.inj (located.symm.trans also))
      exact touched
    obtain ⟨isTempUsed, rfl⟩ := idles
    exact ⟨_, isTempUsed, noted, .inr rfl⟩

theorem match_reads (locked : database.condition = .locked) (known : database.isRead = true) {target : Target}
    {expression : String} (unnoted : [(Statement.matchProbe target expression).text] ∉ database.sound)
    (refused : (answer (.matchProbe target expression) database).1 = .error .busy) :
    ∃ home held, database.locate target.schema target.table = .ok (home, held) ∧
      database.touch (database.underlying database.tableFuel home held).1.name = .error .busy := by
  rcases answer_refused locked (Prod.ext refused rfl) with ⟨-, noted | unread⟩ | ⟨ready, opened, idles, opening, responds⟩
  · exact absurd noted unnoted
  · rw [known] at unread
    cases unread
  · obtain ⟨home, held, located, touched, -⟩ := matchProbe_refused (congrArg Prod.fst responds)
    have follows := idles.follows.trans (follows_opened opening)
    rw [follows.locate] at located
    rw [follows.touch, follows.underlying, Database.tableFuel, follows.schemas] at touched
    exact ⟨home, held, located, touched⟩

theorem calm_createProbe (table : String) (columns : List String) :
    Calm (createProbe table columns database).1 := by
  rw [createProbe_eq]
  split
  · split
    · exact calm_operational _
    · refine calm_bind_change ?_ fun tables after => ?_
      · have calm := FullText.calm_make database.temp table
          (FullText.sql table fullTextClause (columns.map identifier)) columns
        cases made : FullText.make database.temp table
            (FullText.sql table fullTextClause (columns.map identifier))
            ((columns.map identifier).map String.toList) with
        | ok tables => exact calm_ok _
        | error fault =>
          rw [made] at calm
          exact calm_error.2 (calm_error.1 calm)
      · unfold addTables
        rw [alter_eq]
        exact calm_ok _
  · exact calm_ok _

end Change

end TextQuery.Engine
