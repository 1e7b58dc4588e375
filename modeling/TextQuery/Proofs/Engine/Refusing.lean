import TextQuery.Proofs.Engine.Evening
import TextQuery.Proofs.Engine.Failing
import TextQuery.Proofs.Frame.Answering
import TextQuery.Proofs.Session.Twins

set_option autoImplicit false

namespace TextQuery

open Text

theorem Fault.operational_ne_busy (message : String) : Fault.operational message ≠ .busy := by
  intro same
  have code := congrArg Fault.code same
  revert code
  simp [Fault.operational, Fault.busy]

namespace Engine

/-- What is found, or a fault that is no lock. -/
def Calm {α : Type} (result : Except Fault α) : Prop := result ≠ .error .busy

section

variable {α β : Type}

theorem calm_ok (value : α) : Calm (.ok value : Except Fault α) := by rintro ⟨⟩

theorem calm_error {fault : Fault} : Calm (.error fault : Except Fault α) ↔ fault ≠ .busy :=
  not_congr ⟨Except.error.inj, congrArg Except.error⟩

theorem calm_operational (message : String) : Calm (.error (.operational message) : Except Fault α) :=
  calm_error.2 (Fault.operational_ne_busy message)

theorem calm_bind {first : Except Fault α} {next : α → Except Fault β} (calm : Calm first)
    (rest : ∀ value, first = .ok value → Calm (next value)) : Calm (first >>= next) := by
  cases first with
  | error fault => exact fun same => calm (congrArg Except.error (Except.error.inj same))
  | ok value => exact rest value rfl

theorem calm_mapM {f : α → Except Fault β} {entries : List α} (calm : ∀ entry ∈ entries, Calm (f entry)) :
    Calm (entries.mapM f) := by
  induction entries with
  | nil => exact calm_ok []
  | cons entry rest ih =>
    obtain ⟨first, others⟩ := List.forall_mem_cons.1 calm
    rw [List.mapM_cons]
    exact calm_bind first fun _ _ => calm_bind (ih others) fun _ _ => calm_ok _

end

namespace FullText

variable {source : Relation} {key : String} {index : FullText}

theorem calm_numbering : Calm (numbering source key) := by
  unfold numbering
  split
  · exact calm_ok _
  · split
    · exact calm_operational _
    · split
      · exact calm_ok _
      · exact calm_operational _
      · exact calm_ok _

theorem calm_rowsOf (calm : Calm source.rows) : Calm (index.rowsOf source) := by
  unfold rowsOf
  refine calm_bind calm_numbering fun _ _ => calm_bind (calm_mapM fun name _ => ?_) fun _ _ => ?_
  · split
    · exact calm_ok _
    · exact calm_operational _
  · exact calm_bind calm fun _ _ => calm_ok _

theorem calm_emptyRowsOf (calm : Calm source.rows) : Calm (index.emptyRowsOf source) := by
  unfold emptyRowsOf
  exact calm_bind calm_numbering fun _ _ => calm_bind calm fun _ _ => calm_ok _

theorem calm_addColumn (name : String) (option : Option String) : Calm (index.addColumn name option) := by
  unfold addColumn
  dsimp only
  split
  · exact calm_operational _
  · split
    · exact calm_ok _
    · split
      · exact calm_ok _
      · exact calm_operational _

theorem calm_checkVacant {home : Schema} {table : String} {parts : List String} :
    Calm (parts.forM (checkVacant home table)) := by
  induction parts with
  | nil => exact calm_ok _
  | cons part rest ih =>
    change Calm (checkVacant home table part >>= fun _ => rest.forM (checkVacant home table))
    refine calm_bind ?_ fun _ _ => ih
    unfold checkVacant
    dsimp only
    split
    · exact calm_ok _
    · exact calm_operational _

theorem calm_make (home : Schema) (table sql : String) (columns : List String) :
    Calm (make home table sql ((columns.map identifier).map String.toList)) := by
  have declared (start : FullText) : Calm (((columns.map identifier).map String.toList).foldlM addArgument start) := by
    induction columns generalizing start with
    | nil => exact calm_ok _
    | cons column columns ih =>
      rw [List.map_cons, List.map_cons, List.foldlM_cons, addArgument_identifier]
      exact calm_bind (calm_addColumn _ _) fun middle _ => ih middle
  unfold make ofArguments
  refine calm_bind ?_ fun index _ => calm_bind calm_checkVacant fun _ _ => calm_bind ?_ fun _ _ => calm_ok _
  · split
    · exact calm_operational _
    · exact declared _
  · unfold checkColumns
    split
    · exact calm_operational _
    · exact calm_ok _

end FullText

namespace Database

variable {database : Database}

theorem calm_sourceTables (database : Database) (schema : Schema) (source : String) :
    Calm (.error (database.sourceTables schema source).2 : Except Fault Relation) := by
  unfold sourceTables
  dsimp only
  split
  · exact calm_operational _
  · exact calm_operational _

theorem calm_relation (database : Database) (fuel : Nat) (above : List (String × String)) (home : Schema) (held : Table) :
    Calm (database.relation fuel above home held) ∧
      ∀ relation, database.relation fuel above home held = .ok relation → Calm relation.rows := by
  induction fuel generalizing above home held with
  | zero => exact ⟨calm_operational _, fun _ made => by cases made⟩
  | succ fuel ih =>
    unfold relation
    dsimp only
    cases held.body with
    | ordinary declaration rows =>
      exact ⟨calm_ok _, fun _ made => Except.ok.inj made ▸ calm_ok rows⟩
    | splitter | catalog =>
      exact ⟨calm_ok _, fun _ made => Except.ok.inj made ▸ calm_ok _⟩
    | view source =>
      dsimp only
      split
      · exact ⟨calm_operational _, fun _ made => by cases made⟩
      · split
        · rename_i inside under _ _ _
          obtain ⟨calm, rows⟩ := ih ((home.name, held.name) :: above) inside under
          refine ⟨calm_bind calm fun _ _ => calm_ok _, fun found made => ?_⟩
          obtain ⟨read, known, made⟩ := exists_of_bind_eq_ok made
          exact Except.ok.inj made ▸ rows read known
        · rename_i missing sources
          refine ⟨?_, fun _ made => by cases made⟩
          have calm := calm_sourceTables database home source
          rwa [sources] at calm
    | fullText index =>
      refine ⟨calm_ok _, fun _ made => ?_⟩
      obtain rfl := Except.ok.inj made
      have contents (name : String) {rows : Relation → Except Fault (List StoredRow)}
          (calm : ∀ source : Relation, Calm source.rows → Calm (rows source)) :
          Calm (do
            if above.contains (home.name, held.name) then throw Fault.recursiveContents
            let inside ← contentsTable home name
            rows (← database.relation fuel ((home.name, held.name) :: above) home inside)) := by
        split
        · exact calm_operational _
        · refine calm_bind ?_ fun inside _ => ?_
          · unfold contentsTable
            split
            · exact calm_ok _
            · exact calm_operational _
          · obtain ⟨first, second⟩ := ih ((home.name, held.name) :: above) home inside
            exact calm_bind first fun source known => calm source (second source known)
      dsimp only
      split
      · exact contents _ fun _ => FullText.calm_rowsOf
      · exact contents _ fun _ => FullText.calm_rowsOf
      · split
        · exact contents _ fun _ => FullText.calm_emptyRowsOf
        · exact calm_operational _

theorem calm_relationOf (database : Database) (home : Schema) (held : Table) : Calm (database.relationOf home held) :=
  (calm_relation database _ _ home held).1

theorem calm_checkNumbered (relation : Relation) : Calm relation.checkNumbered := by
  unfold Relation.checkNumbered
  split
  · exact calm_operational _
  · exact calm_ok _

theorem relation_underlying (fuel : Nat) {above : List (String × String)} {home : Schema} {held : Table}
    {relation : Relation} (made : database.relation fuel above home held = .ok relation) :
    relation.home = (database.underlying fuel home held).1.name := by
  induction fuel generalizing above home held relation with
  | zero => cases made
  | succ fuel ih =>
    unfold Database.relation at made
    unfold underlying
    cases body : held.body with
    | ordinary | splitter | catalog | fullText =>
      rw [body] at made
      cases made
      rfl
    | view source =>
      rw [body] at made
      dsimp only at made ⊢
      split at made
      · cases made
      · cases sources : database.sourceTables home source with
        | mk tables missing =>
          rw [sources] at made
          cases tables with
          | nil => cases made
          | cons entry rest =>
            obtain ⟨found, read, made⟩ := exists_of_bind_eq_ok made
            obtain rfl := Except.ok.inj made
            exact (ih read : found.home = _)

theorem mem_sourceTables {home inside : Schema} {held : Table} {source : String}
    (listed : (inside, held) ∈ (database.sourceTables home source).1) :
    inside = home ∨ home.name = database.temp.name ∧ inside ∈ database.schemas := by
  unfold sourceTables at listed
  dsimp only at listed
  split at listed
  · rename_i temporary
    refine .inr ⟨by simpa using temporary, ?_⟩
    obtain ⟨schema, member, named⟩ := List.mem_filterMap.1 listed
    obtain ⟨table, -, entry⟩ := Option.map_eq_some_iff.1 named
    obtain ⟨rfl, -⟩ := Prod.mk.inj entry
    rcases List.mem_cons.1 member with temp | member
    · simp [schemas, temp]
    · rcases List.mem_cons.1 member with main | attached
      · simp [schemas, main]
      · simp [schemas, attached]
  · obtain ⟨schema, member, named⟩ := List.mem_filterMap.1 listed
    obtain ⟨table, -, entry⟩ := Option.map_eq_some_iff.1 named
    obtain ⟨rfl, -⟩ := Prod.mk.inj entry
    exact .inl (List.mem_singleton.1 member)

theorem mem_of_head? {home : Schema} {source : String} {next : Schema × Table}
    (head : (database.sourceTables home source).1.head? = some next) :
    next.1 = home ∨ home.name = database.temp.name ∧ next.1 ∈ database.schemas :=
  mem_sourceTables (List.mem_of_mem_head? head)

theorem underlying_mem (fuel : Nat) {home : Schema} (held : Table) (member : home ∈ database.schemas) :
    (database.underlying fuel home held).1 ∈ database.schemas := by
  induction fuel generalizing home held with
  | zero => exact member
  | succ fuel ih =>
    cases body : held.body with
    | view source =>
      rw [underlying_succ database fuel home body]
      cases head : (database.sourceTables home source).1.head? with
      | none => exact member
      | some next =>
        rcases mem_of_head? head with same | ⟨-, inside⟩
        · exact ih next.2 (same ▸ member)
        · exact ih next.2 inside
    | ordinary | fullText | splitter | catalog =>
      rw [underlying_other database _ home (by rw [Table.isView, body])]
      exact member

-- Only temporary views lead out of their own schema.
theorem underlying_own (fuel : Nat) {home : Schema} (held : Table) (other : home.name ≠ database.temp.name) :
    (database.underlying fuel home held).1 = home := by
  induction fuel generalizing held with
  | zero => rfl
  | succ fuel ih =>
    cases body : held.body with
    | view source =>
      rw [underlying_succ database fuel home body]
      cases head : (database.sourceTables home source).1.head? with
      | none => rfl
      | some next =>
        rcases mem_of_head? head with same | ⟨temporary, -⟩
        · rw [Option.elim_some, same]
          exact ih next.2
        · exact absurd temporary other
    | ordinary | fullText | splitter | catalog =>
      rw [underlying_other database _ home (by rw [Table.isView, body])]

theorem calm_opens (entry : String × String) : Calm (database.opens entry) := by
  unfold opens opening settled
  split
  · split
    · exact calm_operational _
    · split
      · split
        · unfold Schema.checkVersion
          split
          · exact calm_ok _
          · exact calm_operational _
        · exact calm_operational _
      · exact fun same => absurd (congrArg Fault.kind (Except.error.inj same)) (by simp [Schema.damagedIndex, Fault.malformedImage, Fault.busy])
  · exact calm_ok _

theorem calm_counted (database : Database) (entry : String × String) : Calm (database.counted entry) := by
  unfold counted Schema.indexRows schemaOr
  refine calm_bind ?_ fun home _ => calm_bind ?_ fun rows _ => ?_
  · split
    · exact calm_ok _
    · exact calm_operational _
  · split
    · exact calm_ok _
    · exact fun same => by cases same
  · split
    · exact calm_ok _
    · exact fun same => by cases same

/-- A later state in which nothing has been noted but a use of the temporary schema. -/
def Idles (before after : Database) : Prop := ∃ isTempUsed, after = { before with isTempUsed }

namespace Idles

variable {before middle after : Database}

theorem refl (database : Database) : database.Idles database := ⟨database.isTempUsed, rfl⟩

theorem trans (first : before.Idles middle) (second : middle.Idles after) : before.Idles after := by
  obtain ⟨_, rfl⟩ := first
  obtain ⟨isTempUsed, rfl⟩ := second
  exact ⟨isTempUsed, rfl⟩

theorem follows (idles : before.Idles after) : before.Follows after := by
  obtain ⟨_, rfl⟩ := idles
  exact ⟨rfl, rfl, rfl, rfl, id, List.Subset.refl _⟩

theorem regular (idles : before.Idles after) (regular : before.Regular) : after.Regular := by
  obtain ⟨_, rfl⟩ := idles
  exact { regular with }

theorem sound (idles : before.Idles after) : after.sound = before.sound := by
  obtain ⟨_, rfl⟩ := idles
  rfl

theorem isRead (idles : before.Idles after) : after.isRead = before.isRead := by
  obtain ⟨_, rfl⟩ := idles
  rfl

end Idles

theorem touch_main (locked : database.condition = .locked) :
    database.touch database.main.name = .error .busy := by
  rw [touch, locked, sameName_refl]
  rfl

theorem touch_eq_busy {schema : String} (busy : database.touch schema = .error .busy) :
    sameName schema database.main.name = true := by
  unfold touch at busy
  split at busy
  · rename_i locked
    exact (Bool.and_eq_true_iff.1 locked).2
  · cases busy

end Database

namespace Change

variable {α β : Type} {database : Database}

/-- While the main schema is locked, nothing comes of a change but a use of the temporary schema. -/
def Quiet (change : Change α) : Prop :=
  ∀ database : Database, database.condition = .locked → database.Idles (change database).2

theorem quiet_pure (value : α) : Quiet (pure value : Change α) := fun database _ => .refl database

theorem quiet_find (look : Database → Except Fault α) : Quiet (find look) := fun database _ => .refl database

theorem Quiet.bind_cases {first : Change α} (quiet : Quiet first) (next : α → Change β)
    (locked : database.condition = .locked) :
    (∃ fault after, first database = (.error fault, after) ∧ (first >>= next) database = (.error fault, after) ∧
      database.Idles after) ∨
    ∃ value after, first database = (.ok value, after) ∧ (first >>= next) database = next value after ∧
      database.Idles after := by
  have idles := quiet database locked
  cases ran : first database with
  | mk answer after =>
    rw [ran] at idles
    cases answer with
    | error fault => exact .inl ⟨fault, after, rfl, bind_error next ran, idles⟩
    | ok value => exact .inr ⟨value, after, rfl, bind_ok next ran, idles⟩

theorem quiet_bind {first : Change α} {next : α → Change β} (quiet : Quiet first)
    (quietNext : ∀ value, Quiet (next value)) : Quiet (first >>= next) := by
  intro database locked
  rcases quiet.bind_cases next locked with ⟨fault, after, -, ran, idles⟩ | ⟨value, after, -, ran, idles⟩
  · rw [ran]
    exact idles
  · rw [ran]
    exact idles.trans (quietNext value after (idles.follows.condition.trans locked))

theorem quiet_option_forM {entry : Option α} {body : α → Change PUnit} (quiet : ∀ value, Quiet (body value)) :
    Quiet (entry.forM body) := by
  cases entry with
  | none => exact quiet_pure _
  | some value => exact quiet value

theorem quiet_use (schema : String) : Quiet (use schema) := fun _ _ => ⟨_, rfl⟩

theorem resume_locked (locked : database.condition = .locked) (wording : Wording) :
    resume wording database = (if wording ∈ database.sound then .error .busy else .ok (), database) := by
  unfold resume
  rw [bind_get]
  by_cases known : wording ∈ database.sound
  · rw [if_pos (by simpa using known), if_pos known]
    exact bind_error _ (by rw [touch_eq, Database.touch_main locked])
  · rw [if_neg (by simpa using known), if_neg known]
    rfl

theorem quiet_resume (wording : Wording) : Quiet (resume wording) := by
  intro database locked
  rw [resume_locked locked]
  exact .refl database

theorem readCatalog_locked (locked : database.condition = .locked) :
    readCatalog database = (if database.isRead then .ok () else .error .busy, database) := by
  rw [readCatalog_eq, locked]
  dsimp only
  split <;> rfl

theorem quiet_readCatalog : Quiet readCatalog := by
  intro database locked
  rw [readCatalog_locked locked]
  exact .refl database

theorem quiet_described (schema : String) : Quiet (do
    let _ ← find fun database => database.described schema
    use schema) :=
  quiet_bind (quiet_find _) fun _ => quiet_use schema

-- A schema that is not there is missed whether or not there is a lock.
theorem calm_described (statement : Statement α) (database : Database) :
    Calm ((Database.pragmaSchema? statement).forM (fun schema => do
      let _ ← find fun database => database.described schema
      use schema : String → Change Unit) database).1 := by
  cases Database.pragmaSchema? statement with
  | none => exact calm_ok _
  | some schema =>
    change Calm ((find (fun database => database.described schema) >>= fun _ => use schema : Change Unit) database).1
    rw [bind_find]
    unfold Database.described Database.schemaOr
    cases database.schema? schema with
    | some home => exact calm_ok _
    | none => exact calm_operational _

-- A statement under a lock: it is stopped before it begins, and that for the lock only if it is known to be sound or
-- the catalog is not known, or it begins in a database that is as it was.
theorem answer_locked (statement : Statement α) (locked : database.condition = .locked) :
    (∃ fault after, answer statement database = (.error fault, after) ∧ database.Idles after ∧
      (fault = .busy → [statement.text] ∈ database.sound ∨ database.isRead = false)) ∨
    ∃ ready, database.Idles ready ∧ (Database.looksUp statement = true → database.isRead = true) ∧
      answer statement database = (openTarget statement >>= fun _ => respond statement) ready := by
  unfold answer
  split
  · exact .inl ⟨_, _, rfl, .refl database, fun same => by cases same⟩
  dsimp only
  rcases (quiet_resume [statement.text]).bind_cases _ locked with ⟨fault, after, first, ran, idles⟩ | ⟨_, resumed, first, ran, idles⟩
  · refine .inl ⟨fault, after, ran, idles, fun busy => .inl ?_⟩
    by_contra unknown
    rw [resume_locked locked, if_neg unknown] at first
    cases first
  rw [ran]
  have stays := idles.follows.condition.trans locked
  rcases (quiet_option_forM quiet_described).bind_cases _ stays with
    ⟨fault, after, second, ran, later⟩ | ⟨_, described, second, ran, later⟩
  · refine .inl ⟨fault, after, ran, idles.trans later, ?_⟩
    rintro rfl
    exact absurd (congrArg Prod.fst second) (calm_described statement resumed)
  rw [ran]
  have second := idles.trans later
  have going : ∀ read, database.Idles read → ∃ ready, database.Idles ready ∧
      ((Database.usedSchema? statement).forM use >>= fun _ => openTarget statement >>= fun _ =>
        respond statement) read = (openTarget statement >>= fun _ => respond statement) ready := by
    intro read follows
    cases Database.usedSchema? statement with
    | none => exact ⟨read, follows, rfl⟩
    | some schema => exact ⟨_, follows.trans ⟨_, rfl⟩, rfl⟩
  split
  · rcases quiet_readCatalog.bind_cases _ (second.follows.condition.trans locked) with
      ⟨fault, after, third, ran, last⟩ | ⟨_, read, third, ran, last⟩
    · refine .inl ⟨fault, after, ran, second.trans last, fun busy => .inr ?_⟩
      rw [readCatalog_locked (second.follows.condition.trans locked)] at third
      by_contra known
      rw [if_pos (by simpa [second.isRead] using known)] at third
      cases third
    · rw [ran]
      obtain ⟨ready, follows, goesOn⟩ := going read (second.trans last)
      refine .inr ⟨ready, follows, fun _ => ?_, goesOn⟩
      by_contra unread
      rw [readCatalog_locked (second.follows.condition.trans locked), second.isRead, if_neg unread] at third
      cases third
  · rename_i looksUp
    obtain ⟨ready, follows, goesOn⟩ := going described second
    exact .inr ⟨ready, follows, fun looks => absurd looks looksUp, goesOn⟩

theorem calm_openTable (home : Schema) (held : Table) : Calm (openTable home held database).1 := by
  rw [openTable_fst]
  exact Database.calm_opens _

theorem calm_openTarget (statement : Statement α) (database : Database) : Calm (openTarget statement database).1 := by
  unfold openTarget
  cases Database.target? statement with
  | none => exact calm_ok _
  | some entry =>
    change Calm ((get >>= _ : Change Unit) database).1
    rw [bind_get]
    cases database.locate entry.1 entry.2 with
    | ok found => exact calm_openTable _ _
    | error fault => exact calm_ok _

-- An index of the main schema cannot be opened under a lock, so there was nothing to open.
theorem openTable_main (locked : database.condition = .locked) {home : Schema} {held : Table} {after : Database}
    (reads : (database.underlying database.tableFuel home held).1.name = database.main.name)
    (opened : openTable home held database = (.ok (), after)) : after = database := by
  unfold openTable at opened
  rw [bind_get] at opened
  dsimp only at opened
  split at opened
  · rw [openIndex_eq, if_pos (by simp [reads, locked])] at opened
    cases opened
  · cases opened
    rfl

theorem openTarget_main (regular : database.Regular) (locked : database.condition = .locked)
    {statement : Statement α} {after : Database}
    (reads : ∀ schema table home held, Database.target? statement = some (schema, table) →
      database.locate schema table = .ok (home, held) →
      database.touch (database.underlying database.tableFuel home held).1.name = .error .busy)
    (opened : openTarget statement database = (.ok (), after)) : after = database := by
  unfold openTarget at opened
  cases target : Database.target? statement with
  | none =>
    rw [target] at opened
    cases opened
    rfl
  | some entry =>
    rw [target] at opened
    change (get >>= _ : Change Unit) database = _ at opened
    rw [bind_get] at opened
    cases located : database.locate entry.1 entry.2 with
    | error fault =>
      rw [located] at opened
      cases opened
      rfl
    | ok found =>
      rw [located] at opened
      have busy := reads entry.1 entry.2 found.1 found.2 target located
      have inside : (database.underlying database.tableFuel found.1 found.2).1 ∈ database.schemas :=
        Database.underlying_mem _ _ (List.mem_of_find?_eq_some (Database.locate_eq_ok located).1)
      have main : (database.underlying database.tableFuel found.1 found.2).1 = database.main :=
        eq_of_sameName regular.apart inside (by simp [Database.schemas]) (Database.touch_eq_busy busy)
      exact openTable_main locked (congrArg Schema.name main) opened

theorem calm_bind_change {first : Change α} {next : α → Change β} (calm : Calm (first database).1)
    (rest : ∀ value after, Calm (next value after).1) : Calm ((first >>= next) database).1 := by
  cases ran : first database with
  | mk answer after =>
    rw [ran] at calm
    cases answer with
    | error fault =>
      rw [bind_error next ran]
      exact fun same => calm (congrArg Except.error (Except.error.inj same))
    | ok value =>
      rw [bind_ok next ran]
      exact rest value after

theorem calm_segments (home table : String) : Calm (segments home table database).1 := by
  have counted := Database.calm_counted database (home, table)
  rw [segments_eq]
  split
  · exact calm_ok _
  · split
    · exact calm_ok _
    · rename_i failed
      rwa [failed] at counted

theorem calm_beginReading (home : String) (held : Table) : Calm (beginReading home held database).1 := by
  unfold beginReading
  split
  · exact calm_bind_change (calm_segments _ _) fun _ _ => calm_ok _
  · exact calm_ok _

theorem calm_search (home table : String) (index : FullText) (query : Expression.Query) :
    Calm (search home table index query database).1 := by
  unfold search
  refine calm_bind_change (calm_segments _ _) fun count after => ?_
  split
  · refine calm_bind_change ?_ fun schema after => calm_bind_change ?_ fun _ after => ?_
    · change Calm (after.schemaOr home (.unknownDatabase home))
      unfold Database.schemaOr
      split
      · exact calm_ok _
      · exact calm_operational _
    · change Calm (schema.checkTerms table)
      unfold Schema.checkTerms
      split
      · split
        · exact calm_ok _
        · exact calm_operational _
      · exact calm_operational _
    · refine calm_bind_change ?_ fun rows after => ?_
      · change Calm (schema.indexRows table)
        unfold Schema.indexRows
        split
        · exact calm_ok _
        · exact fun same => by cases same
      · split
        · exact fun same => by cases same
        · exact calm_ok _
  · exact calm_ok _

-- What is stopped as it begins has been noted, and nothing else has happened.
theorem start_refused {wording : Wording} {home : String} {rest : Unit → Change β}
    (calm : ∀ after, Calm (rest () after).1)
    (busy : ((start wording home >>= rest) database).1 = .error .busy) :
    database.touch home = .error .busy ∧
      ((start wording home >>= rest) database).2 = { database with sound := wording :: database.sound } := by
  cases touched : database.touch home with
  | ok _ =>
    exfalso
    have started : ∃ after, start wording home database = (.ok (), after) := by
      rw [start_eq, touch_eq]
      split
      · exact ⟨_, congrArg (·, _) touched⟩
      · exact ⟨_, congrArg (·, _) touched⟩
    obtain ⟨after, started⟩ := started
    rw [bind_ok _ started] at busy
    exact calm after busy
  | error fault =>
    obtain rfl : fault = .busy := by
      unfold Database.touch at touched
      split at touched
      · cases touched
        rfl
      · cases touched
    refine ⟨rfl, ?_⟩
    have started : start wording home database =
        (.error .busy, { database with sound := wording :: database.sound }) := by
      rw [start_eq, touch_eq, if_pos (Database.touch_eq_busy touched)]
      exact congrArg (·, _) touched
    rw [bind_error _ started]

-- What a match does with any other table.
theorem matchProbe_other {target : Target} {home : Schema} {held : Table}
    (located : database.locate target.schema target.table = .ok (home, held)) (other : held.isFullText = false)
    (expression : String) : matchProbe target expression database =
      (find (fun database => database.relationOf home held) >>= fun relation =>
        lift relation.checkNumbered >>= fun _ =>
        start [(Statement.matchProbe target expression).text] relation.home >>= fun _ =>
        lift relation.rows >>= fun rows => if !rows.isEmpty then throw .noMatching else pure ()) database := by
  unfold matchProbe
  dsimp only
  rw [bind_find, located]
  dsimp only
  cases body : held.body with
  | fullText index =>
    rw [Table.isFullText, body] at other
    cases other
  | ordinary | splitter | view | catalog => rfl

theorem matchProbe_refused {target : Target} {expression : String}
    (busy : (matchProbe target expression database).1 = .error .busy) :
    ∃ home held, database.locate target.schema target.table = .ok (home, held) ∧
      database.touch (database.underlying database.tableFuel home held).1.name = .error .busy ∧
      (matchProbe target expression database).2 =
        { database with sound := [(Statement.matchProbe target expression).text] :: database.sound } := by
  cases located : database.locate target.schema target.table with
  | error fault =>
    rw [matchProbe_missing located, Database.locate_eq_error located] at busy
    exact absurd busy (calm_operational _)
  | ok found =>
    obtain ⟨home, held⟩ := found
    refine ⟨home, held, rfl, ?_⟩
    cases kind : held.isFullText with
    | true =>
      obtain ⟨index, body⟩ : ∃ index, held.body = .fullText index := by
        unfold Table.isFullText at kind
        split at kind
        · exact ⟨_, ‹_›⟩
        · cases kind
      rw [matchProbe_fullText located body] at busy ⊢
      rw [Database.underlying_other database _ home (by rw [Table.isView, body])]
      refine start_refused (fun after => calm_bind_change ?_ fun query after => ?_) busy
      · change Calm (Except.mapError _ (Expression.query? index.scope expression))
        cases Expression.query? index.scope expression with
        | ok query => exact calm_ok _
        | error fault => exact calm_operational _
      · cases query with
        | none => exact calm_ok _
        | some query => exact calm_search _ _ _ _
    | false =>
      rw [matchProbe_other located kind, bind_find] at busy ⊢
      obtain ⟨calm, rows⟩ := Database.calm_relation database database.tableFuel [] home held
      cases made : database.relationOf home held with
      | error fault =>
        rw [made] at busy
        have failed : fault = .busy := Except.error.inj busy
        exact absurd (made.trans (congrArg Except.error failed)) calm
      | ok relation =>
        rw [made] at busy
        dsimp only at busy ⊢
        have numbered := Database.calm_checkNumbered relation
        rw [bind_lift] at busy ⊢
        cases checked : relation.checkNumbered with
        | error fault =>
          rw [checked] at busy numbered
          exact absurd busy numbered
        | ok _ =>
          rw [checked] at busy
          dsimp only at busy ⊢
          rw [← Database.relation_underlying _ made]
          refine start_refused (fun after => calm_bind_change (rows relation made) fun found after => ?_) busy
          split
          · exact calm_operational _
          · exact calm_ok _

end Change

end Engine

end TextQuery
