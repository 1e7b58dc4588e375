import TextQuery.Proofs.Engine.Matching
import TextQuery.Proofs.Engine.StatementKeeping
import TextQuery.Proofs.Session.Faithful

set_option autoImplicit false

namespace TextQuery

open Engine Engine.Change

/-- The sessions that come about by steps that are allowed, from new databases, from files that are no
databases, and from what such sessions have stored. -/
inductive Session.Reachable (allowed : Step → Prop) : Session → Prop
  | opened (path : String) : Reachable allowed { path }
  | notADatabase (path : String) :
    Reachable allowed { path, database := { condition := .notADatabase } }
  | reopened (path : String) {session : Session} (reachable : Reachable allowed session) :
    Reachable allowed { path, database := session.database.reopened }
  | step {session : Session} (reachable : Reachable allowed session) (next : Step)
    (may : allowed next) : Reachable allowed (session.step next).2.2

/-- A property that steps of sessions leave as it is. The compilers that may be made ask nothing that would
change it. -/
structure Session.Upheld (allowed : Step → Prop) (P : Database → Prop) : Prop where
  asked : ∀ {id settings compiler}, allowed (.create id settings) →
    Compiler.create settings = .ok compiler → compiler.Asks P
  lookedUp : LookedUp P
  built : ∀ {building}, allowed (.build building) → Keeps P (build building)
  listed : Keeps P Session.listHelpers

structure Session.Outlasting (allowed : Step → Prop) (P : Database → Prop) : Prop where
  opened : ∀ condition, P { condition }
  reopened : ∀ {database}, P database → P database.reopened
  watched : Watched P
  built : ∀ {building}, allowed (.build building) → Keeps P (build building)
  listed : Keeps P Session.listHelpers

theorem Session.Outlasting.upheld {allowed : Step → Prop} {P : Database → Prop}
    (outlasting : Session.Outlasting allowed P) : Session.Upheld allowed P where
  asked _ _ := Watched.compilerAsks outlasting.watched _
  lookedUp := Watched.lookedUp outlasting.watched
  built := outlasting.built
  listed := outlasting.listed

theorem lookedUp_of {P : Database → Prop} (steady : Steady P) : LookedUp P :=
  fun _ lookup database holds => keeps_lookup steady lookup database holds

-- A statement with the character zero in it is not read at all.
theorem keeps_answer_writable {α : Type} {P : Database → Prop} {statement : Statement α}
    (kept : '\x00' ∉ statement.text.toList → Keeps P (Change.answer statement)) :
    Keeps P (Change.answer statement) := by
  by_cases writable : '\x00' ∈ statement.text.toList
  · intro database holds
    unfold Change.answer
    rw [if_pos (by simpa using writable)]
    exact holds
  · exact kept writable

section

variable {P : Database → Prop} {mayNote : Wording → Prop} (steadfast : Steadfast mayNote P)
include steadfast

theorem tokenizerAsks_of {choice : TokenizerChoice}
    (made : '\x00' ∉ (Statement.createTokens (Tokenizer.helper choice) choice).text.toList →
      ∀ database splitter, P database → database.temp.find? (Tokenizer.helper choice) = none →
      splitterOf (Tokenizer.helper choice) choice = .ok splitter →
      P (database.within database.temp.name
        (· ++ [⟨Tokenizer.helper choice, TokenTable.sql (Tokenizer.helper choice) choice,
          .splitter splitter⟩])))
    (failed : ∀ database fault, P database → database.temp.find? (Tokenizer.helper choice) = none →
      splitterOf (Tokenizer.helper choice) choice = .error fault → P database.forget) :
    Tokenizer.Asks P choice where
  created := by
    have kept : Keeps P (Change.answer (.createTokens (Tokenizer.helper choice) choice)) := by
      apply keeps_answer_writable
      intro writable
      apply keeps_answer_of steadfast.toSteady
      exact keeps_createTokens steadfast.toSteady (made writable) failed
    exact kept
  selected input := by
    have looks : Looks P mayNote (.selectTokens (Tokenizer.helper choice) input) := trivial
    exact keeps_look steadfast looks

theorem validatorAsks_of {probe : Probe}
    (made : ∀ columns, probe = .helper columns →
      '\x00' ∉ (Statement.createProbe (Validator.helper columns) columns).text.toList →
      ∀ database tables, P database → database.temp.find? (Validator.helper columns) = none →
      ¬columns.length > FullText.argumentLimit →
      FullText.make database.temp (Validator.helper columns)
        (FullText.sql (Validator.helper columns) fullTextClause (columns.map Text.identifier))
        ((columns.map Text.identifier).map String.toList) = .ok tables →
      P (database.within database.temp.name (· ++ tables)))
    (failed : ∀ columns, probe = .helper columns → ∀ database fault, P database →
      database.temp.find? (Validator.helper columns) = none →
      FullText.make database.temp (Validator.helper columns)
        (FullText.sql (Validator.helper columns) fullTextClause (columns.map Text.identifier))
        ((columns.map Text.identifier).map String.toList) = .error fault → P database.forget)
    (matching : ∀ target, probe.Fits target → MayMatch P mayNote target) : Validator.Asks P probe where
  created columns same := by
    have kept : Keeps P (Change.answer (.createProbe (Validator.helper columns) columns)) := by
      apply keeps_answer_writable
      intro writable
      apply keeps_answer_of steadfast.toSteady
      exact keeps_createProbe steadfast.toSteady (made columns same writable) (failed columns same)
    exact kept
  matched target expression fits := by
    have looks : Looks P mayNote (.matchProbe target expression) := matching target fits
    exact keeps_look steadfast looks
  lookedUp := lookedUp_of steadfast.toSteady

theorem watched_of (reread : ∀ {database}, P database → P database.forget)
    (tokens : ∀ choice database splitter, P database →
      database.temp.find? (Tokenizer.helper choice) = none →
      splitterOf (Tokenizer.helper choice) choice = .ok splitter →
      P (database.within database.temp.name
        (· ++ [⟨Tokenizer.helper choice, TokenTable.sql (Tokenizer.helper choice) choice,
          .splitter splitter⟩])))
    (probe : ∀ columns database tables, P database →
      database.temp.find? (Validator.helper columns) = none →
      FullText.make database.temp (Validator.helper columns)
        (FullText.sql (Validator.helper columns) fullTextClause (columns.map Text.identifier))
        ((columns.map Text.identifier).map String.toList) = .ok tables →
      P (database.within database.temp.name (· ++ tables)))
    (matching : ∀ target expression, (Statement.matchProbe target expression).Usual →
      MayMatch P mayNote target) : Watched P := by
  intro α statement usual database holds
  suffices kept : Keeps P (Change.answer statement) from kept database holds
  cases statement with
  | createTokens table choice =>
    cases usual
    exact (tokenizerAsks_of steadfast (fun _ => tokens choice) fun _ _ holds _ _ => reread holds).created
  | createProbe table columns =>
    cases usual
    apply keeps_answer_of steadfast.toSteady
    refine keeps_createProbe steadfast.toSteady ?_ fun _ _ holds _ _ => reread holds
    exact fun database tables holds free _ made => probe columns database tables holds free made
  | matchProbe target expression =>
    have looks : Looks P mayNote (.matchProbe target expression) := matching target expression usual
    exact keeps_look steadfast looks
  | selectTokens | databaseList | tableExists | tableSql | tableInfo | foreignKeyList
  | foreignKeyCheck | selectRow =>
    apply keeps_look steadfast
    trivial

end

theorem keeps_listHelpers {P : Database → Prop} {mayWrite : String → String → Prop}
    {mayNote : Wording → Prop} (lasting : Lasting mayWrite mayNote P) : Keeps P Session.listHelpers := by
  unfold Session.listHelpers
  refine keeps_bind (keeps_readCatalog lasting.toSteady) ?_
  intro _
  refine keeps_bind keeps_get ?_
  intro database
  exact keeps_bind (keeps_use lasting.toSteady _) fun _ => keeps_pure _

theorem Engine.Database.watched_condition (condition : Condition) :
    Watched fun database : Database => database.condition = condition := by
  have lasting : Lasting (fun _ _ => True) (fun _ => True)
      fun database : Database => database.condition = condition := {
    noted := fun _ _ _ _ same => same
    read := fun same => same
    checked := fun _ same => same
    several := fun _ => trivial
    started := fun _ same => same
    reread := fun same => same
    undone := fun _ _ same => same
    written := fun _ _ _ same => (within_condition _ _ _).trans same }
  apply watched_of lasting.toSteadfast lasting.reread
  · exact fun _ database _ same _ _ => (within_condition database _ _).trans same
  · exact fun _ database _ same _ _ => (within_condition database _ _).trans same
  · exact fun _ _ _ _ _ _ _ _ _ => .inl trivial

namespace Session

structure Has (P : Database → Prop) (session : Session) : Prop where
  database : P session.database
  compilers : ∀ entry ∈ session.compilers, entry.2.Faithful

structure Upholds (P : Database → Prop) (session : Session) : Prop extends Has P session where
  asks : ∀ entry ∈ session.compilers, entry.2.Asks P

variable {allowed : Step → Prop} {P : Database → Prop} {session : Session}

theorem upholds_setCompiler (upholds : Upholds P session) (id : String) {compiler : Compiler}
    (faithful : compiler.Faithful) (asks : compiler.Asks P) :
    Upholds P (session.setCompiler id compiler) := by
  refine ⟨⟨upholds.database, ?_⟩, ?_⟩
  · intro entry member
    rcases List.mem_cons.1 member with rfl | member
    · exact faithful
    · exact upholds.compilers entry (List.mem_filter.1 member).1
  · intro entry member
    rcases List.mem_cons.1 member with rfl | member
    · exact asks
    · exact upholds.asks entry (List.mem_filter.1 member).1

theorem mem_of_compiler? {id : String} {compiler : Compiler}
    (found : session.compiler? id = some compiler) : (id, compiler) ∈ session.compilers := by
  obtain ⟨before, after, split, -⟩ := List.lookup_eq_some_iff.1 found
  rw [split]
  simp

theorem faithful_of_compiler? (has : Has P session) {id : String} {compiler : Compiler}
    (found : session.compiler? id = some compiler) : compiler.Faithful :=
  has.compilers (id, compiler) (mem_of_compiler? found)

theorem upholds_perform (upheld : Upheld allowed P) (upholds : Upholds P session) {next : Step}
    (may : allowed next) : Upholds P (session.perform next).2.2 := by
  cases next with
  | build building => exact ⟨⟨upheld.built may _ upholds.database, upholds.compilers⟩, upholds.asks⟩
  | create id settings =>
    simp only [perform, create]
    cases made : Compiler.create settings with
    | ok compiler =>
      exact upholds_setCompiler upholds id (Compiler.create_faithful made) (upheld.asked may made)
    | error failure => exact upholds
  | request id request =>
    simp only [perform, Session.request]
    cases found : session.compiler? id with
    | none => exact upholds
    | some compiler =>
      have asks := upholds.asks _ (mem_of_compiler? found)
      have lead := Request.leads_run (faithful_of_compiler? upholds.toHas found) asks request
      obtain ⟨holds, continues⟩ := lead { engine := session.database } upholds.database
      have after : Upholds P (session.onDatabase (request.run compiler)).2.2 :=
        ⟨⟨holds, upholds.compilers⟩, upholds.asks⟩
      exact upholds_setCompiler after id continues.faithful (asks.later continues)
  | lookup question =>
    have kept := Lookup.keeps_run upheld.lookedUp question { engine := session.database } upholds.database
    exact ⟨⟨kept, upholds.compilers⟩, upholds.asks⟩
  | helpers => exact ⟨⟨upheld.listed _ upholds.database, upholds.compilers⟩, upholds.asks⟩
  | bind pattern => exact upholds
  | close => exact ⟨⟨upholds.database, upholds.compilers⟩, upholds.asks⟩

theorem upholds_step (upheld : Upheld allowed P) (upholds : Upholds P session) {next : Step}
    (may : allowed next) : Upholds P (session.step next).2.2 := by
  unfold Session.step
  split
  · exact upholds
  · exact upholds_perform upheld upholds may

theorem Reachable.mono {weaker : Step → Prop} (reachable : Reachable allowed session)
    (weak : ∀ next, allowed next → weaker next) : Reachable weaker session := by
  induction reachable with
  | opened path => exact .opened path
  | notADatabase path => exact .notADatabase path
  | reopened path _ ih => exact .reopened path ih
  | step _ next may ih => exact .step ih next (weak next may)

theorem Reachable.after (reachable : Reachable allowed session) {steps : List Step}
    (may : ∀ next ∈ steps, allowed next) : Reachable allowed (session.after steps) := by
  induction steps generalizing session with
  | nil => exact reachable
  | cons next steps ih =>
    obtain ⟨first, rest⟩ := List.forall_mem_cons.1 may
    exact ih (.step reachable next first) rest

theorem Reachable.upholds (upheld : Upheld allowed P) (opened : ∀ condition, P { condition })
    (reopened : ∀ {database}, P database → P database.reopened) (reachable : Reachable allowed session) :
    Upholds P session := by
  induction reachable with
  | opened path => exact ⟨⟨opened .usable, by simp⟩, by simp⟩
  | notADatabase path => exact ⟨⟨opened .notADatabase, by simp⟩, by simp⟩
  | reopened path reachable ih => exact ⟨⟨reopened ih.database, by simp⟩, by simp⟩
  | step reachable next may ih => exact upholds_step upheld ih may

theorem Reachable.has (outlasting : Outlasting allowed P) (reachable : Reachable allowed session) :
    Has P session :=
  (reachable.upholds outlasting.upheld outlasting.opened outlasting.reopened).toHas

theorem step_lookup (isOpen : session.isClosed = false) (question : Lookup) :
    (session.step (.lookup question)).1 = (question.run.run { engine := session.database }).1 := by
  simp only [step, isOpen, Bool.false_and, Bool.false_eq_true, if_false, perform, onDatabase]
  rfl

end Session

-- No name holds the character zero, which no statement can be written with.
def Writable (name : String) : Prop := '\x00' ∉ name.toList

theorem writable_congr {a b : String} (same : Text.sameName a b = true) (writable : Writable a) :
    Writable b := by
  intro nul
  have folded : '\x00' ∈ Text.folded b := List.mem_map.2 ⟨'\x00', nul, by decide⟩
  rw [← Text.sameName_iff_folded.1 same] at folded
  obtain ⟨c, member, low⟩ := List.mem_map.1 folded
  rw [Text.eq_of_toLower (by decide) low] at member
  exact writable member

theorem writable_identifier {name : String} (writable : Writable name) :
    Writable (Text.identifier name) := mt (Text.mem_identifier (by decide)).1 writable

theorem writable_append {a b : String} (first : Writable a) (second : Writable b) :
    Writable (a ++ b) := by
  simp only [Writable, String.toList_append, List.mem_append, not_or]
  exact ⟨first, second⟩

theorem writable_helperName {family : String} (writable : Writable family) (described : String) :
    Writable (helperName family described) := by
  rw [Writable, toList_helperName, List.mem_append, not_or]
  refine ⟨writable, ?_⟩
  intro digit
  have digit := mem_helperDigits digit
  revert digit
  decide

theorem writable_indexName {table part : String} (writable : Writable table)
    (member : part ∈ FullText.parts) : Writable (FullText.indexName table part) := by
  have plain : ∀ part ∈ FullText.parts, '\x00' ∉ part.toList := by decide
  exact writable_append (writable_append writable (by unfold Writable; decide)) (plain part member)

theorem writable_matchProbe {target : Target} (schema : Writable target.schema)
    (table : Writable target.table) (expression : String) :
    Writable (Statement.matchProbe target expression).text := by
  have source : Writable (Statement.source target) := by
    cases target with
    | helper name => exact writable_append (by unfold Writable; decide) (writable_identifier table)
    | located home name =>
      refine writable_append (writable_append (writable_identifier schema) ?_)
        (writable_identifier table)
      unfold Writable
      decide
  have words : Writable "SELECT rowid FROM " ∧ Writable " WHERE " ∧ Writable " MATCH ?" := by
    unfold Writable
    decide
  obtain ⟨first, second, third⟩ := words
  exact writable_append (writable_append (writable_append (writable_append first source) second)
    (writable_identifier table)) third

theorem writable_tableSql {schema : String} (writable : Writable schema) (table : String) :
    Writable (Statement.tableSql schema table).text := by
  have words : Writable "SELECT sql FROM " ∧ Writable ".sqlite_master" ∧
      Writable " WHERE type = 'table' AND name = ? COLLATE NOCASE" := by
    unfold Writable
    decide
  obtain ⟨first, second, third⟩ := words
  exact writable_append (writable_append first
    (writable_append (writable_identifier writable) second)) third

structure Engine.Database.Clean (database : Database) : Prop where
  main : database.main.name = "main"
  temp : database.temp.name = "temp"
  schemas : ∀ schema ∈ database.schemas, Writable schema.name
  tables : ∀ schema ∈ database.schemas, ∀ table ∈ schema.tables, Writable table.name

namespace Engine.Database.Clean

variable {database : Database}

theorem of_locate (clean : database.Clean) {schema table : String} {home : Schema} {held : Table}
    (located : database.locate schema table = .ok (home, held)) : Writable schema ∧ Writable table := by
  obtain ⟨found, entry⟩ := Database.locate_eq_ok located
  have known : home ∈ database.schemas := List.mem_of_find?_eq_some found
  have named : Text.sameName home.name schema = true := by simpa using List.find?_some found
  refine ⟨writable_congr named (clean.schemas home known), ?_⟩
  rcases Schema.find?_cases entry with ⟨-, member, same⟩ | ⟨-, listed, member, same⟩
  · exact writable_congr same (clean.tables home known held member)
  · have plain : ∀ name ∈ ["sqlite_temp_master", "sqlite_temp_schema", "sqlite_master",
        "sqlite_schema"], '\x00' ∉ name.toList := by decide
    refine writable_congr (Text.sameName_symm same) (plain listed ?_)
    unfold Schema.catalogNames at member
    split at member
    · exact member
    · exact List.mem_of_mem_drop (i := 2) member

theorem within (clean : database.Clean) {name : String} {edit : List Table → List Table}
    (edited : ∀ schema ∈ database.schemas, Text.sameName name schema.name = true →
      ∀ table ∈ edit schema.tables, Writable table.name) : (database.within name edit).Clean := by
  obtain ⟨⟨main, temp⟩, -⟩ := within_frame database name edit
  refine ⟨main.trans clean.main, temp.trans clean.temp, ?_, ?_⟩
  · intro schema member
    rcases mem_within member with held | ⟨held, found, same, rfl⟩
    · exact clean.schemas schema held
    · exact clean.schemas held found
  · intro schema member
    rcases mem_within member with held | ⟨held, found, same, rfl⟩
    · exact clean.tables schema held
    · exact edited held found same

theorem lasting : Lasting (fun _ _ => True) (fun _ => True) Clean where
  noted _ _ _ _ clean := ⟨clean.main, clean.temp, clean.schemas, clean.tables⟩
  read clean := ⟨clean.main, clean.temp, clean.schemas, clean.tables⟩
  checked _ clean := ⟨clean.main, clean.temp, clean.schemas, clean.tables⟩
  several _ := trivial
  started _ clean := ⟨clean.main, clean.temp, clean.schemas, clean.tables⟩
  reread clean := by
    refine ⟨clean.main, clean.temp, ?_, ?_⟩
    · intro schema member
      obtain ⟨held, found, name, -⟩ := mem_forget member
      rw [name]
      exact clean.schemas held found
    · intro schema member
      obtain ⟨held, found, -, tables⟩ := mem_forget member
      rw [tables]
      exact clean.tables held found
  undone _ before _ := ⟨before.main, before.temp, before.schemas, before.tables⟩
  written _ _ _ clean := by
    apply clean.within
    intro schema member _ table written
    obtain ⟨held, found, rfl⟩ := List.mem_map.1 written
    rw [Table.withRows_name]
    exact clean.tables schema member held found

theorem added (clean : database.Clean) (name : String) {tables : List Table}
    (writable : ∀ table ∈ tables, Writable table.name) :
    (database.within name (· ++ tables)).Clean := by
  apply clean.within
  intro schema member _ table added
  rcases List.mem_append.1 added with held | new
  · exact clean.tables schema member table held
  · exact writable table new

theorem removed (clean : database.Clean) (name : String) (keep : Table → Bool) :
    (database.within name (·.filter keep)).Clean := by
  apply clean.within
  intro schema member _ table kept
  exact clean.tables schema member table (List.mem_filter.1 kept).1

theorem new (condition : Condition) : Clean { condition } := by
  refine ⟨rfl, rfl, ?_, ?_⟩
  · intro schema member
    simp only [Database.schemas, List.mem_cons, List.not_mem_nil, or_false] at member
    rcases member with rfl | rfl <;> unfold Writable <;> decide
  · intro schema member
    simp only [Database.schemas, List.mem_cons, List.not_mem_nil, or_false] at member
    rcases member with rfl | rfl <;> simp [Schema.ofTables]

theorem writable_of_madeFor {table : String} {tables : List Table} (writable : Writable table)
    (made : MadeFor table tables) : ∀ held ∈ tables, Writable held.name := by
  intro held member
  rcases made held member with name | ⟨part, found, name⟩
  · rw [name]
    exact writable
  · rw [name]
    exact writable_indexName writable found

-- What names a step mentions have been looked at before anything is made.
theorem mayBuild (building : Building) (clean : ∀ text ∈ building.texts, '\x00' ∉ text.toList) :
    MayBuild Clean (fun _ _ => True) building := by
  have make {schema table : String} (writable : Writable table) : MayMake Clean schema table := by
    rintro home tables - made database holds -
    exact holds.added home.name (writable_of_madeFor writable made.names)
  cases building with
  | attach schema =>
    rintro database holds -
    have writable : Writable schema := clean schema (by simp [Building.texts])
    refine ⟨holds.main, holds.temp, ?_, ?_⟩
    · intro held member
      rcases mem_attached member with old | rfl
      · exact holds.schemas held old
      · exact writable
    · intro held member
      rcases mem_attached member with old | rfl
      · exact holds.tables held old
      · simp [Schema.ofTables]
  | detach schema =>
    rintro database holds -
    refine ⟨holds.main, holds.temp, ?_, ?_⟩
    · exact fun held member => holds.schemas held (mem_detached member)
    · exact fun held member => holds.tables held (mem_detached member)
  | createTable schema table declaration =>
    apply make
    have sql := clean (declaration.sql table) (by simp [Building.texts])
    intro nul
    apply sql
    have written : '\x00' ∈ ("CREATE TABLE " ++ Text.identifier table).toList := by
      rw [String.toList_append]
      exact List.mem_append_right _ ((Text.mem_identifier (by decide)).2 nul)
    unfold TableDeclaration.sql
    iterate 4
      rw [String.toList_append]
      apply List.mem_append_left
    exact written
  | createView schema view source => exact make (clean view (by simp [Building.texts]))
  | createFullText schema table columns options clause =>
    exact make (clean table (by simp [Building.texts]))
  | insert | delete => exact fun _ _ _ _ => ⟨trivial, fun _ _ => trivial⟩
  | drop schema table =>
    rintro home held database holds - -
    exact holds.removed home.name _
  | lock | unlock => exact fun _ holds => ⟨holds.main, holds.temp, holds.schemas, holds.tables⟩

theorem outlasting : Session.Outlasting (fun _ => True) Clean where
  opened := new
  reopened {database} clean := by
    apply lasting.reread
    have fresh := new database.condition
    have schema_cases : ∀ schema ∈ ({ main := database.main, condition := database.condition } :
        Database).schemas, schema = database.main ∨ schema = Schema.ofTables "temp" [] := by
      simp [Database.schemas]
    refine ⟨clean.main, rfl, ?_, ?_⟩
    · intro schema member
      rcases schema_cases schema member with rfl | rfl
      · exact clean.schemas database.main (by simp [Database.schemas])
      · exact fresh.schemas _ (by simp [Database.schemas])
    · intro schema member
      rcases schema_cases schema member with rfl | rfl
      · exact clean.tables database.main (by simp [Database.schemas])
      · simp [Schema.ofTables]
  watched := by
    apply watched_of lasting.toSteadfast lasting.reread
    · rintro choice database splitter holds - -
      apply holds.added
      intro table member
      rw [List.mem_singleton.1 member]
      exact writable_helperName (by unfold Writable; decide) _
    · rintro columns database tables holds - made
      apply holds.added
      exact writable_of_madeFor (writable_helperName (by unfold Writable; decide) _) (madeFor_make made)
    · exact fun _ _ _ _ _ _ _ _ _ => .inl trivial
  built _ := keeps_build lasting (mayBuild _)
  listed := keeps_listHelpers lasting

end Engine.Database.Clean

end TextQuery
