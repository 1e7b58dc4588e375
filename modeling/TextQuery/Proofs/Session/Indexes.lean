import Mathlib.Data.List.Find
import TextQuery.Proofs.Session.Helpers

set_option autoImplicit false

namespace TextQuery

open Engine Engine.Change Text

namespace Engine

-- What a query reads of a table with rows.
def ordinaryRelation (home : String) (declaration : TableDeclaration) (rows : List StoredRow) : Relation :=
  { columns := declaration.columns
    numbering := if declaration.withoutRowid then .unnumbered else .numbered
    keys := declaration.searchKeys
    home
    rows := .ok rows }

/-- What is asked of the table of a part when an index is opened or searched. -/
def Serves (part : String) : Body → Prop
  | .ordinary declaration rows =>
    (part = FullText.dataPart → ∃ count, IndexRecord.segments? rows = some count) ∧
    (part = FullText.termsPart →
      ["segid", "term", "pgno"].all (fun name => (declaration.column? name).isSome) = true) ∧
    (part = FullText.settingsPart →
      Schema.versionOf (ordinaryRelation "temp" declaration rows) = .ok Schema.formatVersion)
  | _ => False

def openedParts : List String := [FullText.dataPart, FullText.termsPart, FullText.settingsPart]

theorem openedParts_subset {part : String} (member : part ∈ openedParts) : part ∈ FullText.parts := by
  revert part
  decide

-- The tables of an index serve as they are made.
theorem serves_tableOf (index : FullText) (table : String) {part : String} (member : part ∈ openedParts) :
    Serves part (index.tableOf table part).body := by
  simp only [openedParts, List.mem_cons, List.not_mem_nil, or_false] at member
  rcases member with rfl | rfl | rfl
  · exact ⟨fun _ => ⟨0, by decide⟩, fun other => absurd other (by decide),
      fun other => absurd other (by decide)⟩
  · exact ⟨fun other => absurd other (by decide), fun _ => by decide,
      fun other => absurd other (by decide)⟩
  · exact ⟨fun other => absurd other (by decide), fun other => absurd other (by decide), fun _ => rfl⟩

/-- The tables of the index of a table are there, and they serve. -/
def Opens (tables : List Table) (name : String) : Prop :=
  ∀ part ∈ openedParts, ∃ table, Table.find? tables (FullText.indexName name part) = some table ∧
    Serves part table.body

/-- The index of every helper probe that is there can be opened. Rows of segments are not looked at. -/
def Intact (tables : List Table) : Prop :=
  ∀ columns, ∀ table ∈ tables, sameName table.name (Validator.helper columns) = true →
    Opens tables table.name

/-- Whether a name is that of a table of the index of a helper probe. -/
def IsOwned (name : String) : Prop :=
  ∃ columns, ∃ part ∈ FullText.parts,
    sameName name (FullText.indexName (Validator.helper columns) part) = true

theorem not_isOwned {name : String} (other : ¬IsPrivate name) : ¬IsOwned name := by
  rintro ⟨columns, part, found, same⟩
  exact other ((IsPrivate.congr same).2 (isPrivate_indexName (isPrivate_probe columns) found))

theorem not_isOwned_indexName {table part : String} (other : ¬IsPrivate table)
    (member : part ∈ FullText.parts) : ¬IsOwned (FullText.indexName table part) := by
  rintro ⟨columns, own, found, same⟩
  obtain ⟨owner, -⟩ := FullText.sameName_of_indexName member found same
  exact other ((IsPrivate.congr owner).2 (isPrivate_probe columns))

theorem find?_filter {tables : List Table} {name : String} {table : Table} {keep : Table → Bool}
    (found : Table.find? tables name = some table) (stays : keep table = true) :
    Table.find? (tables.filter keep) name = some table := by
  unfold Table.find? at found ⊢
  obtain ⟨named, before, after, rfl, earlier⟩ := List.find?_eq_some_iff_append.1 found
  have none : List.find? (fun other => sameName other.name name) (before.filter keep) = none := by
    rw [List.find?_eq_none]
    intro other member
    simpa using earlier other (List.mem_filter.1 member).1
  rw [List.filter_append, List.find?_append, none, Option.none_or, List.filter_cons_of_pos stays,
    List.find?_cons, named]

namespace Opens

variable {tables : List Table} {name : String}

theorem append (opens : Opens tables name) (made : List Table) : Opens (tables ++ made) name := by
  intro part listed
  obtain ⟨table, found, serves⟩ := opens part listed
  refine ⟨table, ?_, serves⟩
  unfold Table.find? at found ⊢
  rw [List.find?_append, found, Option.some_or]

-- The tables of a new index are found where there were none.
theorem made {index : FullText} (plain : index.IsPlain) {columns : List String} (sql : String)
    (vacant : ∀ part ∈ FullText.parts,
      Table.find? tables (FullText.indexName (Validator.helper columns) part) = none) :
    Opens (tables ++ ⟨Validator.helper columns, sql, .fullText index⟩ ::
      index.indexTables (Validator.helper columns)) (Validator.helper columns) := by
  intro part listed
  have member := openedParts_subset listed
  have apart : sameName (Validator.helper columns)
      (FullText.indexName (Validator.helper columns) part) = false := by
    rw [Bool.eq_false_iff]
    intro same
    have apart := indexName_ne_probe (Validator.helper columns) member columns
    rw [sameName_symm same] at apart
    cases apart
  have missing := vacant part member
  unfold Table.find? at missing ⊢
  rw [List.find?_append, missing, Option.none_or, List.find?_cons_of_neg (by simp [apart]),
    FullText.indexTables_eq, plain.indexParts, List.find?_map]
  have each : ∀ part ∈ FullText.parts, FullText.parts.find? (· == part) = some part := by decide
  have first : FullText.parts.find? ((fun table => sameName table.name
      (FullText.indexName (Validator.helper columns) part)) ∘ index.tableOf (Validator.helper columns)) =
      some part := by
    refine (List.find?_congr ?_).trans (each part member)
    intro own found
    rw [Function.comp_apply, FullText.tableOf_name, Bool.eq_iff_iff, beq_iff_eq]
    constructor
    · exact fun same => (FullText.sameName_of_indexName found member same).2
    · rintro rfl
      exact sameName_refl _
  rw [first]
  exact ⟨_, rfl, serves_tableOf index _ listed⟩

end Opens

namespace Intact

variable {tables : List Table}

theorem nil : Intact [] := by simp [Intact]

theorem append (intact : Intact tables) {made : List Table}
    (opens : ∀ columns, ∀ table ∈ made, sameName table.name (Validator.helper columns) = true →
      Opens (tables ++ made) table.name) : Intact (tables ++ made) := by
  intro columns table member same
  rcases List.mem_append.1 member with old | new
  · exact (intact columns table old same).append made
  · exact opens columns table new same

-- Tables with other names than those of a helper probe and its index make no difference.
theorem foreign (intact : Intact tables) {table : String} (other : ¬IsPrivate table) {made : List Table}
    (names : MadeFor table made) : Intact (tables ++ made) := by
  apply intact.append
  intro columns held member same
  obtain ⟨index, -, -⟩ := (HelpersKept.foreign other names).probe columns held member same
  rcases names held member with name | ⟨part, found, name⟩
  · rw [name] at same
    exact absurd ((IsPrivate.congr same).2 (isPrivate_probe columns)) other
  · rw [name, indexName_ne_probe table found] at same
    cases same

theorem splitter (intact : Intact tables) (choice : TokenizerChoice) (sql : String)
    (splitter : Token.Splitter) :
    Intact (tables ++ [⟨Tokenizer.helper choice, sql, .splitter splitter⟩]) := by
  apply intact.append
  intro columns table member same
  rw [List.mem_singleton.1 member, tokens_ne_probe] at same
  cases same

theorem fullText (intact : Intact tables) {index : FullText} (plain : index.IsPlain)
    {columns : List String} (sql : String)
    (vacant : ∀ part ∈ FullText.parts,
      Table.find? tables (FullText.indexName (Validator.helper columns) part) = none) :
    Intact (tables ++ ⟨Validator.helper columns, sql, .fullText index⟩ ::
      index.indexTables (Validator.helper columns)) := by
  apply intact.append
  intro others table member same
  rcases List.mem_cons.1 member with rfl | member
  · exact Opens.made plain sql vacant
  · obtain ⟨part, found, name⟩ := FullText.indexTables_name member
    rw [name, indexName_ne_probe _ (FullText.mem_parts found)] at same
    cases same

theorem written (intact : Intact tables) {name : String} (other : ¬IsOwned name)
    (rows : List StoredRow) : Intact (tables.map (Table.withRows name rows)) := by
  intro columns table member same part listed
  obtain ⟨held, found, rfl⟩ := List.mem_map.1 member
  rw [Table.withRows_name] at same ⊢
  obtain ⟨owned, foundPart, serves⟩ := intact columns held found same part listed
  refine ⟨owned, ?_, serves⟩
  rw [Table.find?_withRows, foundPart]
  rw [Bool.eq_false_iff]
  intro named
  exact other ⟨columns, part, openedParts_subset listed,
    sameName_trans (sameName_symm named) (FullText.sameName_indexName same)⟩

-- What goes away with another table belongs to no probe that stays.
theorem removed (intact : Intact tables) {held : Table} (other : ¬IsOwned held.name) :
    Intact (tables.filter fun table => !(dropped held).any (sameName table.name)) := by
  intro columns table member same part listed
  obtain ⟨there, stays⟩ := List.mem_filter.1 member
  obtain ⟨owned, found, serves⟩ := intact columns table there same part listed
  refine ⟨owned, find?_filter found ?_, serves⟩
  have named : sameName owned.name (FullText.indexName table.name part) = true := by
    simpa using List.find?_some found
  rw [Bool.not_eq_true', Bool.eq_false_iff]
  intro gone
  obtain ⟨name, goes, shared⟩ := List.any_eq_true.1 gone
  have reached := sameName_trans (sameName_symm shared) named
  rcases mem_dropped goes with rfl | ⟨own, foundPart, rfl⟩
  · exact other ⟨columns, part, openedParts_subset listed,
      sameName_trans reached (FullText.sameName_indexName same)⟩
  · obtain ⟨owner, -⟩ :=
      FullText.sameName_of_indexName foundPart (openedParts_subset listed) reached
    have goesToo : (dropped held).any (sameName table.name) = true :=
      List.any_eq_true.2 ⟨held.name, name_mem_dropped held, sameName_symm owner⟩
    rw [goesToo] at stays
    cases stays

end Intact

/-- Helper tables are kept, and the indexes of the helper probes can be opened. -/
structure Database.Whole (database : Database) : Prop extends database.Kept where
  intact : Intact database.temp.tables

namespace Database.Whole

variable {database : Database}

theorem within (whole : database.Whole) {name : String} {edit : List Table → List Table}
    (kept : (database.within name edit).Kept)
    (edited : sameName name "temp" = true → Intact (edit database.temp.tables)) :
    (database.within name edit).Whole := by
  refine ⟨kept, ?_⟩
  rcases within_tables database name edit with same | ⟨temporary, same⟩
  · rw [same]
    exact whole.intact
  · rw [same]
    exact edited (by rwa [whole.temp] at temporary)

theorem lasting : Lasting (fun home name => sameName home "temp" = true → ¬IsOwned name) Located
    Whole where
  noted used _ segments fewer whole :=
    ⟨Kept.lasting.noted used segments fewer whole.toKept, whole.intact⟩
  read whole := ⟨Kept.lasting.read whole.toKept, whole.intact⟩
  checked fewer whole := ⟨Kept.lasting.checked fewer whole.toKept, whole.intact⟩
  several := Kept.lasting.several
  started may whole := ⟨Kept.lasting.started may whole.toKept, whole.intact⟩
  reread whole := ⟨Kept.lasting.reread whole.toKept, whole.intact⟩
  undone fewer before after := ⟨Kept.lasting.undone fewer before.toKept after.toKept, before.intact⟩
  written may stored rewritten whole :=
    whole.within (Kept.lasting.written trivial stored rewritten whole.toKept) fun temporary =>
      whole.intact.written (may temporary) _

end Database.Whole

end Engine

/-- A step of building that leaves the tables of helpers alone, apart from dropping one as a whole. -/
def Step.Respects : Step → Prop
  | .build (.createTable schema table _) | .build (.createView schema table _)
  | .build (.createFullText schema table _ _ _) | .build (.insert schema table _)
  | .build (.delete schema table) => sameName schema "temp" = true → ¬IsPrivate table
  | .build (.drop schema table) => sameName schema "temp" = true → ¬IsOwned table
  | _ => True

-- Rows of these tables are read when words are looked up. Here they are not modelled, so nothing can be said
-- of words in an index into which a caller has written some.
def Engine.FullText.segmentParts : List String := [dataPart, termsPart]

def Step.SparesSegments (schema : Option String) (name : String) : Step → Prop
  | .build (.createTable home table _) | .build (.createView home table _)
  | .build (.createFullText home table _ _ _) | .build (.insert home table _)
  | .build (.delete home table) => (∀ known ∈ schema, sameName home known = true) →
    ∀ part ∈ FullText.segmentParts, sameName table (FullText.indexName name part) = false
  | _ => True

/-- No segments of the index that a validator matches expressions against have been written by hand. As long
as the table has not been found, it can be in any schema. -/
def Session.SparesProbe (session : Session) (validator : Validator) : Prop :=
  match validator.target, validator.probe with
  | some target, _ => Session.Reachable (Step.SparesSegments (some target.schema) target.table) session
  | none, .helper columns =>
    Session.Reachable (Step.SparesSegments (some "temp") (Validator.helper columns)) session
  | none, .table name _ => Session.Reachable (Step.SparesSegments none name) session

theorem Session.SparesProbe.reachable {session : Session} {validator : Validator}
    (spared : session.SparesProbe validator) : Session.Reachable (fun _ => True) session := by
  unfold Session.SparesProbe at spared
  split at spared <;> exact spared.mono fun _ _ => trivial

theorem Step.Respects.spares {step : Step} (respects : step.Respects) : step.Spares := by
  cases step with
  | build building => cases building <;> first | exact respects | trivial
  | create | request | lookup | helpers | bind | close => trivial

theorem Step.Respects.sparesSegments {step : Step} (respects : step.Respects) (columns : List String) :
    step.SparesSegments (some "temp") (Validator.helper columns) := by
  -- The tables of the index of a helper have names that are left to helpers.
  have apart {home table : String} (leaves : sameName home "temp" = true → ¬IsPrivate table)
      (inside : ∀ known ∈ some "temp", sameName home known = true) :
      ∀ part ∈ FullText.segmentParts,
        sameName table (FullText.indexName (Validator.helper columns) part) = false := by
    intro part listed
    have member : part ∈ FullText.parts := by
      revert part
      decide
    rw [Bool.eq_false_iff]
    intro same
    exact leaves (inside _ rfl) ((IsPrivate.congr same).2 (isPrivate_indexName (isPrivate_probe columns) member))
  cases step with
  | build building =>
    cases building with
    | createTable | createView | createFullText | insert | delete => exact apart respects
    | attach | detach | drop | lock | unlock => trivial
  | create | request | lookup | helpers | bind | close => trivial

namespace Engine.Database.Whole

theorem mayMake {schema table : String} (respects : sameName schema "temp" = true → ¬IsPrivate table) :
    MayMake Whole schema table := by
  intro home tables same adds database whole found
  refine whole.within (Kept.mayMake respects home tables same adds database whole.toKept found) ?_
  intro temporary
  exact whole.intact.foreign (respects (sameName_trans (sameName_symm same) temporary)) adds.names

-- Of a located table, either its name is the one that was asked for, or it lists other tables.
theorem name_of_locate {database : Database} {schema table : String} {home : Schema} {held : Table}
    (located : database.locate schema table = .ok (home, held)) :
    sameName home.name schema = true ∧
      (sameName held.name table = true ∨ ¬IsPrivate held.name) := by
  obtain ⟨found, entry⟩ := Database.locate_eq_ok located
  refine ⟨by simpa [Database.schema?] using List.find?_some found, ?_⟩
  rcases Schema.find?_cases entry with ⟨-, -, same⟩ | ⟨rfl, -⟩
  · exact .inl same
  · exact .inr (not_isPrivate_catalog home.name)

theorem mayChange {schema table : String} (respects : sameName schema "temp" = true → ¬IsPrivate table)
    {database : Database} {home : Schema} {held : Table}
    (located : database.locate schema table = .ok (home, held)) :
    MayChange (fun home name => sameName home "temp" = true → ¬IsOwned name) home held := by
  obtain ⟨inside, named⟩ := name_of_locate located
  have other (temporary : sameName home.name "temp" = true) : ¬IsPrivate held.name := by
    rcases named with same | other
    · exact mt (IsPrivate.congr same).1 (respects (sameName_trans (sameName_symm inside) temporary))
    · exact other
  exact ⟨fun temporary => not_isOwned (other temporary),
    fun part found temporary => not_isOwned_indexName (other temporary) found⟩

theorem mayBuild {building : Building} (respects : Step.Respects (.build building)) :
    MayBuild Whole (fun home name => sameName home "temp" = true → ¬IsOwned name) building := by
  have kept := Kept.mayBuild respects.spares
  cases building with
  | attach | detach =>
    exact fun database whole apart => ⟨kept database whole.toKept apart, whole.intact⟩
  | lock | unlock => exact fun database whole => ⟨kept database whole.toKept, whole.intact⟩
  | createTable | createView | createFullText => exact mayMake respects
  | insert | delete => exact fun _ _ _ located => mayChange respects located
  | drop schema table =>
    intro home held database whole located apart
    refine whole.within (kept home held database whole.toKept located apart) ?_
    intro temporary
    apply whole.intact.removed
    obtain ⟨inside, same | other⟩ := name_of_locate located
    · rintro ⟨columns, part, found, owned⟩
      exact respects (sameName_trans (sameName_symm inside) temporary)
        ⟨columns, part, found, sameName_trans (sameName_symm same) owned⟩
    · exact not_isOwned other

theorem madeTokens {database : Database} (whole : database.Whole) (choice : TokenizerChoice) (sql : String)
    (splitter : Token.Splitter) : (database.within database.temp.name
      (· ++ [⟨Tokenizer.helper choice, sql, .splitter splitter⟩])).Whole := by
  refine whole.within ?_ fun _ => whole.intact.splitter choice sql splitter
  exact whole.toKept.within fun _ => whole.helpers.append (.splitter choice sql splitter)

theorem madeProbe {database : Database} (whole : database.Whole) {columns : List String} {sql : String}
    {tables : List Table} (made : FullText.make database.temp (Validator.helper columns) sql
      ((columns.map Text.identifier).map String.toList) = .ok tables) :
    (database.within database.temp.name (· ++ tables)).Whole := by
  obtain ⟨index, declared, vacant, -, rfl⟩ := FullText.make_eq_ok made
  have plain := FullText.isPlain_identifiers declared
  rw [FullText.forM_checkVacant, plain.indexParts] at vacant
  refine whole.within ?_ fun _ => whole.intact.fullText plain _ ?_
  · exact whole.toKept.within fun _ => whole.helpers.append (.fullText columns _ plain)
  · intro part found
    rw [← find?_private (isPrivate_indexName (isPrivate_probe columns) found)]
    exact vacant part found

theorem outlasting : Session.Outlasting Step.Respects Whole where
  opened condition := ⟨Kept.outlasting.opened condition, .nil⟩
  reopened whole := ⟨Kept.outlasting.reopened whole.toKept, .nil⟩
  watched := by
    apply watched_of lasting.toSteadfast lasting.reread
    · exact fun choice _ splitter whole _ _ => whole.madeTokens choice _ splitter
    · exact fun _ _ _ whole _ made => whole.madeProbe made
    · exact fun _ _ usual expression database home held whole =>
        Kept.mayMatch usual expression database home held whole.toKept
  built respects := keeps_build lasting fun _ => mayBuild respects
  listed := keeps_listHelpers lasting

end Engine.Database.Whole

end TextQuery
