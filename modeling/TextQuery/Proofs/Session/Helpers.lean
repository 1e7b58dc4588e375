import TextQuery.Proofs.Session.Reachable

set_option autoImplicit false

namespace TextQuery

open Engine Engine.Change Text

namespace Engine

theorem not_isPrivate_catalogNames (name : String) :
    ∀ listed ∈ Schema.catalogNames name, ¬IsPrivate listed := by
  unfold Schema.catalogNames IsPrivate
  split <;> decide

theorem not_isPrivate_catalog (name : String) : ¬IsPrivate (Schema.catalog name).name := by
  have listed : (Schema.catalog name).name ∈ Schema.catalogNames name := by
    unfold Schema.catalog Schema.catalogNames
    split <;> decide
  exact not_isPrivate_catalogNames name _ listed

-- The tables that list the others have no such names.
theorem find?_private {home : Schema} {name : String} (isPrivate : IsPrivate name) :
    home.find? name = Table.find? home.tables name := by
  cases found : home.find? name with
  | none =>
    unfold Schema.find? at found
    split at found
    · cases found
    · rename_i missing
      exact missing.symm
  | some held =>
    rcases Schema.find?_cases found with ⟨looked, -⟩ | ⟨-, listed, member, same⟩
    · exact looked.symm
    · exact absurd ((IsPrivate.congr same).1 isPrivate) (not_isPrivate_catalogNames _ listed member)

theorem mem_dropped {held : Table} {name : String} (member : name ∈ dropped held) :
    name = held.name ∨ ∃ part ∈ FullText.parts, name = FullText.indexName held.name part := by
  unfold dropped at member
  split at member
  · rename_i index body
    rcases List.mem_append.1 member with inside | own
    · obtain ⟨part, found, rfl⟩ := List.mem_map.1 inside
      exact .inr ⟨part, FullText.mem_parts (by simpa using (List.mem_filter.1 found).2), rfl⟩
    · exact .inl (List.mem_singleton.1 own)
  · exact .inl (List.mem_singleton.1 member)

theorem name_mem_dropped (held : Table) : held.name ∈ dropped held := by
  unfold dropped
  split <;> simp

-- A plain full-text table goes away with all tables of its index.
theorem indexName_mem_dropped {held : Table} {index : FullText} (body : held.body = .fullText index)
    (plain : index.IsPlain) {part : String} (member : part ∈ FullText.parts) :
    FullText.indexName held.name part ∈ dropped held := by
  have each : ∀ part ∈ FullText.parts, part ∈ [FullText.dataPart, FullText.termsPart,
      FullText.settingsPart, FullText.sizesPart, FullText.contentsPart] := by decide
  unfold dropped
  rw [body]
  refine List.mem_append_left _ (List.mem_map_of_mem (List.mem_filter.2 ⟨each part member, ?_⟩))
  simpa [plain.indexParts] using member

/-- Under the names of helper tables there is nothing else, and the tables of an index only together with
the helper table that they belong to. -/
structure HelpersKept (tables : List Table) : Prop where
  probe : ∀ columns, ∀ table ∈ tables, sameName table.name (Validator.helper columns) = true →
    ∃ index, table.body = .fullText index ∧ index.IsPlain
  tokens : ∀ choice, ∀ table ∈ tables, sameName table.name (Tokenizer.helper choice) = true →
    ∃ splitter, table.body = .splitter splitter
  owned : ∀ columns, ∀ part ∈ FullText.parts, ∀ table ∈ tables,
    sameName table.name (FullText.indexName (Validator.helper columns) part) = true →
      ∃ owner ∈ tables, sameName owner.name (Validator.helper columns) = true

namespace HelpersKept

variable {tables made : List Table}

theorem nil : HelpersKept [] := ⟨by simp, by simp, by simp⟩

theorem append (kept : HelpersKept tables) (new : HelpersKept made) : HelpersKept (tables ++ made) where
  probe columns table member :=
    (List.mem_append.1 member).elim (kept.probe columns table) (new.probe columns table)
  tokens choice table member :=
    (List.mem_append.1 member).elim (kept.tokens choice table) (new.tokens choice table)
  owned columns part found table member same := by
    rcases List.mem_append.1 member with old | new'
    · obtain ⟨owner, there, named⟩ := kept.owned columns part found table old same
      exact ⟨owner, List.mem_append_left _ there, named⟩
    · obtain ⟨owner, there, named⟩ := new.owned columns part found table new' same
      exact ⟨owner, List.mem_append_right _ there, named⟩

-- Helper tables have no rows of their own that could be written, and names stay as they are.
theorem written (kept : HelpersKept tables) (name : String) (rows : List StoredRow) :
    HelpersKept (tables.map (Table.withRows name rows)) := by
  refine ⟨?_, ?_, ?_⟩
  · intro columns table member same
    obtain ⟨held, found, rfl⟩ := List.mem_map.1 member
    rw [Table.withRows_name] at same
    obtain ⟨index, body, plain⟩ := kept.probe columns held found same
    rcases held.withRows_cases name rows with unchanged | ⟨_, _, ordinary, -⟩
    · exact ⟨index, by rw [unchanged, body], plain⟩
    · rw [body] at ordinary
      cases ordinary
  · intro choice table member same
    obtain ⟨held, found, rfl⟩ := List.mem_map.1 member
    rw [Table.withRows_name] at same
    obtain ⟨splitter, body⟩ := kept.tokens choice held found same
    rcases held.withRows_cases name rows with unchanged | ⟨_, _, ordinary, -⟩
    · exact ⟨splitter, by rw [unchanged, body]⟩
    · rw [body] at ordinary
      cases ordinary
  · intro columns part listed table member same
    obtain ⟨held, found, rfl⟩ := List.mem_map.1 member
    rw [Table.withRows_name] at same
    obtain ⟨owner, there, owns⟩ := kept.owned columns part listed held found same
    exact ⟨_, List.mem_map_of_mem there, by rwa [Table.withRows_name]⟩

-- What has another name is no helper table, and belongs to none.
theorem foreign {table : String} (other : ¬IsPrivate table) (names : MadeFor table made) :
    HelpersKept made := by
  refine ⟨?_, ?_, ?_⟩
  · intro columns held member same
    rcases names held member with name | ⟨part, found, name⟩
    · rw [name] at same
      exact absurd ((IsPrivate.congr same).2 (isPrivate_probe columns)) other
    · rw [name, indexName_ne_probe table found] at same
      cases same
  · intro choice held member same
    rcases names held member with name | ⟨part, found, name⟩
    · rw [name] at same
      exact absurd ((IsPrivate.congr same).2 (isPrivate_tokens choice)) other
    · rw [name, indexName_ne_tokens table found] at same
      cases same
  · intro columns part listed held member same
    rcases names held member with name | ⟨own, found, name⟩
    · rw [name] at same
      exact absurd ((IsPrivate.congr same).2 (isPrivate_indexName (isPrivate_probe columns) listed)) other
    · rw [name] at same
      obtain ⟨owner, -⟩ := FullText.sameName_of_indexName found listed same
      exact absurd ((IsPrivate.congr owner).2 (isPrivate_probe columns)) other

theorem splitter (choice : TokenizerChoice) (sql : String) (splitter : Token.Splitter) :
    HelpersKept [⟨Tokenizer.helper choice, sql, .splitter splitter⟩] := by
  refine ⟨?_, ?_, ?_⟩
  · intro columns table member same
    rw [List.mem_singleton.1 member, tokens_ne_probe] at same
    cases same
  · intro other table member _
    rw [List.mem_singleton.1 member]
    exact ⟨splitter, rfl⟩
  · intro columns part listed table member same
    rw [List.mem_singleton.1 member] at same
    have apart := indexName_ne_tokens (Validator.helper columns) listed choice
    rw [sameName_symm same] at apart
    cases apart

theorem fullText (columns : List String) (sql : String) {index : FullText} (plain : index.IsPlain) :
    HelpersKept (⟨Validator.helper columns, sql, .fullText index⟩ ::
      index.indexTables (Validator.helper columns)) := by
  refine ⟨?_, ?_, ?_⟩
  · intro other table member same
    rcases List.mem_cons.1 member with rfl | member
    · exact ⟨index, rfl, plain⟩
    · obtain ⟨part, found, name⟩ := FullText.indexTables_name member
      rw [name, indexName_ne_probe _ (FullText.mem_parts found)] at same
      cases same
  · intro choice table member same
    rcases List.mem_cons.1 member with rfl | member
    · have apart := tokens_ne_probe choice columns
      rw [sameName_symm same] at apart
      cases apart
    · obtain ⟨part, found, name⟩ := FullText.indexTables_name member
      rw [name, indexName_ne_tokens _ (FullText.mem_parts found)] at same
      cases same
  · intro other part listed table member same
    refine ⟨_, List.mem_cons_self, ?_⟩
    rcases List.mem_cons.1 member with rfl | member
    · have apart := indexName_ne_probe (Validator.helper other) listed columns
      rw [sameName_symm same] at apart
      cases apart
    · obtain ⟨own, found, name⟩ := FullText.indexTables_name member
      rw [name] at same
      exact (FullText.sameName_of_indexName (FullText.mem_parts found) listed same).1

-- A helper table takes the tables of its index with it.
theorem removed (kept : HelpersKept tables) {held : Table}
    (plain : ∀ columns, sameName held.name (Validator.helper columns) = true →
      ∃ index, held.body = .fullText index ∧ index.IsPlain) :
    HelpersKept (tables.filter fun other => !(dropped held).any (sameName other.name)) := by
  refine ⟨?_, ?_, ?_⟩
  · exact fun columns table member => kept.probe columns table (List.mem_filter.1 member).1
  · exact fun choice table member => kept.tokens choice table (List.mem_filter.1 member).1
  · intro columns part listed table member same
    obtain ⟨there, stays⟩ := List.mem_filter.1 member
    obtain ⟨owner, found, owns⟩ := kept.owned columns part listed table there same
    refine ⟨owner, List.mem_filter.2 ⟨found, ?_⟩, owns⟩
    rw [Bool.not_eq_true', Bool.eq_false_iff]
    intro gone
    obtain ⟨name, goes, named⟩ := List.any_eq_true.1 gone
    rcases mem_dropped goes with rfl | ⟨own, foundPart, rfl⟩
    · have owned := sameName_trans (sameName_symm named) owns
      obtain ⟨index, body, plain⟩ := plain columns owned
      have goesToo : (dropped held).any (sameName table.name) = true :=
        List.any_eq_true.2 ⟨_, indexName_mem_dropped body plain listed,
          sameName_trans same (FullText.sameName_indexName (sameName_symm owned))⟩
      rw [goesToo] at stays
      cases stays
    · have apart := indexName_ne_probe held.name foundPart columns
      rw [sameName_trans (sameName_symm named) owns] at apart
      cases apart

end HelpersKept

/-- The schemas that are always there have their names, helper tables are kept, and no match against one is
noted as sound. -/
structure Database.Kept (database : Database) : Prop where
  main : database.main.name = "main"
  temp : database.temp.name = "temp"
  sound : ∀ text, [text] ∈ database.sound →
    ∃ schema table expression, text = (Statement.matchProbe (.located schema table) expression).text
  helpers : HelpersKept database.temp.tables

-- Single statements that may be noted as sound.
def Located (wording : Wording) : Prop := ∀ text, wording = [text] →
  ∃ schema table expression, text = (Statement.matchProbe (.located schema table) expression).text

namespace Database.Kept

variable {database : Database}

theorem within (kept : database.Kept) {name : String} {edit : List Table → List Table}
    (edited : sameName name "temp" = true → HelpersKept (edit database.temp.tables)) :
    (database.within name edit).Kept := by
  obtain ⟨⟨main, temp⟩, -, -, sound⟩ := within_frame database name edit
  refine ⟨main.trans kept.main, temp.trans kept.temp, by rw [sound]; exact kept.sound, ?_⟩
  rcases within_tables database name edit with same | ⟨temporary, same⟩
  · rw [same]
    exact kept.helpers
  · rw [same]
    exact edited (by rwa [kept.temp] at temporary)

theorem lasting : Lasting (fun _ _ => True) Located Kept where
  noted _ _ _ _ kept := ⟨kept.main, kept.temp, kept.sound, kept.helpers⟩
  read kept := ⟨kept.main, kept.temp, kept.sound, kept.helpers⟩
  checked fewer kept := ⟨kept.main, kept.temp, fun text member => kept.sound text (fewer member), kept.helpers⟩
  several count := by
    rintro text rfl
    exact absurd rfl count
  started may kept := by
    refine ⟨kept.main, kept.temp, ?_, kept.helpers⟩
    intro text member
    rcases List.mem_cons.1 member with same | member
    · exact may text same.symm
    · exact kept.sound text member
  reread kept := ⟨kept.main, kept.temp, by simp [Database.forget], kept.helpers⟩
  undone _ before after := ⟨before.main, before.temp, after.sound, before.helpers⟩
  written _ _ _ kept := kept.within fun _ => kept.helpers.written _ _

theorem schema?_temp (kept : database.Kept) : database.schema? "temp" = some database.temp := by
  have other : sameName "main" "temp" = false := by decide
  simp [Database.schema?, Database.schemas, kept.main, kept.temp, other, sameName_refl]

-- Under the name of a helper table there are only tables of the temporary schema.
theorem of_locate (kept : database.Kept) {name : String} (isPrivate : IsPrivate name) {home : Schema}
    {held : Table} (located : database.locate "temp" name = .ok (home, held)) :
    home = database.temp ∧ held ∈ database.temp.tables ∧ sameName held.name name = true := by
  obtain ⟨found, entry⟩ := Database.locate_eq_ok located
  rw [kept.schema?_temp] at found
  cases found
  rw [find?_private isPrivate] at entry
  exact ⟨rfl, List.mem_of_find?_eq_some entry, by simpa using List.find?_some entry⟩

theorem home_eq (kept : database.Kept) {schema table : String} {home : Schema} {held : Table}
    (located : database.locate schema table = .ok (home, held)) (temporary : sameName home.name "temp" = true) :
    home = database.temp := by
  have found := Database.schema?_name (Database.locate_eq_ok located).1
  rw [Database.schema?_congr temporary, kept.schema?_temp] at found
  exact (Option.some.inj found).symm

theorem probe_of_locate (kept : database.Kept) {schema table : String} {held : Table}
    (located : database.locate schema table = .ok (database.temp, held)) {columns : List String}
    (same : sameName held.name (Validator.helper columns) = true) :
    ∃ index, held.body = .fullText index ∧ index.IsPlain := by
  obtain ⟨-, entry⟩ := Database.locate_eq_ok located
  rcases Schema.find?_cases entry with ⟨-, member, -⟩ | ⟨rfl, -⟩
  · exact kept.helpers.probe columns held member same
  · exact absurd (isPrivate_probe columns) (mt (IsPrivate.congr same).2 (not_isPrivate_catalog _))

end Database.Kept

end Engine

/-- A step of building that makes no table of the name of a helper table. -/
def Step.Spares : Step → Prop
  | .build (.createTable schema table _) | .build (.createView schema table _)
  | .build (.createFullText schema table _ _ _) => sameName schema "temp" = true → ¬IsPrivate table
  | _ => True

namespace Engine.Database.Kept

theorem mayMake {schema table : String} (spares : sameName schema "temp" = true → ¬IsPrivate table) :
    MayMake Kept schema table := by
  rintro home tables same adds database kept -
  refine kept.within fun temporary => kept.helpers.append ?_
  exact .foreign (spares (sameName_trans (sameName_symm same) temporary)) adds.names

theorem mayBuild {building : Building} (spares : Step.Spares (.build building)) :
    MayBuild Kept (fun _ _ => True) building := by
  cases building with
  | attach schema => exact fun _ kept _ => ⟨kept.main, kept.temp, kept.sound, kept.helpers⟩
  | detach schema => exact fun _ kept _ => ⟨kept.main, kept.temp, kept.sound, kept.helpers⟩
  | createTable schema table declaration => exact mayMake spares
  | createView schema view source => exact mayMake spares
  | createFullText schema table columns options clause => exact mayMake spares
  | insert | delete => exact fun _ _ _ _ => ⟨trivial, fun _ _ => trivial⟩
  | drop schema table =>
    rintro home held database kept located -
    refine kept.within fun temporary => kept.helpers.removed ?_
    intro columns same
    rw [kept.home_eq located temporary] at located
    exact kept.probe_of_locate located same
  | lock | unlock => exact fun _ kept => ⟨kept.main, kept.temp, kept.sound, kept.helpers⟩

-- Matches against helper tables are never noted, as these are not in the main schema.
theorem mayMatch {target : Target} {expression : String}
    (usual : (Statement.matchProbe target expression).Usual) : MayMatch Kept Located target := by
  intro expression database home held kept located
  cases target with
  | located schema table =>
    refine .inl ?_
    rintro text same
    exact ⟨schema, table, expression, (List.singleton_inj.1 same).symm⟩
  | helper table =>
    obtain ⟨columns, rfl⟩ := usual
    rw [Target.schema, Target.table] at located
    obtain ⟨rfl, member, same⟩ := kept.of_locate (isPrivate_probe columns) located
    refine .inr ⟨?_, by rw [kept.temp, kept.main]; decide⟩
    obtain ⟨index, body, -⟩ := kept.helpers.probe columns held member same
    rw [Table.isFullText, body]

theorem outlasting : Session.Outlasting Step.Spares Kept where
  opened condition := ⟨rfl, rfl, by simp, .nil⟩
  reopened kept := ⟨kept.main, rfl, by simp [Database.reopened, Database.forget], .nil⟩
  watched := by
    apply watched_of lasting.toSteadfast lasting.reread
    · rintro choice database splitter kept - -
      exact kept.within fun _ => kept.helpers.append (.splitter choice _ splitter)
    · rintro columns database tables kept - made
      obtain ⟨index, declared, -, -, rfl⟩ := FullText.make_eq_ok made
      refine kept.within fun _ => kept.helpers.append ?_
      exact .fullText columns _ (FullText.isPlain_identifiers declared)
    · exact fun target expression usual => mayMatch usual
  built spares := keeps_build lasting fun _ => mayBuild spares
  listed := keeps_listHelpers lasting

end Engine.Database.Kept

end TextQuery
