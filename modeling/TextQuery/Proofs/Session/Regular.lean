import TextQuery.Proofs.Session.Reachable

set_option autoImplicit false

namespace TextQuery

open Engine Engine.Change Text

namespace Engine

-- Of single statements only matches are ever noted as sound.
def OfMatch (wording : Wording) : Prop := ∀ text, wording = [text] →
  ∃ target expression, text = (Statement.matchProbe target expression).text

structure Database.Regular (database : Database) : Prop extends database.Clean where
  apart : database.schemas.Pairwise fun a b => sameName a.name b.name = false
  distinct : ∀ schema ∈ database.schemas,
    schema.tables.Pairwise fun a b => sameName a.name b.name = false
  declared : ∀ schema ∈ database.schemas, ∀ table ∈ schema.tables, table.Sound
  opened : ∀ entry ∈ database.unopened, ∃ schema ∈ database.schemas, ∃ table ∈ schema.tables,
    schema.name = entry.1 ∧ table.name = entry.2 ∧ table.isFullText = true
  noted : ∀ wording ∈ database.sound, OfMatch wording

namespace Database

variable {database : Database}

-- The schemas that an edit of the tables of one name leaves alone.
theorem map_apart {name : String} {edit : List Table → List Table} {schemas : List Schema} {home : Schema}
    (same : sameName home.name name = true)
    (apart : ∀ schema ∈ schemas, sameName home.name schema.name = false) :
    (schemas.map fun schema => if sameName schema.name name then schema.change edit else schema) =
      schemas := by
  refine Eq.trans (List.map_congr_left ?_) (List.map_id _)
  intro schema member
  rw [if_neg]
  · rfl
  · intro named
    have apart := apart schema member
    rw [sameName_trans same (sameName_symm named)] at apart
    cases apart

-- Where no two schemas share a name, an edit changes the one of a name and no other.
theorem schemas_within (apart : database.schemas.Pairwise fun a b => sameName a.name b.name = false)
    (name : String) (edit : List Table → List Table) :
    (database.within name edit).schemas =
      database.schemas.map fun schema =>
        if sameName schema.name name then schema.change edit else schema := by
  obtain ⟨main, others⟩ := List.pairwise_cons.1 apart
  obtain ⟨temp, -⟩ := List.pairwise_cons.1 others
  unfold within
  split
  · rename_i same
    have named := sameName_symm same
    change database.main.change edit :: (database.temp :: database.attached) =
      List.map _ (database.main :: (database.temp :: database.attached))
    rw [List.map_cons, map_apart named main, if_pos named]
  · rename_i notMain
    rw [sameName_comm] at notMain
    split
    · rename_i same
      have named := sameName_symm same
      change database.main :: database.temp.change edit :: database.attached =
        List.map _ (database.main :: database.temp :: database.attached)
      rw [List.map_cons, List.map_cons, map_apart named temp, if_neg notMain, if_pos named]
    · rename_i notTemp
      rw [sameName_comm] at notTemp
      change database.main :: database.temp :: List.map _ database.attached =
        List.map _ (database.main :: database.temp :: database.attached)
      rw [List.map_cons, List.map_cons, if_neg notMain, if_neg notTemp]

namespace Regular

theorem home_eq (regular : database.Regular) {name : String} {home held : Schema}
    (found : database.schema? name = some home) (member : held ∈ database.schemas)
    (same : sameName held.name name = true) : held = home :=
  eq_of_sameName regular.apart member (List.mem_of_find?_eq_some found)
    (sameName_trans same (sameName_symm (sameName_of_schema? found)))

theorem schema?_eq (regular : database.Regular) {schema : Schema} (member : schema ∈ database.schemas) :
    database.schema? schema.name = some schema := by
  obtain ⟨home, found⟩ : ∃ home, database.schema? schema.name = some home :=
    Option.isSome_iff_exists.1 (List.find?_isSome.2 ⟨schema, member, sameName_refl _⟩)
  rw [found, regular.home_eq found member (sameName_refl _)]

-- An edit of one schema, and what has to be seen to there.
theorem within (regular : database.Regular) {name : String} {edit : List Table → List Table}
    (clean : (database.within name edit).Clean)
    (distinct : ∀ schema ∈ database.schemas, sameName schema.name name = true →
      (edit schema.tables).Pairwise fun a b => sameName a.name b.name = false)
    (declared : ∀ schema ∈ database.schemas, sameName schema.name name = true →
      ∀ table ∈ edit schema.tables, table.Sound)
    (stays : ∀ schema ∈ database.schemas, sameName schema.name name = true →
      ∀ table ∈ schema.tables, table.isFullText = true →
      (schema.name, table.name) ∈ database.unopened →
        ∃ other ∈ edit schema.tables, other.name = table.name ∧ other.isFullText = true) :
    (database.within name edit).Regular := by
  have schemas := schemas_within regular.apart name edit
  have named (schema : Schema) :
      (if sameName schema.name name then schema.change edit else schema).name = schema.name := by
    split <;> rfl
  refine ⟨clean, ?_, ?_, ?_, ?_, ?_⟩
  · rw [schemas, List.pairwise_map]
    simpa only [named] using regular.apart
  · rw [schemas, List.forall_mem_map]
    intro schema member
    split
    · rename_i same
      exact distinct schema member same
    · exact regular.distinct schema member
  · rw [schemas, List.forall_mem_map]
    intro schema member
    split
    · rename_i same
      exact declared schema member same
    · exact regular.declared schema member
  · rw [within_unopened, schemas]
    rintro ⟨inside, listed⟩ member
    obtain ⟨schema, held, table, there, rfl, rfl, isFullText⟩ := regular.opened _ member
    refine ⟨_, List.mem_map_of_mem held, ?_⟩
    rw [named]
    split
    · rename_i same
      obtain ⟨other, found, name, kind⟩ := stays schema held same table there isFullText member
      exact ⟨other, found, rfl, name, kind⟩
    · exact ⟨table, there, rfl, rfl, isFullText⟩
  · rw [(within_frame database name edit).2.2.2]
    exact regular.noted

theorem added (regular : database.Regular) {home : Schema} {table : String} {tables : List Table}
    (clean : (database.within home.name (· ++ tables)).Clean) (adds : Adds home table tables)
    (found : database.schema? home.name = some home) :
    (database.within home.name (· ++ tables)).Regular := by
  have known {schema : Schema} (member : schema ∈ database.schemas)
      (same : sameName schema.name home.name = true) : schema = home := regular.home_eq found member same
  refine regular.within clean ?_ ?_ ?_
  · intro schema member same
    cases known member same
    refine List.pairwise_append.2 ⟨regular.distinct home member, adds.distinct, ?_⟩
    intro held there made new
    have vacant := adds.vacant made new
    rw [Bool.eq_false_iff]
    intro named
    unfold Schema.find? at vacant
    split at vacant
    · cases vacant
    · rename_i missing
      exact absurd named (by simpa using List.find?_eq_none.1 missing held there)
  · intro schema member same made new
    rcases List.mem_append.1 new with held | new
    · exact regular.declared schema member made held
    · exact adds.sound made new
  · intro schema member same held there isFullText _
    exact ⟨held, List.mem_append_left _ there, rfl, isFullText⟩

theorem withRows_isFullText (name : String) (rows : List StoredRow) (table : Table) :
    (table.withRows name rows).isFullText = table.isFullText := by
  rcases table.withRows_cases name rows with same | ⟨declaration, before, body, same⟩
  · rw [same]
  · rw [same, Table.isFullText, Table.isFullText, body]

theorem sound_withRows {table : Table} (sound : table.Sound) (name : String) (rows : List StoredRow) :
    (table.withRows name rows).Sound := by
  rcases table.withRows_cases name rows with same | ⟨declaration, before, body, same⟩
  · rwa [same]
  · rw [same]
    intro other stored written
    cases written
    exact sound declaration before body

-- Once catalogs have been forgotten, the full-text tables are those that have to be opened.
theorem forgotten (clean : database.forget.Clean)
    (apart : database.schemas.Pairwise fun a b => sameName a.name b.name = false)
    (distinct : ∀ schema ∈ database.schemas,
      schema.tables.Pairwise fun a b => sameName a.name b.name = false)
    (declared : ∀ schema ∈ database.schemas, ∀ table ∈ schema.tables, table.Sound) :
    database.forget.Regular := by
  have schemas : database.forget.schemas =
      database.schemas.map fun schema => Schema.ofTables schema.name schema.tables := rfl
  refine ⟨clean, ?_, ?_, ?_, ?_, by simp [forget]⟩
  · rw [schemas, List.pairwise_map]
    exact apart
  · rw [schemas, List.forall_mem_map]
    exact distinct
  · rw [schemas, List.forall_mem_map]
    exact declared
  · intro entry member
    obtain ⟨schema, held, listed⟩ := List.mem_flatMap.1 member
    obtain ⟨table, there, rfl⟩ := List.mem_map.1 listed
    obtain ⟨there, isFullText⟩ := List.mem_filter.1 there
    rw [schemas]
    exact ⟨_, List.mem_map_of_mem held, table, there, rfl, rfl, isFullText⟩

theorem lasting : Lasting (fun _ _ => True) OfMatch Regular where
  noted used _ segments fewer regular :=
    ⟨Clean.lasting.noted used segments fewer regular.toClean, regular.apart, regular.distinct,
      regular.declared, fun entry member => regular.opened entry (fewer member), regular.noted⟩
  read regular := { regular with toClean := Clean.lasting.read regular.toClean }
  checked fewer regular :=
    ⟨Clean.lasting.checked fewer regular.toClean, regular.apart, regular.distinct, regular.declared,
      regular.opened, fun wording member => regular.noted wording (fewer member)⟩
  several count := by
    rintro text rfl
    exact absurd rfl count
  started may regular :=
    ⟨Clean.lasting.started trivial regular.toClean, regular.apart, regular.distinct, regular.declared,
      regular.opened, List.forall_mem_cons.2 ⟨may, regular.noted⟩⟩
  reread regular :=
    forgotten (Clean.lasting.reread regular.toClean) regular.apart regular.distinct regular.declared
  undone fewer before after :=
    ⟨Clean.lasting.undone fewer before.toClean after.toClean, before.apart, before.distinct,
      before.declared, fun entry member => before.opened entry (fewer member), after.noted⟩
  written _ stored rewritten regular := by
    refine regular.within (Clean.lasting.written trivial stored rewritten regular.toClean) ?_ ?_ ?_
    · intro schema member _
      rw [List.pairwise_map]
      simpa only [Table.withRows_name] using regular.distinct schema member
    · intro schema member _
      rw [List.forall_mem_map]
      exact fun table held => sound_withRows (regular.declared schema member table held) _ _
    · intro schema member _ table held isFullText _
      refine ⟨_, List.mem_map_of_mem held, Table.withRows_name, ?_⟩
      rwa [withRows_isFullText]

theorem mayBuild (building : Building) (clean : ∀ text ∈ building.texts, '\x00' ∉ text.toList) :
    MayBuild Regular (fun _ _ => True) building := by
  have may := Clean.mayBuild building clean
  cases building with
  | attach schema =>
    intro database regular new
    have schemas : { database with attached := database.attached ++ [Schema.ofTables schema []] }.schemas =
        database.schemas ++ [Schema.ofTables schema []] := rfl
    refine ⟨may database regular.toClean new, ?_, ?_, ?_, ?_, regular.noted⟩
    · rw [schemas, List.pairwise_append]
      refine ⟨regular.apart, List.pairwise_singleton _ _, ?_⟩
      intro held member other single
      rw [List.mem_singleton.1 single]
      have apart : ¬sameName held.name schema = true := List.find?_eq_none.1 new held member
      exact Bool.eq_false_iff.2 apart
    · rw [schemas, List.forall_mem_append]
      exact ⟨regular.distinct, by simp [Schema.ofTables]⟩
    · rw [schemas, List.forall_mem_append]
      exact ⟨regular.declared, by simp [Schema.ofTables]⟩
    · intro entry member
      obtain ⟨held, found, rest⟩ := regular.opened entry member
      exact ⟨held, by rw [schemas]; exact List.mem_append_left _ found, rest⟩
  | detach schema =>
    intro database regular gone
    have fewer : { database with
        attached := database.attached.filter fun held => !sameName held.name schema }.schemas.Sublist
        database.schemas := List.Sublist.cons_cons _ (List.Sublist.cons_cons _ List.filter_sublist)
    refine ⟨may database regular.toClean gone, regular.apart.sublist fewer, ?_, ?_, ?_, regular.noted⟩
    · exact fun held member => regular.distinct held (fewer.subset member)
    · exact fun held member => regular.declared held (fewer.subset member)
    · rintro ⟨inside, listed⟩ member
      obtain ⟨held, found, table, there, rfl, rest⟩ := regular.opened _ member
      have apart := gone _ member
      refine ⟨held, ?_, table, there, rfl, rest⟩
      simp only [schemas, List.mem_cons] at found ⊢
      rcases found with main | temp | attached
      · exact .inl main
      · exact .inr (.inl temp)
      · exact .inr (.inr (List.mem_filter.2 ⟨attached, by simp [apart]⟩))
  | createTable | createView | createFullText =>
    intro home tables same adds database regular found
    exact regular.added (may home tables same adds database regular.toClean found) adds found
  | insert | delete => exact fun _ _ _ _ => ⟨trivial, fun _ _ => trivial⟩
  | drop schema table =>
    intro home held database regular located gone
    have found := schema?_name (locate_eq_ok located).1
    refine regular.within (may home held database regular.toClean located gone) ?_ ?_ ?_
    · exact fun schema member _ => (regular.distinct schema member).filter _
    · exact fun schema member _ table kept =>
        regular.declared schema member table (List.mem_filter.1 kept).1
    · intro schema member same table there isFullText unopened
      cases regular.home_eq found member same
      have stays := gone _ unopened rfl
      exact ⟨table, List.mem_filter.2 ⟨there, by simpa using stays⟩, rfl, isFullText⟩
  | lock | unlock =>
    exact fun database regular => { regular with toClean := may database regular.toClean }

theorem schema?_temp (regular : database.Regular) : database.schema? database.temp.name = some database.temp :=
  regular.schema?_eq (by simp [schemas])

-- Helper tables have names that can be written, and take no other table's place.
theorem added_tokens (regular : database.Regular) {choice : TokenizerChoice}
    (free : database.temp.find? (Tokenizer.helper choice) = none) (splitter : Token.Splitter) :
    (database.within database.temp.name (· ++ [⟨Tokenizer.helper choice,
      TokenTable.sql (Tokenizer.helper choice) choice, .splitter splitter⟩])).Regular := by
  refine regular.added ?_ (adds_tokens free splitter) regular.schema?_temp
  apply regular.toClean.added
  intro table member
  rw [List.mem_singleton.1 member]
  exact writable_helperName (by unfold Writable; decide) _

theorem added_probe (regular : database.Regular) {columns : List String} {arguments : List (List Char)}
    {tables : List Table} (free : database.temp.find? (Validator.helper columns) = none)
    (made : FullText.make database.temp (Validator.helper columns)
      (FullText.sql (Validator.helper columns) fullTextClause (columns.map identifier)) arguments = .ok tables) :
    (database.within database.temp.name (· ++ tables)).Regular := by
  refine regular.added ?_ (adds_probe free made) regular.schema?_temp
  apply regular.toClean.added
  exact Clean.writable_of_madeFor (writable_helperName (by unfold Writable; decide) _) (madeFor_make made)

theorem outlasting : Session.Outlasting (fun _ => True) Regular where
  opened condition := by
    refine ⟨Clean.new condition, ?_, ?_, ?_, by simp, by simp⟩
    · change List.Pairwise _ [Schema.ofTables "main" [], Schema.ofTables "temp" []]
      decide
    · simp [schemas, Schema.ofTables]
    · simp [schemas, Schema.ofTables]
  reopened {database} regular := by
    have main : database.main ∈ database.schemas := by simp [schemas]
    apply forgotten (Clean.outlasting.reopened regular.toClean)
    · change List.Pairwise _ [database.main, Schema.ofTables "temp" []]
      have apart : sameName "main" (Schema.ofTables "temp" []).name = false := by decide
      simp [regular.main, apart]
    · simpa [schemas, Schema.ofTables] using regular.distinct _ main
    · simpa [schemas, Schema.ofTables] using regular.declared _ main
  watched := by
    apply watched_of lasting.toSteadfast lasting.reread
    · exact fun choice database splitter regular free _ => regular.added_tokens free splitter
    · exact fun columns database tables regular free made => regular.added_probe free made
    · exact fun target expression _ other _ _ _ _ _ => .inl fun text same =>
        ⟨target, other, (List.singleton_inj.1 same).symm⟩
  built _ := keeps_build lasting (mayBuild _)
  listed := keeps_listHelpers lasting

end Regular

end Database

end Engine

end TextQuery
