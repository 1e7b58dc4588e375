import TextQuery.Proofs.Session.Indexes

set_option autoImplicit false

namespace TextQuery

open Engine Engine.Change Text

namespace Engine.Database

variable {database : Database} {columns : List String}

theorem Kept.admits (kept : database.Kept) {text beginning : String}
    (begins : beginning.toList <+: text.toList)
    (apart : ¬(beginning.toList <+: "SELECT rowid FROM \"".toList ∨
      "SELECT rowid FROM \"".toList <+: beginning.toList)) : database.Admits [text] := by
  refine .inr fun known => apart ?_
  obtain ⟨schema, table, expression, rfl⟩ := kept.sound text known
  have quote : "\"".toList <+: (identifier schema).toList := ⟨doubled '"' schema.toList ++ ['"'], by
    simp [identifier, enclosed]⟩
  have words : "SELECT rowid FROM \"".toList = "SELECT rowid FROM ".toList ++ "\"".toList := by decide
  have source : "SELECT rowid FROM \"".toList <+:
      ("SELECT rowid FROM " ++ Statement.source (.located schema table)).toList := by
    rw [words, String.toList_append]
    exact (List.prefix_append_right_inj _).2 (prefix_append (prefix_append quote ".") _)
  exact List.prefix_or_prefix_of_prefix begins
    (prefix_append (prefix_append (prefix_append source " WHERE ") _) " MATCH ?")

theorem within_temp (main : database.main.name = "main") (temp : database.temp.name = "temp")
    (edit : List Table → List Table) : (database.within "temp" edit).temp = database.temp.change edit := by
  have apart : ¬sameName "temp" "main" = true := by decide
  rw [Database.within, main, temp, if_neg apart, if_pos (sameName_refl _)]

-- Tables that are made in the temporary schema are there behind the others.
theorem addTables_temp (main : database.main.name = "main") (temp : database.temp.name = "temp")
    (tables : List Table) : ∃ after, addTables database.temp.name tables database = (.ok (), after) ∧
      after.temp.tables = database.temp.tables ++ tables ∧ after.condition = database.condition ∧
      after.isRead = database.isRead := by
  obtain ⟨-, condition, isRead, -⟩ := within_frame database "temp" (· ++ tables)
  have added : (database.within "temp" (· ++ tables)).temp.tables = database.temp.tables ++ tables := by
    rw [within_temp main temp]
    rfl
  rw [addTables, alter_eq, temp]
  split
  · exact ⟨_, rfl, added, condition, isRead⟩
  · exact ⟨_, rfl, added, condition, isRead⟩

theorem Kept.locate_temp (kept : database.Kept) {name : String} {held : Table}
    (found : database.temp.find? name = some held) :
    database.locate "temp" name = .ok (database.temp, held) := by
  unfold locate schemaOr
  rw [kept.schema?_temp]
  simp only [bind, Except.bind, found]
  rfl

theorem Kept.read_temp (kept : database.Kept) {name : String} {held : Table}
    {declaration : TableDeclaration} {rows : List StoredRow} (found : database.temp.find? name = some held)
    (body : held.body = .ordinary declaration rows) :
    database.read "temp" name = .ok (ordinaryRelation "temp" declaration rows) := by
  unfold Database.read relationOf tableFuel
  rw [kept.locate_temp found]
  simp only [bind, Except.bind, relation, body, kept.temp]
  rfl

-- The probe that is located is a live table.
theorem Whole.live (whole : database.Whole) {held : Table}
    (found : Table.find? database.temp.tables (Validator.helper columns) = some held) :
    ∃ index : FullText, index.IsPlain ∧
      Live database (.helper (Validator.helper columns)) database.temp held index := by
  have member : held ∈ database.temp.tables := List.mem_of_find?_eq_some found
  have same : sameName held.name (Validator.helper columns) = true := by
    simpa using List.find?_some found
  obtain ⟨index, body, plain⟩ := whole.helpers.probe columns held member same
  have entry (part : String) (listed : part ∈ openedParts) :
      ∃ table declaration rows, database.temp.find? (FullText.indexName held.name part) = some table ∧
        table.body = .ordinary declaration rows ∧ Serves part (.ordinary declaration rows) := by
    obtain ⟨table, there, serves⟩ := whole.intact columns held member same part listed
    cases body : table.body with
    | ordinary declaration rows =>
      rw [body] at serves
      exact ⟨table, declaration, rows, by rw [Schema.find?, there], body, serves⟩
    | fullText | splitter | view | catalog =>
      rw [body] at serves
      exact serves.elim
  refine ⟨index, plain, ?_⟩
  have located : database.locate "temp" (Validator.helper columns) = .ok (database.temp, held) :=
    whole.locate_temp (by rw [Schema.find?, found])
  refine { located, body, segments := ?_, terms := ?_, version := ?_, unlocked := ?_ }
  · obtain ⟨table, declaration, rows, there, body, serves, -⟩ := entry FullText.dataPart (by decide)
    obtain ⟨count, counted⟩ := serves rfl
    exact ⟨rows, count, by simp only [Schema.indexRows, there, Option.map_some, body], counted⟩
  · obtain ⟨table, declaration, rows, there, body, -, serves, -⟩ := entry FullText.termsPart (by decide)
    simp only [Schema.checkTerms, there, Option.map_some, body, serves rfl, if_true]
  · obtain ⟨table, declaration, rows, there, body, -, -, serves⟩ :=
      entry FullText.settingsPart (by decide)
    rw [whole.temp, whole.read_temp there body, Except.bind]
    exact serves rfl
  · intro main
    rw [whole.temp, whole.main] at main
    exact absurd main (by decide)

end Engine.Database

namespace Validator

def Creatable (columns : List String) : Prop :=
  (Engine.answer (.createProbe (helper columns) columns) ({} : Database)).1 = .ok ()

instance (columns : List String) : Decidable (Creatable columns) :=
  inferInstanceAs (Decidable (_ = _))

-- The arguments of the declaration of a helper probe.
def arguments (columns : List String) : List (List Char) :=
  (columns.map Text.identifier).map String.toList

def probeSql (columns : List String) : String :=
  FullText.sql (helper columns) fullTextClause (columns.map Text.identifier)

-- What the engine asks of the columns alone.
structure Declares (columns : List String) (index : FullText) : Prop where
  writable : '\x00' ∉ (Statement.createProbe (helper columns) columns).text.toList
  few : ¬columns.length > FullText.argumentLimit
  declared : FullText.ofArguments (helper columns) (arguments columns) = .ok index
  distinct : FullText.checkColumns (helper columns) index = .ok ()

variable {columns : List String} {database : Database}

-- A probe is made in response to a statement that is read at all.
theorem answer_createProbe (writable : '\x00' ∉ (Statement.createProbe (helper columns) columns).text.toList)
    (admits : database.Admits [(Statement.createProbe (helper columns) columns).text])
    (readable : database.Readable) :
    ∃ ready, database.Follows ready ∧ Engine.answer (.createProbe (helper columns) columns) database =
      createProbe (helper columns) columns ready := by
  obtain ⟨ready, follows, -, answered⟩ := answer_eq rfl (by simp [Database.pragmaSchema?]) writable admits readable
  have opening : openTarget (.createProbe (helper columns) columns) ready = (.ok (), ready) := rfl
  rw [bind_ok _ opening] at answered
  exact ⟨ready, follows, answered⟩

theorem Creatable.declares (creatable : Creatable columns) : ∃ index, Declares columns index := by
  have writable : '\x00' ∉ (Statement.createProbe (helper columns) columns).text.toList := by
    intro nul
    have failed : Engine.answer (.createProbe (helper columns) columns) ({} : Database) =
        (.error .nulInText, {}) := by
      change Change.answer _ _ = _
      unfold Change.answer
      rw [if_pos (by simpa using nul)]
      rfl
    rw [Creatable, failed] at creatable
    cases creatable
  have admits : ({} : Database).Admits [(Statement.createProbe (helper columns) columns).text] :=
    .inl (by decide)
  obtain ⟨ready, follows, answered⟩ := answer_createProbe writable admits (.inl rfl)
  have empty : Table.find? ({} : Database).temp.tables (helper columns) = none := rfl
  rw [Creatable, answered, createProbe_eq, follows.temp, find?_private (isPrivate_probe columns), empty,
    Option.isNone_none, if_pos rfl] at creatable
  split at creatable
  · cases creatable
  · rename_i few
    cases made : FullText.make (Schema.ofTables "temp" []) (helper columns) (probeSql columns)
        (arguments columns) with
    | ok tables =>
      obtain ⟨index, declared, -, distinct, -⟩ := FullText.make_eq_ok made
      exact ⟨index, writable, few, declared, distinct⟩
    | error fault =>
      have failed : (construct (.error fault) : Change (List Table)) ready =
          (.error fault, ready.forget) := rfl
      change ((construct (FullText.make (Schema.ofTables "temp" []) (helper columns) (probeSql columns)
        (arguments columns)) >>= addTables _) ready).1 = _ at creatable
      rw [made, bind_error _ failed] at creatable
      cases creatable

-- What the arguments declare, if the engine takes them.
def declared (columns : List String) : Except Fault FullText := do
  let index ← FullText.ofArguments (helper columns) (arguments columns)
  FullText.checkColumns (helper columns) index
  return index

theorem Declares.declared_eq {index : FullText} (declares : Declares columns index) :
    Validator.declared columns = .ok index := by
  rw [Validator.declared, declares.declared]
  simp only [bind, Except.bind, declares.distinct]
  rfl

-- Where no table of the index is in the way, nothing but the columns can be refused.
theorem make_vacant {home : Schema}
    (vacant : ∀ part ∈ FullText.parts, home.find? (FullText.indexName (helper columns) part) = none) :
    FullText.make home (helper columns) (probeSql columns) (arguments columns) =
      (declared columns).map fun index => ⟨helper columns, probeSql columns, .fullText index⟩ ::
        index.indexTables (helper columns) := by
  unfold FullText.make declared
  cases FullText.ofArguments (helper columns) (arguments columns) with
  | error fault => rfl
  | ok index =>
    have free : index.indexParts.forM (FullText.checkVacant home (helper columns)) = .ok () :=
      FullText.forM_checkVacant.2 fun part member => vacant part (FullText.mem_parts member)
    simp only [bind, Except.bind, free]
    cases FullText.checkColumns (helper columns) index <;> rfl

-- Whether the probe of some columns is there.
def There (columns : List String) (database : Database) : Prop :=
  ∃ table ∈ database.temp.tables, sameName table.name (helper columns) = true

theorem There.find? (there : There columns database) :
    ∃ held, Table.find? database.temp.tables (helper columns) = some held := by
  obtain ⟨table, member, same⟩ := there
  exact Option.isSome_iff_exists.1 (List.find?_isSome.2 ⟨table, member, same⟩)

theorem not_there (missing : Table.find? database.temp.tables (helper columns) = none) :
    ¬There columns database := by
  rintro ⟨table, member, same⟩
  exact absurd same (by simpa using List.find?_eq_none.1 missing table member)

-- A table of the index is never there without the probe.
theorem vacant_of_missing (kept : database.Kept)
    (missing : Table.find? database.temp.tables (helper columns) = none) :
    ∀ part ∈ FullText.parts, database.temp.find? (FullText.indexName (helper columns) part) = none := by
  intro part member
  rw [find?_private (isPrivate_indexName (isPrivate_probe columns) member)]
  cases entry : Table.find? database.temp.tables (FullText.indexName (helper columns) part) with
  | none => rfl
  | some table =>
    exact absurd (kept.helpers.owned columns part member table (List.mem_of_find?_eq_some entry)
      (by simpa using List.find?_some entry)) (not_there missing)

theorem admits_createProbe (kept : database.Kept) (columns : List String) :
    database.Admits [(Statement.createProbe (helper columns) columns).text] := by
  have begins : "CREATE VIRTUAL TABLE IF NOT EXISTS temp.".toList <+:
      (Statement.createProbe (helper columns) columns).text.toList :=
    prefix_append (prefix_append (prefix_append (prefix_append List.prefix_rfl _) " USING fts5(") _) ")"
  exact kept.admits begins (by decide)

theorem createProbe_there {index : FullText} (declares : Declares columns index) (kept : database.Kept)
    (readable : database.Readable) :
    ∃ after, Engine.answer (.createProbe (helper columns) columns) database = (.ok (), after) ∧
      There columns after ∧ after.Readable := by
  obtain ⟨ready, follows, answered⟩ :=
    answer_createProbe declares.writable (admits_createProbe kept columns) readable
  have readable := readable.follows follows
  rw [answered, createProbe_eq, follows.temp, find?_private (isPrivate_probe columns)]
  cases found : Table.find? database.temp.tables (helper columns) with
  | some held =>
    refine ⟨ready, rfl, ⟨held, ?_, by simpa using List.find?_some found⟩, readable⟩
    rw [follows.temp]
    exact List.mem_of_find?_eq_some found
  | none =>
    have made := make_vacant (vacant_of_missing kept found)
    rw [declares.declared_eq, Except.map] at made
    unfold arguments probeSql at made
    rw [Option.isNone_none, if_pos rfl, if_neg declares.few, made]
    have constructed (tables : List Table) :
        construct (.ok tables) ready = (.ok tables, ready) := rfl
    obtain ⟨after, added, tables, condition, isRead⟩ := Database.addTables_temp
      (follows.main ▸ kept.main) (follows.temp ▸ kept.temp)
      (⟨helper columns, probeSql columns, .fullText index⟩ :: index.indexTables (helper columns))
    rw [bind_ok _ (constructed _), ← follows.temp]
    refine ⟨after, added, ?_, ?_⟩
    · rw [There, tables]
      exact ⟨_, List.mem_append_right _ List.mem_cons_self, sameName_refl _⟩
    · rwa [Database.Readable, condition, isRead]

end Validator

end TextQuery
