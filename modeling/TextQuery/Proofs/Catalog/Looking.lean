import TextQuery.Proofs.Session.Regular

set_option autoImplicit false

namespace TextQuery.Engine

open Text

-- What is listed of the columns of a table with rows.
def TableDeclaration.info (declaration : TableDeclaration) : List ColumnInfo :=
  declaration.columns.map fun column => ⟨column.name, declaration.keyPosition column.name⟩

namespace Database

variable {database after : Database}

def reading (database : Database) : Except Fault Unit :=
  match database.condition with
  | .notADatabase => .error .notADatabase
  | .locked => if database.isRead then .ok () else .error .busy
  | .usable => .ok ()

def access (database : Database) (schema : String) : Except Fault Unit := do
  database.reading
  database.touch schema

theorem readable_of_reading (read : database.reading = .ok ()) : database.Readable := by
  unfold reading at read
  split at read
  · cases read
  · rename_i locked
    split at read
    · rename_i isRead
      exact .inr ⟨locked, isRead⟩
    · cases read
  · rename_i usable
    exact .inl usable

theorem reading_of_readable (readable : database.Readable) : database.reading = .ok () := by
  unfold reading
  rcases readable with usable | ⟨locked, isRead⟩
  · rw [usable]
  · rw [locked, isRead]
    rfl

theorem access_eq_ok {schema : String} :
    database.access schema = .ok () ↔ database.reading = .ok () ∧ database.touch schema = .ok () := by
  unfold access
  cases database.reading <;> simp [bind, Except.bind]

structure Sees (before after : Database) : Prop extends Follows before after where
  regular : after.Regular

-- What could be looked at can be looked at later too.
theorem Follows.access (follows : Follows database after) {schema : String}
    (ready : database.access schema = .ok ()) : after.access schema = .ok () := by
  rw [access_eq_ok] at ready ⊢
  rw [follows.touch]
  exact ⟨reading_of_readable ((readable_of_reading ready.1).follows follows), ready.2⟩

section

variable {schema table : String} {home : Schema} (found : database.schema? schema = some home)
include found

theorem tableExists_eq (table : String) :
    database.tableExists schema table =
      database.touch home.name >>= fun _ => .ok (Table.find? home.tables table).isSome := by
  unfold Database.tableExists Database.listed
  rw [schemaOr_eq_ok.2 found]
  simp only [bind, Except.bind]
  cases database.touch home.name <;> rfl

theorem tableSql_eq (table : String) :
    database.tableSql schema table = database.touch home.name >>= fun _ =>
      .ok (((Table.find? home.tables table).filter fun held => !held.isView).map Table.sql) := by
  unfold Database.tableSql Database.listed
  rw [schemaOr_eq_ok.2 found]
  simp only [bind, Except.bind]
  cases database.touch home.name <;> rfl

theorem foreignKeyList_eq {held : Table} (there : home.find? table = some held)
    (untouched : database.touch home.name = .ok ()) :
    database.foreignKeyList schema table = .ok held.keyColumns := by
  unfold Database.foreignKeyList Database.described
  rw [schemaOr_eq_ok.2 found]
  simp only [bind, Except.bind, there, Option.map_some]
  cases held.keyColumns with
  | nil => rfl
  | cons column columns =>
    simp only [untouched]
    rfl

theorem tableInfo_eq {held : Table} {declaration : TableDeclaration} {rows : List StoredRow}
    (there : home.find? table = some held) (body : held.body = .ordinary declaration rows)
    (untouched : database.touch home.name = .ok ()) :
    database.tableInfo schema table = .ok declaration.info := by
  unfold Database.tableInfo Database.described
  rw [schemaOr_eq_ok.2 found]
  simp only [bind, Except.bind, there, body, untouched]
  rfl

end

-- A table with rows is never one of those that have to be opened.
theorem Regular.not_unopened (regular : database.Regular) {schema table : String} {home : Schema}
    {held : Table} {declaration : TableDeclaration} {rows : List StoredRow}
    (found : database.schema? schema = some home) (there : home.find? table = some held)
    (body : held.body = .ordinary declaration rows) : (home.name, held.name) ∉ database.unopened := by
  intro unopened
  obtain ⟨other, known, table, listed, inside, named, isFullText⟩ := regular.opened _ unopened
  have member : home ∈ database.schemas := List.mem_of_find?_eq_some found
  have same : other = home := eq_of_sameName regular.apart known member (by rw [inside, sameName_refl])
  subst same
  rcases Schema.find?_cases there with ⟨-, there, -⟩ | ⟨catalog, -⟩
  · have same : table = held :=
      eq_of_sameName (regular.distinct other member) listed there (by rw [named, sameName_refl])
    rw [same, Table.isFullText, body] at isFullText
    cases isFullText
  · rw [catalog, Schema.catalog] at body
    cases body

theorem Regular.unknown (regular : database.Regular) {text beginning : String}
    (begins : beginning.toList <+: text.toList)
    (apart : ¬(beginning.toList <+: "SELECT rowid FROM ".toList ∨
      "SELECT rowid FROM ".toList <+: beginning.toList)) : [text] ∉ database.sound := by
  refine fun known => apart ?_
  obtain ⟨target, expression, rfl⟩ := regular.noted [text] known text rfl
  have words : "SELECT rowid FROM ".toList <+:
      (Statement.matchProbe target expression).text.toList :=
    prefix_append (prefix_append (prefix_append (prefix_append List.prefix_rfl _) " WHERE ") _) " MATCH ?"
  exact List.prefix_or_prefix_of_prefix begins words

end Database

namespace Change

variable {α : Type} {database : Database}

theorem readCatalog_answer (database : Database) : (readCatalog database).1 = database.reading := by
  rw [readCatalog_eq, Database.reading]
  cases database.condition with
  | notADatabase | usable => rfl
  | locked => cases database.isRead <;> rfl

-- A statement whose response changes nothing is answered by it, if the catalog can be read.
theorem answer_quiet {statement : Statement α} {result : Except Fault α}
    (looksUp : Database.looksUp statement = true)
    (responds : ∀ after, database.Follows after → respond statement after = (result, after))
    (opens : ∀ after, database.Follows after → openTarget statement after = (.ok (), after))
    (named : ∀ schema, Database.pragmaSchema? statement = some schema → (database.schema? schema).isSome)
    (writable : '\x00' ∉ statement.text.toList) (admits : database.Admits [statement.text]) :
    ∃ after, answer statement database = (database.reading >>= fun _ => result, after) ∧
      database.Follows after := by
  cases read : database.reading with
  | ok _ =>
    obtain ⟨ready, first, -, answered⟩ :=
      answer_eq looksUp named writable admits (Database.readable_of_reading read)
    exact ⟨ready, by rw [answered, bind_ok _ (opens ready first), responds ready first]; rfl, first⟩
  | error fault =>
    obtain ⟨sound, isTempUsed, begun⟩ := answer_begins looksUp named writable admits
    have unread : (readCatalog { database with sound, isTempUsed }).1 = .error fault :=
      (readCatalog_answer _).trans read
    have kept := keeps_readCatalog database.steady_follows { database with sound, isTempUsed }
      ⟨rfl, rfl, rfl, rfl, id, List.Subset.refl _⟩
    exact ⟨_, begun.trans (bind_error _ (Prod.ext unread rfl)), kept⟩

theorem answer_lookup (statement : Statement α) (look : Database → Except Fault α)
    (looksUp : Database.looksUp statement = true) (responds : respond statement = find look)
    (steady : ∀ after, database.Follows after → look after = look database)
    (opens : ∀ after, database.Follows after → openTarget statement after = (.ok (), after))
    (named : ∀ schema, Database.pragmaSchema? statement = some schema → (database.schema? schema).isSome)
    (writable : '\x00' ∉ statement.text.toList) (admits : database.Admits [statement.text]) :
    ∃ after, answer statement database = (database.reading >>= fun _ => look database, after) ∧
      database.Follows after := by
  apply answer_quiet looksUp _ opens named writable admits
  intro after follows
  rw [responds]
  exact Prod.ext (steady after follows) rfl

theorem regular_of_answer {statement : Statement α} {result : Except Fault α} {after : Database}
    (lookup : statement.purpose = .lookup) (regular : database.Regular)
    (answered : answer statement database = (result, after)) : after.Regular := by
  have kept := keeps_lookup Database.Regular.lasting.toSteady lookup database regular
  rwa [answered] at kept

theorem sees_of_answer {statement : Statement α} {result : Except Fault α} {after : Database}
    (lookup : statement.purpose = .lookup) (regular : database.Regular)
    (answered : answer statement database = (result, after)) : database.Sees after := by
  have kept := keeps_lookup database.steady_follows lookup database (.refl database)
  rw [answered] at kept
  exact ⟨kept, regular_of_answer lookup regular answered⟩

-- Whatever is answered has been found by the response to the statement.
theorem answer_responds {statement : Statement α} {value : α} {after : Database}
    (done : answer statement database = (.ok value, after)) :
    ∃ ready, database.Follows ready ∧ respond statement ready = (.ok value, after) := by
  have steady := database.steady_follows
  have step {β : Type} {change : Change β} (kept : Keeps database.Follows change) {before later : Database}
      {found : β} (follows : database.Follows before) (ran : change before = (.ok found, later)) :
      database.Follows later := by simpa [ran] using kept before follows
  unfold answer at done
  split at done
  · cases done
  · obtain ⟨_, resumed, resuming, done⟩ := bind_eq_ok done
    have first := step (keeps_resume steady _) (.refl database) resuming
    obtain ⟨_, used, describing, done⟩ := bind_eq_ok done
    have second := step (keeps_option_forM fun schema _ =>
      keeps_bind (keeps_find _) fun _ => keeps_use steady schema) first describing
    extract_lets rest at done
    have last : ∀ read, database.Follows read → rest () read = (.ok value, after) →
        ∃ ready, database.Follows ready ∧ respond statement ready = (.ok value, after) := by
      intro read follows done
      obtain ⟨_, ready, using_, done⟩ := bind_eq_ok done
      have third := step (keeps_option_forM fun schema _ => keeps_use steady schema) follows using_
      obtain ⟨_, opened, opening, done⟩ := bind_eq_ok done
      exact ⟨opened, step (keeps_openTarget steady statement) third opening, done⟩
    split at done
    · obtain ⟨_, read, reading, done⟩ := bind_eq_ok done
      exact last read (step (keeps_readCatalog steady) second reading) done
    · exact last used second done

section

variable {schema table : String} {home : Schema}

theorem answer_databaseList (regular : database.Regular) :
    answer .databaseList database = (.ok (database.schemas.map Schema.name), database) := by
  have unknown : ["PRAGMA database_list"] ∉ database.sound := by
    have begins : "PRAGMA ".toList <+: "PRAGMA database_list".toList := by decide
    exact regular.unknown begins (by decide)
  have resumed : resume ["PRAGMA database_list"] database = (.ok (), database) := by
    unfold resume
    rw [bind_get, if_neg (by simpa using unknown)]
    rfl
  have text : Statement.databaseList.text = "PRAGMA database_list" := rfl
  have written : ¬"PRAGMA database_list".toList.contains '\x00' = true := by decide
  unfold answer
  rw [text, if_neg written]
  exact bind_ok _ resumed

theorem writable_schema (regular : database.Regular) (found : database.schema? schema = some home) :
    Writable schema :=
  writable_congr (Database.sameName_of_schema? found)
    (regular.schemas home (List.mem_of_find?_eq_some found))

theorem writable_table (regular : database.Regular) (found : database.schema? schema = some home)
    {held : Table} (there : home.find? table = some held) : Writable table := by
  have located : database.locate schema table = .ok (home, held) := by
    rw [Database.locate, Database.schemaOr_eq_ok.2 found]
    simp only [bind, Except.bind, there]
    rfl
  exact (regular.of_locate located).2

-- A statement that calls for what is known of a table.
theorem writable_call {name : String} (plain : Writable name) (first : Writable schema)
    (second : Writable table) :
    Writable (Statement.pragma schema name ++ Text.identifier table ++ ")") := by
  have words : Writable "PRAGMA " ∧ Writable "." ∧ Writable ")" := by
    unfold Writable
    decide
  obtain ⟨pragma, dot, close⟩ := words
  exact writable_append (writable_append (writable_append (writable_append
    (writable_append pragma (writable_identifier first)) dot) plain) (writable_identifier second)) close

theorem answer_tableExists (regular : database.Regular) (found : database.schema? schema = some home)
    (table : String) :
    ∃ after, answer (.tableExists schema table) database =
        (database.access home.name >>= fun _ => .ok (Table.find? home.tables table).isSome, after) ∧
      database.Follows after := by
  have writable : Writable (Statement.tableExists schema table).text := by
    have words : Writable "SELECT 1 FROM " ∧ Writable ".sqlite_master" ∧
        Writable " WHERE type IN ('table', 'view') AND name = ? COLLATE NOCASE" := by
      unfold Writable
      decide
    exact writable_append (writable_append words.1 (writable_append
      (writable_identifier (writable_schema regular found)) words.2.1)) words.2.2
  have admits : database.Admits [(Statement.tableExists schema table).text] := by
    have begins : "SELECT 1 FROM ".toList <+: (Statement.tableExists schema table).text.toList :=
      prefix_append (prefix_append List.prefix_rfl _) _
    exact .inr (regular.unknown begins (by decide))
  obtain ⟨after, answered, follows⟩ := answer_lookup (.tableExists schema table)
    (fun database => database.tableExists schema table) rfl rfl
    (fun after follows => by
      rw [Database.tableExists_eq ((follows.schema? schema).trans found), follows.touch,
        Database.tableExists_eq found])
    (fun _ _ => rfl) (by simp [Database.pragmaSchema?]) writable admits
  refine ⟨after, ?_, follows⟩
  rw [answered, Database.tableExists_eq found]
  unfold Database.access
  cases database.reading <;> rfl

theorem answer_tableSql (regular : database.Regular) (found : database.schema? schema = some home)
    (table : String) :
    ∃ after, answer (.tableSql schema table) database = (database.access home.name >>= fun _ =>
        .ok (((Table.find? home.tables table).filter fun held => !held.isView).map Table.sql), after) ∧
      database.Follows after := by
  have admits : database.Admits [(Statement.tableSql schema table).text] := by
    have begins : "SELECT sql FROM ".toList <+: (Statement.tableSql schema table).text.toList :=
      prefix_append (prefix_append List.prefix_rfl _) _
    exact .inr (regular.unknown begins (by decide))
  obtain ⟨after, answered, follows⟩ := answer_lookup (.tableSql schema table)
    (fun database => database.tableSql schema table) rfl rfl
    (fun after follows => by
      rw [Database.tableSql_eq ((follows.schema? schema).trans found), follows.touch,
        Database.tableSql_eq found])
    (fun _ _ => rfl) (by simp [Database.pragmaSchema?])
    (writable_tableSql (writable_schema regular found) table) admits
  refine ⟨after, ?_, follows⟩
  rw [answered, Database.tableSql_eq found]
  unfold Database.access
  cases database.reading <;> rfl

-- What is listed of the columns of a table that has not to be opened.
theorem answer_columns (regular : database.Regular) (found : database.schema? schema = some home)
    (ready : database.access home.name = .ok ()) (named : Writable table) {columns : List ColumnInfo}
    (opens : ∀ after, database.Follows after → openTarget (.tableInfo schema table) after = (.ok (), after))
    (listed : ∀ after, database.Follows after → after.tableInfo schema table = .ok columns) :
    ∃ after, answer (.tableInfo schema table) database = (.ok columns, after) ∧ database.Follows after := by
  have writable : Writable (Statement.tableInfo schema table).text :=
    writable_call (by unfold Writable; decide) (writable_schema regular found) named
  have admits : database.Admits [(Statement.tableInfo schema table).text] := by
    have begins : "PRAGMA ".toList <+: (Statement.tableInfo schema table).text.toList :=
      prefix_append (prefix_append (prefix_append (prefix_append (prefix_append List.prefix_rfl _) _) _) _) _
    exact .inr (regular.unknown begins (by decide))
  have first := listed database (.refl database)
  obtain ⟨after, answered, follows⟩ := answer_lookup (.tableInfo schema table)
    (fun database => database.tableInfo schema table) rfl rfl
    (fun after follows => (listed after follows).trans first.symm) opens
    (by simp [Database.pragmaSchema?, found]) writable admits
  refine ⟨after, ?_, follows⟩
  rw [answered, (Database.access_eq_ok.1 ready).1, first]
  rfl

-- A table with rows has not to be opened.
theorem openTarget_ordinary {statement : Statement α}
    (target : Database.target? statement = some (schema, table)) (regular : database.Regular)
    (found : database.schema? schema = some home) {held : Table} (there : home.find? table = some held)
    {declaration : TableDeclaration} {rows : List StoredRow} (body : held.body = .ordinary declaration rows)
    {after : Database} (follows : database.Follows after) : openTarget statement after = (.ok (), after) := by
  have located : after.locate schema table = .ok (home, held) := by
    rw [follows.locate, Database.locate, Database.schemaOr_eq_ok.2 found]
    simp only [bind, Except.bind, there]
    rfl
  have underlying : after.underlying after.tableFuel home held = (home, held) := by
    unfold Database.tableFuel Database.underlying
    rw [body]
  have unlisted : ¬after.unopened.contains (home.name, held.name) = true := by
    rw [List.contains_iff_mem]
    exact fun member => regular.not_unopened found there body (follows.unopened member)
  unfold openTarget
  rw [target]
  change (get >>= _ : Change Unit) after = _
  rw [bind_get, located]
  change openTable home held after = _
  rw [openTable, bind_get, underlying]
  dsimp only
  rw [if_neg unlisted]
  rfl

theorem answer_tableInfo_missing (regular : database.Regular) (found : database.schema? schema = some home)
    (ready : database.access home.name = .ok ()) (missing : home.find? table = none)
    (named : Writable table) :
    ∃ after, answer (.tableInfo schema table) database = (.ok [], after) ∧ database.Follows after := by
  have untouched := (Database.access_eq_ok.1 ready).2
  refine answer_columns regular found ready named ?_ ?_
  · intro after follows
    have lost : after.locate schema table = .error (.noSuchTable schema table) := by
      rw [follows.locate, Database.locate, Database.schemaOr_eq_ok.2 found]
      simp only [bind, Except.bind, missing]
      rfl
    change (get >>= _ : Change Unit) after = _
    rw [bind_get, lost]
    rfl
  · intro after follows
    unfold Database.tableInfo Database.described
    rw [Database.schemaOr_eq_ok.2 ((follows.schema? schema).trans found)]
    simp only [bind, Except.bind, missing, pure, Except.pure, follows.touch, untouched]

section

variable (regular : database.Regular) (found : database.schema? schema = some home)
  (ready : database.access home.name = .ok ()) {held : Table} (there : home.find? table = some held)
include regular found ready there

theorem answer_foreignKeyList :
    ∃ after, answer (.foreignKeyList schema table) database = (.ok held.keyColumns, after) ∧
      database.Follows after := by
  obtain ⟨read, untouched⟩ := Database.access_eq_ok.1 ready
  have writable : Writable (Statement.foreignKeyList schema table).text :=
    writable_call (by unfold Writable; decide) (writable_schema regular found)
      (writable_table regular found there)
  have admits : database.Admits [(Statement.foreignKeyList schema table).text] := by
    have begins : "PRAGMA ".toList <+: (Statement.foreignKeyList schema table).text.toList :=
      prefix_append (prefix_append (prefix_append (prefix_append (prefix_append List.prefix_rfl _) _) _) _) _
    exact .inr (regular.unknown begins (by decide))
  obtain ⟨after, answered, follows⟩ := answer_lookup (.foreignKeyList schema table)
    (fun database => database.foreignKeyList schema table) rfl rfl
    (fun after follows => by
      rw [Database.foreignKeyList_eq ((follows.schema? schema).trans found) there
        ((follows.touch _).trans untouched), Database.foreignKeyList_eq found there untouched])
    (fun _ _ => rfl) (by simp [Database.pragmaSchema?, found]) writable admits
  refine ⟨after, ?_, follows⟩
  rw [answered, read, Database.foreignKeyList_eq found there untouched]
  rfl

theorem answer_tableInfo {declaration : TableDeclaration} {rows : List StoredRow}
    (body : held.body = .ordinary declaration rows) :
    ∃ after, answer (.tableInfo schema table) database = (.ok declaration.info, after) ∧
      database.Follows after := by
  have untouched := (Database.access_eq_ok.1 ready).2
  refine answer_columns regular found ready (writable_table regular found there) ?_ ?_
  · exact fun _ => openTarget_ordinary rfl regular found there body
  · exact fun after follows => Database.tableInfo_eq ((follows.schema? schema).trans found) there body
      ((follows.touch _).trans untouched)

end

end

end Change

end TextQuery.Engine
