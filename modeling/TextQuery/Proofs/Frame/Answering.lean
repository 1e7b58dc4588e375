import TextQuery.Proofs.Engine.Agreeing
import TextQuery.Proofs.Frame.Opening
import TextQuery.Proofs.Session.Indexes

set_option autoImplicit false

namespace TextQuery

open Engine Engine.Change Text

namespace Engine

namespace Change

variable {α β : Type} {P : Database → Prop}

def Told (P : Database → Prop) (change : Change α) : Prop :=
  ∃ result, ∀ database, P database → (change database).1 = result ∧ P (change database).2

theorem told_pure (value : α) : Told P (pure value : Change α) := ⟨.ok value, fun _ holds => ⟨rfl, holds⟩⟩

theorem told_throw (fault : Fault) : Told P (throw fault : Change α) :=
  ⟨.error fault, fun _ holds => ⟨rfl, holds⟩⟩

theorem told_of_keeps {change : Change α} (kept : Keeps P change) {result : Except Fault α}
    (same : ∀ database, P database → (change database).1 = result) : Told P change :=
  ⟨result, fun database holds => ⟨same database holds, kept database holds⟩⟩

theorem told_find {look : Database → Except Fault α} {result : Except Fault α}
    (same : ∀ database, P database → look database = result) : Told P (find look) :=
  told_of_keeps (keeps_find look) same

theorem told_bind {first : Change α} {next : α → Change β} (told : Told P first)
    (toldNext : ∀ value, Told P (next value)) : Told P (first >>= next) := by
  obtain ⟨answer, same⟩ := told
  cases answer with
  | error fault =>
    refine ⟨.error fault, fun database holds => ?_⟩
    obtain ⟨failed, after⟩ := same database holds
    rw [bind_error next (Prod.ext failed rfl)]
    exact ⟨rfl, after⟩
  | ok value =>
    obtain ⟨result, rest⟩ := toldNext value
    refine ⟨result, fun database holds => ?_⟩
    obtain ⟨done, after⟩ := same database holds
    rw [bind_ok next (Prod.ext done rfl)]
    exact rest _ after

theorem told_option_forM {entry : Option α} {body : α → Change PUnit}
    (told : ∀ value, entry = some value → Told P (body value)) : Told P (entry.forM body) := by
  cases entry with
  | none => exact told_pure _
  | some value => exact told value rfl

end Change

def Table.parentNames (table : Table) : List String :=
  match table.body with
  | .ordinary declaration _ => declaration.references.map Reference.table
  | _ => []

theorem Table.mem_parentNames {table : Table} {column : KeyColumn} (member : column ∈ table.keyColumns) :
    column.table ∈ table.parentNames := by
  unfold keyColumns at member
  unfold parentNames
  cases body : table.body with
  | ordinary declaration rows =>
    rw [body] at member
    obtain ⟨⟨id, reference⟩, numbered, listed⟩ := List.mem_flatMap.1 member
    obtain ⟨place, -, rfl⟩ := List.mem_map.1 listed
    have known : reference ∈ declaration.references := List.mem_reverse.1 (List.of_mem_zip numbered).2
    exact List.mem_map_of_mem known
  | fullText | splitter | view | catalog =>
    rw [body] at member
    cases member

theorem mapM_congr {ε α β : Type} {f g : α → Except ε β} {entries : List α}
    (same : ∀ entry ∈ entries, f entry = g entry) : entries.mapM f = entries.mapM g := by
  induction entries with
  | nil => rfl
  | cons entry entries ih =>
    rw [List.mapM_cons, List.mapM_cons, same entry (by simp), ih fun other member => same other (by simp [member])]

-- The keys of a table are checked against the tables that they refer to.
theorem Table.violations_congr {table : Table} {find other : String → Option Table}
    (same : ∀ name ∈ table.parentNames, find name = other name) :
    table.violations find = table.violations other := by
  unfold violations
  unfold parentNames at same
  split
  · rename_i declaration rows body
    rw [body] at same
    have parents : Table.parents find table.name declaration = Table.parents other table.name declaration := by
      unfold Table.parents
      refine mapM_congr ?_
      rintro ⟨id, reference⟩ numbered
      have known : reference ∈ declaration.references := List.mem_reverse.1 (List.of_mem_zip numbered).2
      have called := same reference.table (List.mem_map_of_mem known)
      dsimp only
      unfold Reference.parent
      rw [called]
    rw [parents]
  · rfl

namespace Database

/-- A later state of a database: in its temporary schema there may be more tables, none of them under a name
for which anything looks. -/
structure Resembles (base : Database) (veiled : String → Prop) (database : Database) : Prop where
  grown : ∃ made, base.Grows made database ∧ ∀ name, ¬veiled name → base.temp.Knows made name
  condition : database.condition = base.condition
  reading : database.reading = base.reading
  opens : ∀ entry, base.Indexed entry → database.opens entry = base.opens entry
  regular : database.Regular

/-- Names of helper tables that no table of the temporary schema refers to. -/
structure Veils (base : Database) (veiled : String → Prop) : Prop where
  congr : ∀ {name other}, sameName name other = true → veiled name → veiled other
  isPrivate : ∀ name, veiled name → IsPrivate name
  sources : ∀ table ∈ base.temp.tables, ∀ name ∈ table.sources, ¬veiled name
  parents : ∀ table ∈ base.temp.tables, ∀ name ∈ table.parentNames, ¬veiled name

/-- Whether a lookup may be about a table: not about a temporary one of a name that is left out. -/
def Reveals (base : Database) (veiled : String → Prop) (schema table : String) : Prop :=
  ∀ home, base.schema? schema = some home → home = base.temp → ¬veiled table

variable {base database : Database} {veiled : String → Prop}

theorem steady_resembles (base : Database) (veiled : String → Prop) : Steady (base.Resembles veiled) := by
  refine .of_recalls Regular.lasting.toSteady Resembles.regular ?_
  intro before after resembles recalls regular
  obtain ⟨made, grows, knows⟩ := resembles.grown
  refine ⟨⟨made, ⟨?_, ?_, ?_⟩, knows⟩, recalls.condition.trans resembles.condition,
    recalls.reading.trans resembles.reading, ?_, regular⟩
  · rw [recalls.main, grows.main]
  · rw [recalls.temp, grows.temp]
  · rw [recalls.attached, grows.attached]
  · exact fun entry indexed => (recalls.opens entry).trans (resembles.opens entry indexed)

theorem Resembles.touch (resembles : base.Resembles veiled database) (schema : String) :
    database.touch schema = base.touch schema := by
  obtain ⟨made, grows, -⟩ := resembles.grown
  unfold Database.touch
  rw [resembles.condition, (Prod.mk.inj grows.main).1]

section

variable (regular : base.Regular)
include regular

theorem Resembles.schema? (resembles : base.Resembles veiled database) (name : String) :
    (base.schema? name = none ∧ database.schema? name = none) ∨
      ∃ home later, base.schema? name = some home ∧ database.schema? name = some later ∧
        later.name = home.name ∧
        ∀ table, (home = base.temp → ¬veiled table) →
          Table.find? later.tables table = Table.find? home.tables table ∧
            later.find? table = home.find? table := by
  obtain ⟨made, grows, knows⟩ := resembles.grown
  have related := grows.schema? regular name
  generalize base.schema? name = one at related
  generalize database.schema? name = other at related
  cases related with
  | none => exact .inl ⟨rfl, rfl⟩
  | @some home later stands =>
    refine .inr ⟨home, later, rfl, rfl, stands.name, fun table shown => ?_⟩
    have known (same : home = base.temp) : home.Knows made table := same ▸ knows table (shown same)
    exact ⟨stands.find?_tables known, stands.find? known⟩

theorem Resembles.tableExists (resembles : base.Resembles veiled database) {schema table : String}
    (shown : base.Reveals veiled schema table) :
    database.tableExists schema table = base.tableExists schema table := by
  unfold Database.tableExists Database.listed Database.schemaOr
  simp only [bind, Except.bind]
  rcases resembles.schema? regular schema with ⟨missing, missing'⟩ | ⟨home, later, found, looked, named, same⟩
  · simp only [missing, missing']
  · simp only [found, looked, resembles.touch, named]
    cases base.touch home.name with
    | error fault => rfl
    | ok _ =>
      simp only [pure, Except.pure]
      rw [(same table (shown home found)).1]

theorem Resembles.foreignKeyList (resembles : base.Resembles veiled database) {schema table : String}
    (shown : base.Reveals veiled schema table) :
    database.foreignKeyList schema table = base.foreignKeyList schema table := by
  unfold Database.foreignKeyList Database.described Database.schemaOr
  simp only [bind, Except.bind]
  rcases resembles.schema? regular schema with ⟨missing, missing'⟩ | ⟨home, later, found, looked, named, same⟩
  · simp only [missing, missing']
  · simp only [found, looked, resembles.touch, named]
    rw [(same table (shown home found)).2]

theorem Resembles.foreignKeyCheck (veils : base.Veils veiled) (resembles : base.Resembles veiled database)
    {schema table : String} (shown : base.Reveals veiled schema table) :
    database.foreignKeyCheck schema (some table) = base.foreignKeyCheck schema (some table) := by
  unfold Database.foreignKeyCheck Database.described Database.schemaOr
  simp only [bind, Except.bind]
  rcases resembles.schema? regular schema with ⟨missing, missing'⟩ | ⟨home, later, found, looked, named, same⟩
  · simp only [missing, missing']
  · simp only [found, looked, resembles.touch, named]
    rw [(same table (shown home found)).2]
    cases there : home.find? table with
    | none => rfl
    | some held =>
      have checked : held.violations later.find? = held.violations home.find? := by
        apply Table.violations_congr
        intro name parent
        refine (same name fun temporary => ?_).2
        rcases Schema.find?_there there with inside | rfl
        · exact veils.parents held (temporary ▸ inside) name parent
        · cases parent
      simp only [pure, Except.pure, List.mapM_cons, List.mapM_nil, checked]

end

theorem Veils.covers (veils : base.Veils veiled) {made : List Table}
    (knows : ∀ name, ¬veiled name → base.temp.Knows made name) : base.Covers made :=
  fun table member name source => knows name (veils.sources table member name source)

theorem Veils.knows_there (veils : base.Veils veiled) {made : List Table}
    (knows : ∀ name, ¬veiled name → base.temp.Knows made name) {home : Schema} {held : Table}
    (there : held ∈ home.tables ∨ held = Schema.catalog home.name) (temporary : home = base.temp) :
    base.temp.Knows made held.name := by
  rcases there with inside | rfl
  · intro missing
    rw [Table.find?, List.find?_eq_none] at missing
    exact absurd (sameName_refl _) (missing held (temporary ▸ inside))
  · exact knows _ fun veiled => not_isPrivate_catalog _ (veils.isPrivate _ veiled)

section

variable (regular : base.Regular)
include regular

theorem Resembles.tableInfo (veils : base.Veils veiled) (resembles : base.Resembles veiled database)
    {schema table : String} (shown : base.Reveals veiled schema table) :
    database.tableInfo schema table = base.tableInfo schema table := by
  obtain ⟨made, grows, knows⟩ := resembles.grown
  have related := grows.schema? regular schema
  unfold Database.tableInfo Database.described Database.schemaOr
  simp only [bind, Except.bind]
  generalize found : base.schema? schema = one at related
  generalize database.schema? schema = other at related
  cases related with
  | none => rfl
  | @some home later stands =>
    simp only [resembles.touch, stands.name]
    rw [stands.find? fun same => same ▸ knows table (shown home found same)]
    cases looked : home.find? table with
    | none => rfl
    | some held =>
      cases body : held.body with
      | ordinary declaration rows => simp only [body]
      | fullText | splitter | view | catalog =>
        have read := grows.relationOf regular (veils.covers knows) stands (Schema.find?_there looked)
        simp only [body]
        generalize base.relationOf home held = one at read
        generalize database.relationOf later held = other at read
        cases read with
        | ok near => simp only [near.columns]
        | error fault => rfl

-- A full-text table that has not been opened was there before, unless its name is new.
theorem Resembles.indexed (resembles : base.Resembles veiled database) {made : List Table}
    (grows : base.Grows made database) {entry : String × String} (unopened : entry ∈ database.unopened)
    (knows : entry.1 = base.temp.name → base.temp.Knows made entry.2) : base.Indexed entry := by
  obtain ⟨later, listed, table, there, named, called, isFullText⟩ := resembles.regular.opened entry unopened
  have related := grows.schema? regular later.name
  rw [resembles.regular.schema?_eq listed] at related
  generalize base.schema? later.name = one at related
  cases related with
  | @some home _ stands =>
    rcases stands.tables with ⟨-, same⟩ | ⟨rfl, same⟩
    · exact ⟨home, stands.known, table, same ▸ there, stands.name.symm.trans named, called, isFullText⟩
    · refine ⟨base.temp, stands.known, table, ?_, stands.name.symm.trans named, called, isFullText⟩
      rw [same] at there
      rcases List.mem_append.1 there with old | new
      · exact old
      · cases found : Table.find? base.temp.tables entry.2 with
        | none =>
          have none := knows (named.symm.trans stands.name) found
          rw [Table.find?, List.find?_eq_none] at none
          exact absurd (by rw [called, sameName_refl]) (none table new)
        | some other =>
          have inside : other ∈ base.temp.tables := List.mem_of_find?_eq_some found
          have known : later ∈ database.schemas := listed
          have alike : sameName other.name table.name = true := by
            rw [called]
            simpa using List.find?_some found
          have equal : other = table :=
            eq_of_sameName (resembles.regular.distinct later known) (same ▸ List.mem_append_left _ inside)
              (same ▸ List.mem_append_right _ new) alike
          exact equal ▸ inside

theorem Resembles.opens_known (resembles : base.Resembles veiled database) {made : List Table}
    (grows : base.Grows made database) {entry : String × String}
    (knows : entry.1 = base.temp.name → base.temp.Knows made entry.2) :
    database.opens entry = base.opens entry := by
  by_cases indexed : base.Indexed entry
  · exact resembles.opens entry indexed
  · have opened : entry ∉ base.unopened := fun unopened => indexed (regular.opened entry unopened)
    have opened' : entry ∉ database.unopened := fun unopened =>
      indexed (resembles.indexed regular grows unopened knows)
    rw [Database.opens, Database.opens, if_neg (by simpa using opened'), if_neg (by simpa using opened)]

theorem NamesView.opens {name : String × String} (view : base.NamesView name) : base.opens name = .ok () := by
  obtain ⟨entry, listed, isView, rfl⟩ := view
  have opened : named entry ∉ base.unopened := by
    intro unopened
    obtain ⟨home, known, table, there, named, called, isFullText⟩ := regular.opened _ unopened
    obtain ⟨inside, held⟩ := mem_entries.1 listed
    have same : home = entry.1 := eq_of_sameName regular.apart known inside (by rw [named]; exact sameName_refl _)
    subst same
    have equal : table = entry.2 :=
      eq_of_sameName (regular.distinct _ known) there held (by rw [called]; exact sameName_refl _)
    subst equal
    unfold Table.isFullText at isFullText
    unfold Table.isView at isView
    split at isFullText
    · rename_i index body
      rw [body] at isView
      cases isView
    · cases isFullText
  rw [Database.opens, if_neg (by simpa using opened)]

-- A table is opened, or the one that it reads is, with the same outcome as before.
theorem Resembles.opens_underlying (veils : base.Veils veiled) (resembles : base.Resembles veiled database)
    {made : List Table} (grows : base.Grows made database)
    (knows : ∀ name, ¬veiled name → base.temp.Knows made name) {home later : Schema}
    (stands : base.Stands made home later) {held : Table}
    (there : held ∈ home.tables ∨ held = Schema.catalog home.name) :
    database.opens (named (database.underlying database.tableFuel later held)) =
      base.opens (named (base.underlying base.tableFuel home held)) := by
  have apart {inside : Schema} (known : inside ∈ base.schemas) (same : inside.name = base.temp.name) :
      inside = base.temp :=
    eq_of_sameName regular.apart known (by simp [schemas]) (by rw [same]; exact sameName_refl _)
  rcases grows.ends regular (veils.covers knows) stands there with ⟨stands, same, there⟩ | ⟨view, view'⟩
  · have equal : named (database.underlying database.tableFuel later held) =
        named (base.underlying base.tableFuel home held) := Prod.ext stands.name (congrArg Table.name same)
    rw [equal]
    exact resembles.opens_known regular grows fun temporary =>
      veils.knows_there knows there (apart stands.known temporary)
  · rw [resembles.opens_known regular grows, view'.opens regular, view.opens regular]
    obtain ⟨entry, listed, -, same⟩ := view'
    rw [same]
    intro temporary
    obtain ⟨known, there⟩ := mem_entries.1 listed
    exact veils.knows_there knows (.inl there) (apart known temporary)

end

end Database

namespace Change

open Database

theorem openTable_fst (home : Schema) (held : Table) (database : Database) :
    (openTable home held database).1 =
      database.opens (named (database.underlying database.tableFuel home held)) := by
  unfold openTable
  rw [bind_get, Database.opens]
  generalize database.underlying database.tableFuel home held = read
  change ((if database.unopened.contains (named read) then openIndex read.1 read.2.name else pure ()) database).1 = _
  split
  · exact (openIndex_recalls _ _ database).1
  · rfl

-- What is left to do once it is known what a row is read of.
def rowOf (relation : Relation) (rowid : Int) : Change (Option Row) := do
  lift relation.checkNumbered
  if !Affinity.fits rowid then throw .tooLarge
  touch relation.home
  let rows ← lift (relation.rowsOfNumber rowid)
  return rows.head?.map fun row => (relation.columns.map Column.name).zip row.cells

theorem selectRow_eq {database : Database} {schema table : String} {home : Schema} {held : Table}
    {declaration : TableDeclaration} {rows : List StoredRow}
    (located : database.locate schema table = .ok (home, held))
    (body : held.body = .ordinary declaration rows) (rowid : Int) :
    selectRow schema table rowid database =
      rowOf (ordinaryRelation home.name declaration rows) rowid database := by
  have read : database.relationOf home held = .ok (ordinaryRelation home.name declaration rows) := by
    unfold relationOf tableFuel
    simp only [relation, body]
    rfl
  have reads : beginReading home.name held = pure () := by
    unfold beginReading
    rw [if_neg (by simp [Table.isFullText, body])]
  unfold selectRow
  rw [bind_find, located]
  dsimp only
  rw [bind_find, read, reads]
  rfl

variable {α : Type} {base : Database} {veiled : String → Prop}

theorem told_rowOf (relation : Relation) (rowid : Int) :
    Told (base.Resembles veiled) (rowOf relation rowid) := by
  have toldLift {β : Type} (result : Except Fault β) : Told (base.Resembles veiled) (lift result) :=
    ⟨result, fun _ holds => ⟨rfl, holds⟩⟩
  unfold rowOf
  refine told_bind (toldLift _) ?_
  intro _
  extract_lets rest
  have told : ∀ done, Told (base.Resembles veiled) (rest done) := by
    intro _
    refine told_bind (told_find fun database resembles => resembles.touch relation.home) ?_
    intro _
    exact told_bind (toldLift _) fun _ => told_pure _
  split
  · exact told_bind (told_throw _) told
  · exact told ()

variable (regular : base.Regular) (veils : base.Veils veiled)
include regular veils

theorem told_openTarget {statement : Statement α}
    (shown : ∀ schema table, Database.target? statement = some (schema, table) →
      base.Reveals veiled schema table) : Told (base.Resembles veiled) (openTarget statement) := by
  apply told_option_forM
  rintro ⟨schema, table⟩ target
  have shown := shown schema table target
  let result := (base.locate schema table).toOption.elim (.ok ()) fun located =>
    base.opens (named (base.underlying base.tableFuel located.1 located.2))
  refine @told_of_keeps _ _ _ ?_ result ?_
  · refine keeps_bind keeps_get fun database => ?_
    split
    · exact keeps_openTable (steady_resembles base veiled) _ _
    · exact keeps_pure _
  · intro database resembles
    obtain ⟨made, grows, knows⟩ := resembles.grown
    have known (home : Schema) (found : base.schema? schema = some home) (same : home = base.temp) :
        base.temp.Knows made table := knows table (shown home found same)
    have located := grows.locate regular known
    dsimp only [result]
    rw [bind_get]
    generalize base.locate schema table = one at located
    generalize database.locate schema table = other at located
    cases located with
    | error fault => rfl
    | @ok one other related =>
      obtain ⟨stands, same, -, looked⟩ := related
      dsimp only
      rw [openTable_fst, same]
      exact resembles.opens_underlying regular veils grows knows stands (Schema.find?_there looked)

omit veils in
theorem told_described (schema : String) : Told (base.Resembles veiled) (do
    let _ ← find fun database => database.described schema
    use schema) := by
  have kept : Keeps (base.Resembles veiled) (do
      let _ ← find fun database => database.described schema
      use schema) :=
    keeps_bind (keeps_find _) fun _ => keeps_use (steady_resembles base veiled) schema
  refine ⟨(base.described schema).map fun _ => (), fun database resembles => ⟨?_, kept database resembles⟩⟩
  rw [bind_find]
  unfold Database.described Database.schemaOr
  rcases resembles.schema? regular schema with ⟨missing, missing'⟩ | ⟨home, later, found, looked, -⟩
  · simp only [missing, missing']
    rfl
  · simp only [found, looked]
    rfl

theorem told_answer {statement : Statement α} {beginning : String}
    (begins : beginning.toList <+: statement.text.toList)
    (other : ¬(beginning.toList <+: "SELECT rowid FROM ".toList ∨
      "SELECT rowid FROM ".toList <+: beginning.toList))
    (shown : ∀ schema table, Database.target? statement = some (schema, table) →
      base.Reveals veiled schema table)
    (responds : Told (base.Resembles veiled) (respond statement)) :
    Told (base.Resembles veiled) (answer statement) := by
  have steady := steady_resembles base veiled
  have toldUse (schema : String) : Told (base.Resembles veiled) (use schema) :=
    told_of_keeps (keeps_use steady schema) fun _ _ => rfl
  have toldResume : Told (base.Resembles veiled) (resume [statement.text]) := by
    refine ⟨.ok (), fun database resembles => ⟨?_, keeps_resume steady _ database resembles⟩⟩
    unfold resume
    rw [bind_get, if_neg (by simpa using resembles.regular.unknown begins other)]
    rfl
  have toldRead : Told (base.Resembles veiled) readCatalog :=
    told_of_keeps (keeps_readCatalog steady) fun database resembles =>
      (readCatalog_answer database).trans resembles.reading
  unfold answer
  extract_lets last rest
  have toldLast : ∀ done, Told (base.Resembles veiled) (last done) := by
    intro _
    refine told_bind (told_option_forM fun schema _ => toldUse schema) ?_
    intro _
    exact told_bind (told_openTarget regular veils shown) fun _ => responds
  have toldRest : ∀ done, Told (base.Resembles veiled) (rest done) := by
    intro _
    refine told_bind toldResume ?_
    intro _
    refine told_bind (told_option_forM fun schema _ => told_described regular schema) ?_
    intro _
    split
    · exact told_bind toldRead toldLast
    · exact toldLast ()
  split
  · exact told_bind (told_throw _) toldRest
  · exact toldRest ()

theorem told_databaseList : Told (base.Resembles veiled) (answer .databaseList) := by
  have begins : "PRAGMA ".toList <+: (Statement.databaseList).text.toList := by decide
  refine told_answer regular veils begins (by decide) (by simp [Database.target?]) ?_
  refine ⟨.ok (base.schemas.map Schema.name), fun database resembles => ⟨?_, resembles⟩⟩
  obtain ⟨made, grows, -⟩ := resembles.grown
  have names : database.schemas.map Schema.name = base.schemas.map Schema.name := by
    rw [← List.forall₂_eq_eq_eq, List.forall₂_map_left_iff, List.forall₂_map_right_iff]
    exact (grows.stands regular).flip.imp fun _ _ stands => stands.name
  change Except.ok (database.schemas.map Schema.name) = _
  rw [names]

variable {schema table : String} (shown : base.Reveals veiled schema table)
include shown

theorem told_tableExists : Told (base.Resembles veiled) (answer (.tableExists schema table)) := by
  have begins : "SELECT 1 FROM ".toList <+: (Statement.tableExists schema table).text.toList :=
    prefix_append (prefix_append List.prefix_rfl _) _
  refine told_answer regular veils begins (by decide) (by simp [Database.target?]) ?_
  exact told_find fun database resembles => resembles.tableExists regular shown

theorem told_foreignKeyList : Told (base.Resembles veiled) (answer (.foreignKeyList schema table)) := by
  have begins : "PRAGMA ".toList <+: (Statement.foreignKeyList schema table).text.toList :=
    prefix_append (prefix_append (prefix_append (prefix_append (prefix_append List.prefix_rfl _) _) _) _) _
  refine told_answer regular veils begins (by decide) (by simp [Database.target?]) ?_
  exact told_find fun database resembles => resembles.foreignKeyList regular shown

theorem told_tableInfo : Told (base.Resembles veiled) (answer (.tableInfo schema table)) := by
  have begins : "PRAGMA ".toList <+: (Statement.tableInfo schema table).text.toList :=
    prefix_append (prefix_append (prefix_append (prefix_append (prefix_append List.prefix_rfl _) _) _) _) _
  refine told_answer regular veils begins (by decide) ?_ ?_
  · rintro _ _ target
    cases target
    exact shown
  · exact told_find fun database resembles => resembles.tableInfo regular veils shown

theorem told_foreignKeyCheck :
    Told (base.Resembles veiled) (answer (.foreignKeyCheck schema (some table))) := by
  have begins : "PRAGMA ".toList <+: (Statement.foreignKeyCheck schema (some table)).text.toList :=
    prefix_append (prefix_append (prefix_append (prefix_append (prefix_append List.prefix_rfl _) _) _) _) _
  refine told_answer regular veils begins (by decide) (by simp [Database.target?]) ?_
  exact told_find fun database resembles => resembles.foreignKeyCheck regular veils shown

theorem told_selectRow {home : Schema} {held : Table} {declaration : TableDeclaration}
    {rows : List StoredRow} (located : base.locate schema table = .ok (home, held))
    (body : held.body = .ordinary declaration rows) (rowid : Int) :
    Told (base.Resembles veiled) (answer (.selectRow schema table rowid)) := by
  have begins : "SELECT * FROM ".toList <+: (Statement.selectRow schema table rowid).text.toList :=
    prefix_append (prefix_append (prefix_append (prefix_append List.prefix_rfl _) _) _) _
  refine told_answer regular veils begins (by decide) ?_ ?_
  · rintro _ _ target
    cases target
    exact shown
  obtain ⟨result, same⟩ := @told_rowOf base veiled (ordinaryRelation home.name declaration rows) rowid
  refine ⟨result, fun database resembles => ?_⟩
  obtain ⟨made, grows, knows⟩ := resembles.grown
  have known (home : Schema) (found : base.schema? schema = some home) (same : home = base.temp) :
      base.temp.Knows made table := knows table (shown home found same)
  have located' := grows.locate regular known
  rw [located] at located'
  generalize looked : database.locate schema table = other at located'
  cases located' with
  | @ok _ other related =>
    obtain ⟨later, held'⟩ := other
    obtain ⟨stands, rfl, -, -⟩ := related
    have equal : respond (.selectRow schema table rowid) database =
        rowOf (ordinaryRelation home.name declaration rows) rowid database := by
      rw [← stands.name]
      exact selectRow_eq looked body rowid
    rw [equal]
    exact same database resembles

end Change

end Engine

end TextQuery
