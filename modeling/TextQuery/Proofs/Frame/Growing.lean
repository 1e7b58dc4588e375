import Mathlib.Data.List.Forall2
import Mathlib.Data.List.Perm.Subperm
import TextQuery.Proofs.Session.Regular

set_option autoImplicit false

namespace TextQuery.Engine

open Text

/-- Two attempts fail with the same fault, or come to related values. -/
inductive Alike {ε α β : Type} (R : α → β → Prop) : Except ε α → Except ε β → Prop
  | ok {a : α} {b : β} (related : R a b) : Alike R (.ok a) (.ok b)
  | error (fault : ε) : Alike R (.error fault) (.error fault)

theorem Alike.bind {ε α β γ δ : Type} {R : α → β → Prop} {S : γ → δ → Prop} {one : Except ε α}
    {other : Except ε β} {next : α → Except ε γ} {further : β → Except ε δ} (alike : Alike R one other)
    (alikeNext : ∀ a b, R a b → Alike S (next a) (further b)) :
    Alike S (one >>= next) (other >>= further) := by
  cases alike with
  | ok related => exact alikeNext _ _ related
  | error fault => exact .error fault

def isCatalogColumn (name : String) : Bool := (Column.find? Database.catalogColumns name).isSome

theorem isCatalogColumn_congr {a b : String} (same : sameName a b = true) :
    isCatalogColumn a = isCatalogColumn b := by
  unfold isCatalogColumn Column.find?
  congr 2
  funext column
  exact sameName_congr same column.name

-- Rows that hold nothing but what the list of tables says.
def Bland (columns : List Column) (rows : List StoredRow) : Prop :=
  ∀ row ∈ rows, ∀ name, isCatalogColumn name = false → Column.cell columns row name = .null

def NearRows (columns : List Column) (one other : Except Fault (List StoredRow)) : Prop :=
  other = one ∨ ∃ before after, one = .ok before ∧ other = .ok after ∧
    Bland columns before ∧ Bland columns after

/-- Of two relations, that they differ at most in what the list of tables says. -/
structure Relation.Near (one other : Relation) : Prop where
  columns : other.columns = one.columns
  numbering : other.numbering = one.numbering
  rows : NearRows one.columns one.rows other.rows

theorem Alike.nearRows {columns : List Column} {one other : Except Fault Relation}
    {rows : Relation → Except Fault (List StoredRow)} (alike : Alike Relation.Near one other)
    (near : ∀ {one other : Relation}, one.Near other → NearRows columns (rows one) (rows other)) :
    NearRows columns (one >>= rows) (other >>= rows) := by
  cases alike with
  | ok related => exact near related
  | error fault => exact .inl rfl

theorem Column.cell_cases (columns : List Column) (row : StoredRow) (name : String) :
    Column.cell columns row name = .null ∨ ∃ entry ∈ columns.zip row.cells,
      sameName entry.1.name name = true ∧ Column.cell columns row name = entry.2 := by
  unfold Column.cell
  cases found : (columns.zip row.cells).find? fun entry => sameName entry.1.name name with
  | none => exact .inl rfl
  | some entry =>
    exact .inr ⟨entry, List.mem_of_find?_eq_some found, by simpa using List.find?_some found, rfl⟩

theorem bland_catalog (rows : List StoredRow) : Bland Database.catalogColumns rows := by
  intro row _ name other
  rcases Column.cell_cases Database.catalogColumns row name with null | ⟨entry, member, same, -⟩
  · exact null
  · have column : entry.1 ∈ Database.catalogColumns := (List.of_mem_zip member).1
    have missing := List.find?_eq_none.1 (Option.not_isSome_iff_eq_none.1 (Bool.eq_false_iff.1 other))
    exact absurd same (missing entry.1 column)

-- Versions come under a name that no list of tables has.
theorem Relation.Near.version {one other : Relation} (near : one.Near other) :
    Schema.versionOf other = Schema.versionOf one := by
  unfold Schema.versionOf Relation.column Relation.cell
  rw [near.columns]
  cases key : Column.find? one.columns "k" with
  | none => rfl
  | some column =>
    cases Column.find? one.columns "v" with
    | none => rfl
    | some value =>
      rcases near.rows with same | ⟨before, after, rows, rows', bland, bland'⟩
      · rw [same]
      · have other : isCatalogColumn column.name = false := by
          rw [isCatalogColumn_congr (by simpa using List.find?_some key)]
          decide
        have unread {step : Int → StoredRow → Int} {rows : List StoredRow}
            (same : ∀ version, ∀ row ∈ rows, step version row = version) : rows.foldl step 0 = 0 := by
          induction rows with
          | nil => rfl
          | cons row rows ih =>
            rw [List.foldl_cons, same 0 row (by simp)]
            exact ih fun version row member => same version row (by simp [member])
        simp only [bind, Except.bind, rows, rows', pure, Except.pure]
        rw [unread, unread]
        · intro version row member
          rw [bland row member column.name other]
        · intro version row member
          rw [bland' row member column.name other]

namespace FullText

variable {index : FullText} {one other : Relation}

theorem numbering_near (near : one.Near other) (key : String) : numbering other key = numbering one key := by
  unfold numbering Relation.cell
  rw [near.columns, near.numbering]

-- Columns of contents that are numbered have no names of the list of tables.
theorem not_isCatalogColumn_contentName (position : Nat) :
    isCatalogColumn ("c" ++ toString position) = false := by
  unfold isCatalogColumn Column.find?
  rw [Option.isSome_eq_false_iff, Option.isNone_iff_eq_none, List.find?_eq_none]
  intro column member same
  have first : ∀ column ∈ Database.catalogColumns, (folded column.name).head? ≠ some 'c' := by decide
  rw [sameName_iff_folded, folded_contentName] at same
  exact first column member (by rw [same]; rfl)

-- The columns of the contents that stand for columns of another name than those of the list of tables.
theorem forall₂_sources {source : Relation} {names : List String}
    (found : (index.sourceNames.mapM fun name =>
      match Column.find? source.columns name with
      | some column => Except.ok column.name
      | none => Except.error (Fault.noSuchColumn ("T." ++ name))) = .ok names) :
    List.Forall₂ (fun column name => isCatalogColumn column = false → isCatalogColumn name = false)
      index.columns names := by
  have each : List.Forall₂ (fun column name => sameName name column = true) index.sourceNames names := by
    refine (forall₂_of_mapM found).imp ?_
    intro column name found
    cases looked : Column.find? source.columns column with
    | none =>
      rw [looked] at found
      cases found
    | some held =>
      rw [looked] at found
      cases found
      simpa using List.find?_some looked
  unfold sourceNames at each
  split at each
  · have numbered : ∀ source ∈ index.contentNames, isCatalogColumn source = false := by
      intro source member
      obtain ⟨position, -, rfl⟩ := List.mem_map.1 member
      exact not_isCatalogColumn_contentName position
    have all : List.Forall₂ (fun name source => isCatalogColumn name = false ∧ sameName name source = true)
        names index.contentNames := by
      refine List.Forall₂.flip (((List.forall₂_and_left _ _).2 ⟨numbered, each⟩).imp ?_)
      rintro source name ⟨other, same⟩
      exact ⟨(isCatalogColumn_congr same).trans other, same⟩
    refine List.forall₂_iff_zip.2 ⟨?_, ?_⟩
    · rw [← each.length_eq, contentNames, List.length_map, List.length_range]
    · intro column name member _
      exact ((List.forall₂_and_left _ _).1 all).1 name (List.of_mem_zip member).2
  · refine each.imp fun column name same other => ?_
    rwa [isCatalogColumn_congr same]

theorem bland_rows {source : Relation} {names : List String} {rows : List StoredRow}
    (known : List.Forall₂ (fun column name => isCatalogColumn column = false → isCatalogColumn name = false)
      index.columns names) (bland : Bland source.columns rows) (number : StoredRow → Option Int) :
    Bland (plainColumns index.columns) (rows.filterMap fun row =>
      (number row).map fun rowid => ⟨rowid, names.map (source.cell row)⟩) := by
  intro row member column named
  obtain ⟨before, held, made⟩ := List.mem_filterMap.1 member
  obtain ⟨rowid, -, rfl⟩ := Option.map_eq_some_iff.1 made
  have nulls : List.Forall₂ (fun (column : Column) cell => isCatalogColumn column.name = false → cell = .null)
      (plainColumns index.columns) (names.map (source.cell before)) := by
    rw [plainColumns, List.forall₂_map_left_iff, List.forall₂_map_right_iff]
    refine known.imp ?_
    intro column name other unlisted
    exact bland before held name (other unlisted)
  rcases Column.cell_cases (plainColumns index.columns) ⟨rowid, names.map (source.cell before)⟩ column with
    null | ⟨entry, inside, same, cell⟩
  · exact null
  · rw [cell]
    apply List.forall₂_zip nulls inside
    rwa [isCatalogColumn_congr same]

theorem nearRows_rowsOf (near : one.Near other) :
    NearRows (plainColumns index.columns) (index.rowsOf one) (index.rowsOf other) := by
  unfold rowsOf
  rw [numbering_near near, near.columns]
  cases numbering one (index.contentsKey.getD rowidName) with
  | error fault => exact .inl rfl
  | ok number =>
    simp only [bind, Except.bind]
    split
    · exact .inl rfl
    · rename_i names found
      rcases near.rows with same | ⟨before, after, rows, rows', bland, bland'⟩
      · rw [same]
        unfold Relation.cell
        rw [near.columns]
        exact .inl rfl
      · have known := forall₂_sources found
        rw [rows, rows']
        exact .inr ⟨_, _, rfl, rfl, bland_rows known bland number, bland_rows known (near.columns ▸ bland') number⟩

theorem nearRows_emptyRowsOf (near : one.Near other) :
    NearRows (plainColumns index.columns) (index.emptyRowsOf one) (index.emptyRowsOf other) := by
  unfold emptyRowsOf
  rw [numbering_near near]
  cases numbering one (index.contentsKey.getD rowidName) with
  | error fault => exact .inl rfl
  | ok number =>
    simp only [bind, Except.bind]
    rcases near.rows with same | ⟨before, after, rows, rows', -⟩
    · rw [same]
      exact .inl rfl
    · have bland (rows : List StoredRow) : Bland (plainColumns index.columns) (rows.filterMap fun row =>
          (number row).map fun rowid => ⟨rowid, index.columns.map fun _ => .null⟩) := by
        intro row member column _
        obtain ⟨held, -, made⟩ := List.mem_filterMap.1 member
        obtain ⟨rowid, -, rfl⟩ := Option.map_eq_some_iff.1 made
        rcases Column.cell_cases (plainColumns index.columns) ⟨rowid, index.columns.map fun _ => .null⟩ column
          with null | ⟨entry, inside, -, cell⟩
        · exact null
        · rw [cell]
          obtain ⟨_, -, null⟩ := List.mem_map.1 (List.of_mem_zip inside).2
          exact null.symm
      rw [rows, rows']
      exact .inr ⟨_, _, rfl, rfl, bland before, bland after⟩

end FullText

def Schema.Knows (home : Schema) (made : List Table) (name : String) : Prop :=
  Table.find? home.tables name = none → Table.find? made name = none

-- What a schema holds, whatever the order in which its tables are gone through.
def Schema.content (schema : Schema) : String × List Table := (schema.name, schema.tables)

def Table.sources (table : Table) : List String :=
  match table.body with
  | .view source => [source]
  | .fullText index =>
    (match index.contents with
      | .table name => [name]
      | _ => []) ++ FullText.parts.map (FullText.indexName table.name)
  | _ => []

namespace Database

/-- A database that has the tables of another one, and some more in its temporary schema. -/
structure Grows (base : Database) (made : List Table) (database : Database) : Prop where
  main : database.main.content = base.main.content
  temp : database.temp.content = (base.temp.name, base.temp.tables ++ made)
  attached : database.attached.map Schema.content = base.attached.map Schema.content

structure Stands (base : Database) (made : List Table) (home later : Schema) : Prop where
  known : home ∈ base.schemas
  name : later.name = home.name
  tables : (home.name ≠ base.temp.name ∧ later.tables = home.tables) ∨
    (home = base.temp ∧ later.tables = base.temp.tables ++ made)

/-- No temporary table looks for a name that only some other tables have. -/
def Covers (base : Database) (made : List Table) : Prop :=
  ∀ table ∈ base.temp.tables, ∀ name ∈ table.sources, base.temp.Knows made name

section

variable {base database : Database} {made : List Table} {home later : Schema}

theorem Stands.find?_tables (stands : base.Stands made home later) {name : String}
    (knows : home = base.temp → home.Knows made name) :
    Table.find? later.tables name = Table.find? home.tables name := by
  rcases stands.tables with ⟨-, same⟩ | ⟨rfl, same⟩
  · rw [same]
  · rw [same, Table.find?, List.find?_append]
    cases found : List.find? (fun table => sameName table.name name) base.temp.tables with
    | some table => rw [Option.some_or, Table.find?, found]
    | none =>
      rw [Option.none_or, Table.find?, found]
      exact knows rfl found

theorem Stands.find? (stands : base.Stands made home later) {name : String}
    (knows : home = base.temp → home.Knows made name) : later.find? name = home.find? name := by
  unfold Schema.find?
  rw [stands.find?_tables knows, stands.name]

theorem Grows.stands (regular : base.Regular) (grows : base.Grows made database) :
    List.Forall₂ (base.Stands made) base.schemas database.schemas := by
  obtain ⟨main, others⟩ := List.pairwise_cons.1 regular.apart
  obtain ⟨temp, -⟩ := List.pairwise_cons.1 others
  have apart {a b : String} (differ : sameName a b = false) : a ≠ b := by
    rintro rfl
    rw [sameName_refl] at differ
    cases differ
  have parts {home later : Schema} (same : later.content = home.content) :
      later.name = home.name ∧ later.tables = home.tables := Prod.mk.inj same
  refine .cons ?_ (.cons ?_ ?_)
  · obtain ⟨name, tables⟩ := parts grows.main
    exact ⟨by simp [schemas], name, .inl ⟨apart (main _ (by simp)), tables⟩⟩
  · obtain ⟨name, tables⟩ := Prod.mk.inj grows.temp
    exact ⟨by simp [schemas], name, .inr ⟨rfl, tables⟩⟩
  · have same : List.Forall₂ (fun home later => later.content = home.content) base.attached database.attached := by
      have equal := grows.attached
      rw [← List.forall₂_eq_eq_eq, List.forall₂_map_left_iff, List.forall₂_map_right_iff] at equal
      exact equal.flip
    have member : ∀ home ∈ base.attached, home ∈ base.schemas ∧ home.name ≠ base.temp.name := by
      intro home held
      exact ⟨by simp [schemas, held], Ne.symm (apart (temp home held))⟩
    refine ((List.forall₂_and_left _ _).2 ⟨member, same⟩).imp ?_
    rintro home later ⟨⟨known, other⟩, equal⟩
    obtain ⟨name, tables⟩ := parts equal
    exact ⟨known, name, .inl ⟨other, tables⟩⟩

theorem find?_forall₂ {R : Schema → Schema → Prop} {schemas others : List Schema}
    (related : List.Forall₂ R schemas others) (name : String)
    (named : ∀ {home later}, R home later → later.name = home.name) :
    Option.Rel R (schemas.find? fun schema => sameName schema.name name)
      (others.find? fun schema => sameName schema.name name) := by
  induction related with
  | nil => exact .none
  | @cons home later homes laters first rest ih =>
    rw [List.find?_cons, List.find?_cons, named first]
    split
    · exact .some first
    · exact ih

theorem Grows.schema? (regular : base.Regular) (grows : base.Grows made database) (name : String) :
    Option.Rel (base.Stands made) (base.schema? name) (database.schema? name) :=
  find?_forall₂ (grows.stands regular) name Stands.name

-- Where something is looked for, it is found in schemas that stand for each other.
theorem Grows.sourceTables (regular : base.Regular) (grows : base.Grows made database)
    (stands : base.Stands made home later) {source : String}
    (knows : home = base.temp → base.temp.Knows made source) :
    List.Forall₂ (fun one other => base.Stands made one.1 other.1 ∧ other.2 = one.2 ∧
        one.1.find? source = some one.2)
      (base.sourceTables home source).1 (database.sourceTables later source).1 ∧
    (database.sourceTables later source).2 = (base.sourceTables home source).2 := by
  have inside {schemas others : List Schema} (related : List.Forall₂ (base.Stands made) schemas others)
      (shown : ∀ home ∈ schemas, home = base.temp → base.temp.Knows made source) :
      List.Forall₂ (fun one other => base.Stands made one.1 other.1 ∧ other.2 = one.2 ∧
          one.1.find? source = some one.2)
        (schemas.filterMap fun schema => (schema.find? source).map fun table => (schema, table))
        (others.filterMap fun schema => (schema.find? source).map fun table => (schema, table)) := by
    refine List.rel_filterMap ?_ ((List.forall₂_and_left _ _).2 ⟨shown, related⟩)
    rintro home later ⟨shown, stands⟩
    dsimp only
    rw [stands.find? fun same => same ▸ shown same]
    cases found : home.find? source with
    | none => exact .none
    | some held => exact .some ⟨stands, rfl, found⟩
  have named : database.temp.name = base.temp.name := (Prod.mk.inj grows.temp).1
  unfold Database.sourceTables
  rw [stands.name, named]
  split
  · rename_i temporary
    have same : home = base.temp := by
      rcases stands.tables with ⟨other, -⟩ | ⟨same, -⟩
      · exact absurd (by simpa using temporary) other
      · exact same
    refine ⟨inside ?_ fun _ _ _ => knows same, rfl⟩
    cases grows.stands regular with
    | cons main rest =>
      cases rest with
      | cons temp attached => exact .cons temp (.cons main attached)
  · refine ⟨inside (.cons stands .nil) ?_, rfl⟩
    intro other member same
    rw [List.mem_singleton.1 member] at same
    exact knows same

def entries (database : Database) : List (Schema × Table) :=
  database.schemas.flatMap fun schema => schema.tables.map fun table => (schema, table)

def named (entry : Schema × Table) : String × String := (entry.1.name, entry.2.name)

def tableNames (database : Database) : List (String × String) := database.entries.map named

theorem length_entries (database : Database) : database.entries.length + 2 = database.tableFuel := by
  simp [entries, tableFuel, List.length_flatMap, List.sum_eq_foldr]

theorem mem_entries {schema : Schema} {table : Table} :
    (schema, table) ∈ database.entries ↔ schema ∈ database.schemas ∧ table ∈ schema.tables := by
  simp [entries]

theorem Stands.mem_tableNames (stands : base.Stands made home later) {held : Table}
    (there : held ∈ home.tables) : (home.name, held.name) ∈ base.tableNames :=
  List.mem_map_of_mem (mem_entries.2 ⟨stands.known, there⟩)

-- A chain without repetitions comes to its end.
theorem not_overlong {α : Type} {above known : List α} (distinct : above.Nodup) (inside : above ⊆ known) :
    ¬known.length < 0 + above.length := by
  have few := (distinct.subperm inside).length_le
  omega

theorem Schema.find?_there {home : Schema} {name : String} {held : Table}
    (found : home.find? name = some held) : held ∈ home.tables ∨ held = Schema.catalog home.name := by
  rcases Schema.find?_cases found with ⟨-, there, -⟩ | ⟨same, -⟩
  · exact .inl there
  · exact .inr same

section

-- What is read of the tables that a table reads, one level below it.
variable {n m : Nat} {above : List (String × String)} {held : Table}
  (deeper : ¬above.contains (home.name, held.name) = true → ∀ {next nextLater : Schema} {below : Table},
    base.Stands made next nextLater → (below ∈ next.tables ∨ below = Schema.catalog next.name) →
      Alike Relation.Near (base.relation n ((home.name, held.name) :: above) next below)
        (database.relation m ((home.name, held.name) :: above) nextLater below))
include deeper

theorem Grows.relation_view (regular : base.Regular) (grows : base.Grows made database)
    (stands : base.Stands made home later) {source : String} (body : held.body = .view source)
    (knows : home = base.temp → base.temp.Knows made source) :
    Alike Relation.Near (base.relation (n + 1) above home held)
      (database.relation (m + 1) above later held) := by
  obtain ⟨found, missing⟩ := grows.sourceTables regular stands knows
  unfold Database.relation
  simp only [body, stands.name]
  split
  · exact .error _
  · rename_i new
    cases tables : base.sourceTables home source with
    | mk first fault =>
      cases tables' : database.sourceTables later source with
      | mk first' fault' =>
        rw [tables, tables'] at found missing
        cases found with
        | nil =>
          obtain rfl : fault' = fault := missing
          exact .error _
        | @cons one two _ _ near _ =>
          obtain ⟨one, below⟩ := one
          obtain ⟨two, below'⟩ := two
          obtain ⟨stands', rfl, looked⟩ := near
          refine (deeper new stands' (Schema.find?_there looked)).bind ?_
          exact fun _ _ near => .ok ⟨near.columns, rfl, near.rows⟩

theorem Stands.relation_fullText (stands : base.Stands made home later) {index : FullText}
    (body : held.body = .fullText index)
    (knows : ∀ name ∈ held.sources, home = base.temp → base.temp.Knows made name) :
    Alike Relation.Near (base.relation (n + 1) above home held)
      (database.relation (m + 1) above later held) := by
  have contents {name : String} (source : name ∈ held.sources)
      {rows : Relation → Except Fault (List StoredRow)}
      (near : ∀ {one other}, one.Near other →
        NearRows (FullText.plainColumns index.columns) (rows one) (rows other)) :
      NearRows (FullText.plainColumns index.columns)
        (if above.contains (home.name, held.name) = true then do
          throw Fault.recursiveContents
          let held' ← contentsTable home name
          rows (← base.relation n ((home.name, held.name) :: above) home held')
        else do
          let held' ← contentsTable home name
          rows (← base.relation n ((home.name, held.name) :: above) home held'))
        (if above.contains (home.name, held.name) = true then do
          throw Fault.recursiveContents
          let held' ← contentsTable later name
          rows (← database.relation m ((home.name, held.name) :: above) later held')
        else do
          let held' ← contentsTable later name
          rows (← database.relation m ((home.name, held.name) :: above) later held')) := by
    split
    · exact .inl rfl
    · rename_i new
      unfold contentsTable
      rw [stands.find? fun same => same ▸ knows name source same, stands.name]
      cases looked : home.find? name with
      | none => exact .inl rfl
      | some below => exact (deeper new stands (Schema.find?_there looked)).nearRows near
  unfold Database.relation
  simp only [body, stands.name]
  refine .ok ⟨rfl, rfl, ?_⟩
  cases stored : index.contents with
  | own => exact contents (by simp [Table.sources, body, FullText.parts]) FullText.nearRows_rowsOf
  | table name => exact contents (by simp [Table.sources, body, stored]) FullText.nearRows_rowsOf
  | none =>
    dsimp only
    split
    · exact contents (by simp [Table.sources, body, FullText.parts]) FullText.nearRows_emptyRowsOf
    · exact .inl rfl

end

-- What is read of a table, whatever the fuel as long as it lasts for all the tables that are not above.
theorem Grows.relation (regular : base.Regular) (grows : base.Grows made database)
    (covers : base.Covers made) (n m : Nat) (above : List (String × String)) {held : Table}
    (stands : base.Stands made home later) (there : held ∈ home.tables ∨ held = Schema.catalog home.name)
    (distinct : above.Nodup) (inside : above ⊆ base.tableNames)
    (long : base.tableNames.length < n + above.length) (long' : base.tableNames.length < m + above.length) :
    Alike Relation.Near (base.relation n above home held) (database.relation m above later held) := by
  induction n generalizing m above home later held with
  | zero => exact absurd long (not_overlong distinct inside)
  | succ n ih =>
    cases m with
    | zero => exact absurd long' (not_overlong distinct inside)
    | succ m =>
      -- A table that reads others is among those that are listed.
      have deeper (listed : held ∈ home.tables) (new : ¬above.contains (home.name, held.name) = true)
          {next nextLater : Schema} {below : Table} (stands' : base.Stands made next nextLater)
          (there' : below ∈ next.tables ∨ below = Schema.catalog next.name) :
          Alike Relation.Near (base.relation n ((home.name, held.name) :: above) next below)
            (database.relation m ((home.name, held.name) :: above) nextLater below) := by
        refine ih m _ stands' there' (List.nodup_cons.2 ⟨by simpa using new, distinct⟩) ?_ ?_ ?_
        · exact List.cons_subset.2 ⟨stands.mem_tableNames listed, inside⟩
        · rw [List.length_cons]
          omega
        · rw [List.length_cons]
          omega
      have knows (listed : held ∈ home.tables) (name : String) (source : name ∈ held.sources)
          (same : home = base.temp) : base.temp.Knows made name :=
        covers held (same ▸ listed) name source
      have listed (other : held.body ≠ .catalog) : held ∈ home.tables := by
        rcases there with listed | rfl
        · exact listed
        · exact absurd rfl other
      cases body : held.body with
      | ordinary declaration rows =>
        unfold Database.relation
        simp only [body]
        exact .ok ⟨rfl, rfl, .inl rfl⟩
      | splitter splitter =>
        unfold Database.relation
        simp only [body]
        exact .ok ⟨rfl, rfl, .inl rfl⟩
      | catalog =>
        unfold Database.relation
        simp only [body]
        exact .ok ⟨rfl, rfl, .inr ⟨_, _, rfl, rfl, bland_catalog _, bland_catalog _⟩⟩
      | view source =>
        have listed := listed (by simp [body])
        have read : source ∈ held.sources := by simp [Table.sources, body]
        exact grows.relation_view (deeper listed) regular stands body (knows listed source read)
      | fullText index =>
        have listed := listed (by simp [body])
        exact stands.relation_fullText (deeper listed) body (knows listed)

theorem Grows.tableFuel_le (regular : base.Regular) (grows : base.Grows made database) :
    base.tableFuel ≤ database.tableFuel := by
  have counted {schemas others : List Schema} (related : List.Forall₂ (base.Stands made) schemas others) :
      (schemas.map fun schema => schema.tables.length).foldr (· + ·) 0 ≤
        (others.map fun schema => schema.tables.length).foldr (· + ·) 0 := by
    induction related with
    | nil => exact Nat.le_refl _
    | @cons home later homes laters stands _ ih =>
      have first : home.tables.length ≤ later.tables.length := by
        rcases stands.tables with ⟨-, same⟩ | ⟨rfl, same⟩
        · exact Nat.le_of_eq (congrArg List.length same).symm
        · rw [same, List.length_append]
          omega
      exact Nat.add_le_add first ih
  have total := counted (grows.stands regular)
  unfold Database.tableFuel
  omega

theorem Grows.relationOf (regular : base.Regular) (grows : base.Grows made database)
    (covers : base.Covers made) (stands : base.Stands made home later) {held : Table}
    (there : held ∈ home.tables ∨ held = Schema.catalog home.name) :
    Alike Relation.Near (base.relationOf home held) (database.relationOf later held) := by
  have total := base.length_entries
  have names : base.tableNames.length = base.entries.length := List.length_map _
  have fuel := grows.tableFuel_le regular
  refine grows.relation regular covers _ _ [] stands there List.nodup_nil (by simp) ?_ ?_
  · rw [List.length_nil]
    omega
  · rw [List.length_nil]
    omega

-- Whether a name is that of a view.
def NamesView (base : Database) (name : String × String) : Prop :=
  ∃ entry ∈ base.entries, entry.2.isView = true ∧ name = named entry

-- A table and its counterpart, or two views.
def Ends (base : Database) (made : List Table) (one other : Schema × Table) : Prop :=
  (base.Stands made one.1 other.1 ∧ other.2 = one.2 ∧
    (one.2 ∈ one.1.tables ∨ one.2 = Schema.catalog one.1.name)) ∨
  (base.NamesView (named one) ∧ base.NamesView (named other))

-- Views that read each other in a circle are never left.
def Circular (base : Database) (above : List (Schema × Table)) : Prop :=
  ∀ entry ∈ above, ∃ source next, entry.2.body = .view source ∧
    (base.sourceTables entry.1 source).1.head? = some next ∧ next ∈ above

theorem underlying_succ (database : Database) (fuel : Nat) (home : Schema) {held : Table} {source : String}
    (body : held.body = .view source) :
    database.underlying (fuel + 1) home held =
      ((database.sourceTables home source).1.head?).elim (home, held) fun next =>
        database.underlying fuel next.1 next.2 := by
  rw [Database.underlying.eq_def]
  simp only [body]
  cases (database.sourceTables home source).1 <;> rfl

theorem underlying_other (database : Database) (fuel : Nat) (home : Schema) {held : Table}
    (other : held.isView = false) : database.underlying fuel home held = (home, held) := by
  cases fuel with
  | zero => rfl
  | succ fuel =>
    unfold Database.underlying
    cases body : held.body with
    | view source =>
      rw [Table.isView, body] at other
      cases other
    | ordinary | fullText | splitter | catalog => rfl

theorem Grows.refl (base : Database) : base.Grows [] base :=
  ⟨rfl, by rw [List.append_nil]; rfl, rfl⟩

theorem Stands.alone (stands : base.Stands made home later) : base.Stands [] home home where
  known := stands.known
  name := rfl
  tables := by
    rcases stands.tables with ⟨other, -⟩ | ⟨same, -⟩
    · exact .inl ⟨other, rfl⟩
    · exact .inr ⟨same, by rw [same, List.append_nil]⟩

theorem covers_nil (base : Database) : base.Covers [] := fun _ _ _ _ _ => rfl

theorem Grows.sources_head (regular : base.Regular) (grows : base.Grows made database)
    (covers : base.Covers made) (stands : base.Stands made home later) {held : Table}
    (there : held ∈ home.tables) {source : String} (body : held.body = .view source) :
    Option.Rel (fun one other => base.Stands made one.1 other.1 ∧ other.2 = one.2 ∧
        one.1.find? source = some one.2)
      (base.sourceTables home source).1.head? (database.sourceTables later source).1.head? := by
  have knows (same : home = base.temp) : base.temp.Knows made source :=
    covers held (same ▸ there) source (by simp [Table.sources, body])
  obtain ⟨found, -⟩ := grows.sourceTables regular stands knows
  revert found
  generalize (base.sourceTables home source).1 = one
  generalize (database.sourceTables later source).1 = other
  intro found
  cases found with
  | nil => exact .none
  | cons first _ => exact .some first

theorem Grows.underlying_circular (regular : base.Regular) (grows : base.Grows made database)
    (covers : base.Covers made) {above : List (Schema × Table)} (circular : base.Circular above)
    (inside : above ⊆ base.entries) (fuel : Nat) {held : Table} (member : (home, held) ∈ above)
    (stands : base.Stands made home later) :
    base.NamesView (named (database.underlying fuel later held)) := by
  induction fuel generalizing home later held with
  | zero =>
    obtain ⟨source, next, body, -⟩ := circular _ member
    refine ⟨_, inside member, ?_, Prod.ext stands.name rfl⟩
    rw [Table.isView, body]
  | succ fuel ih =>
    obtain ⟨source, next, body, head, further⟩ := circular _ member
    have related := grows.sources_head regular covers stands (mem_entries.1 (inside member)).2 body
    rw [head] at related
    rw [underlying_succ database fuel later body]
    generalize (database.sourceTables later source).1.head? = found at related
    cases related with
    | some related =>
      obtain ⟨stands, same, -⟩ := related
      rw [Option.elim_some, same]
      exact ih further stands

theorem Grows.underlying (regular : base.Regular) (grows : base.Grows made database)
    (covers : base.Covers made) (n m : Nat) (above : List (Schema × Table)) {held : Table}
    (stands : base.Stands made home later) (there : held ∈ home.tables ∨ held = Schema.catalog home.name)
    (trail : ∀ entry ∈ above, ∃ source next, entry.2.body = .view source ∧
      (base.sourceTables entry.1 source).1.head? = some next ∧ (next ∈ above ∨ next = (home, held)))
    (distinct : above.Nodup) (inside : above ⊆ base.entries)
    (long : base.entries.length < n + above.length) (long' : base.entries.length < m + above.length) :
    base.Ends made (base.underlying n home held) (database.underlying m later held) := by
  induction n generalizing m above home later held with
  | zero => exact absurd long (not_overlong distinct inside)
  | succ n ih =>
    cases m with
    | zero => exact absurd long' (not_overlong distinct inside)
    | succ m =>
      by_cases member : (home, held) ∈ above
      · have circular : base.Circular above := by
          intro entry found
          obtain ⟨source, next, body, head, further⟩ := trail entry found
          exact ⟨source, next, body, head, further.elim id fun same => same ▸ member⟩
        refine .inr ⟨?_, grows.underlying_circular regular covers circular inside _ member stands⟩
        exact (Grows.refl base).underlying_circular regular base.covers_nil circular inside _ member stands.alone
      · cases body : held.body with
        | view source =>
          have listed : held ∈ home.tables := by
            rcases there with listed | rfl
            · exact listed
            · cases body
          have related := grows.sources_head regular covers stands listed body
          rw [underlying_succ base n home body, underlying_succ database m later body]
          generalize found : (base.sourceTables home source).1.head? = one at related
          generalize (database.sourceTables later source).1.head? = other at related
          cases related with
          | none => exact .inl ⟨stands, rfl, there⟩
          | @some next further related =>
            obtain ⟨stands', same, looked⟩ := related
            rw [Option.elim_some, Option.elim_some, same]
            refine ih m ((home, held) :: above) stands' (Schema.find?_there looked) ?_
              (List.nodup_cons.2 ⟨member, distinct⟩)
              (List.cons_subset.2 ⟨mem_entries.2 ⟨stands.known, listed⟩, inside⟩) ?_ ?_
            · rw [List.forall_mem_cons]
              refine ⟨⟨source, next, body, found, .inr rfl⟩, ?_⟩
              intro entry held
              obtain ⟨source, next, body, head, further⟩ := trail entry held
              refine ⟨source, next, body, head, .inl ?_⟩
              rcases further with known | rfl
              · exact List.mem_cons_of_mem _ known
              · exact List.mem_cons_self
            · rw [List.length_cons]
              omega
            · rw [List.length_cons]
              omega
        | ordinary | fullText | splitter | catalog =>
          have other : held.isView = false := by rw [Table.isView, body]
          rw [underlying_other base _ home other, underlying_other database _ later other]
          exact .inl ⟨stands, rfl, there⟩

theorem Grows.ends (regular : base.Regular) (grows : base.Grows made database) (covers : base.Covers made)
    (stands : base.Stands made home later) {held : Table}
    (there : held ∈ home.tables ∨ held = Schema.catalog home.name) :
    base.Ends made (base.underlying base.tableFuel home held)
      (database.underlying database.tableFuel later held) := by
  have total := base.length_entries
  have fuel := grows.tableFuel_le regular
  refine grows.underlying regular covers _ _ [] stands there (by simp) List.nodup_nil (by simp) ?_ ?_
  · rw [List.length_nil]
    omega
  · rw [List.length_nil]
    omega

end

end Database

end TextQuery.Engine
