import TextQuery.Proofs.Frame.Lookups

set_option autoImplicit false

namespace TextQuery

open Engine Engine.Change Engine.Database Text

def Probe.columns? : Probe → Option (List String)
  | .helper columns => some columns
  | .table _ _ => none

def Compiler.helpers (compiler : Compiler) : List String :=
  Tokenizer.helper compiler.tokenizer.choice :: (compiler.validator.probe.columns?.map Validator.helper).toList

/-- What a tokenizer adds to the temporary tables: nothing, or its helper table if there is no table of that
name. -/
def Tokenizer.Adds (choice : TokenizerChoice) (base : Database) (tables : List Table) : Prop :=
  tables = [] ∨ base.temp.find? (helper choice) = none ∧ ∃ splitter,
    splitterOf (helper choice) choice = .ok splitter ∧
    tables = [⟨helper choice, TokenTable.sql (helper choice) choice, .splitter splitter⟩]

/-- What a probe adds to the temporary tables: nothing, or a full-text table with those of its index if there
is no table of its name. -/
def Probe.Adds (probe : Probe) (base : Database) (tables : List Table) : Prop :=
  tables = [] ∨ ∃ columns index, probe = .helper columns ∧
    base.temp.find? (Validator.helper columns) = none ∧
    FullText.ofArguments (Validator.helper columns) ((columns.map identifier).map String.toList) =
      .ok index ∧
    tables = ⟨Validator.helper columns,
        FullText.sql (Validator.helper columns) fullTextClause (columns.map identifier), .fullText index⟩ ::
      index.indexTables (Validator.helper columns)

/-- The helper tables of a compiler that have been added to the temporary tables, in one order or the
other. -/
def Compiler.Adds (compiler : Compiler) (base : Database) (made : List Table) : Prop :=
  ∃ words probe, Tokenizer.Adds compiler.tokenizer.choice base words ∧
    compiler.validator.probe.Adds base probe ∧ made.Perm (words ++ probe)

/-- Of a compiler that the engine refuses to make one of its helper tables, where there is none of its
name. -/
def Compiler.Refused (compiler : Compiler) (base : Database) : Prop :=
  (base.temp.find? (Tokenizer.helper compiler.tokenizer.choice) = none ∧
    ∃ fault, splitterOf (Tokenizer.helper compiler.tokenizer.choice) compiler.tokenizer.choice =
      .error fault) ∨
  ∃ columns fault, compiler.validator.probe = .helper columns ∧
    base.temp.find? (Validator.helper columns) = none ∧
    FullText.make base.temp (Validator.helper columns)
      (FullText.sql (Validator.helper columns) fullTextClause (columns.map identifier))
      ((columns.map identifier).map String.toList) = .error fault

section

variable {base database : Database} {made : List Table} {compiler : Compiler}

namespace Compiler.Adds

section

variable (adds : compiler.Adds base made)
include adds

theorem only_probe (apart : ∀ table ∈ made, table.name ≠ Tokenizer.helper compiler.tokenizer.choice) :
    ∃ probe, compiler.validator.probe.Adds base probe ∧ made.Perm probe := by
  obtain ⟨words, probe, added, others, order⟩ := adds
  rcases added with rfl | ⟨-, _, -, rfl⟩
  · exact ⟨probe, others, order⟩
  · exact absurd rfl (apart _ (order.symm.subset List.mem_cons_self))

theorem only_words {columns : List String} (same : compiler.validator.probe = .helper columns)
    (apart : ∀ table ∈ made, table.name ≠ Validator.helper columns) :
    Tokenizer.Adds compiler.tokenizer.choice base made := by
  obtain ⟨words, probe, added, others, order⟩ := adds
  rcases others with rfl | ⟨others, _, also, -, -, rfl⟩
  · rw [List.append_nil] at order
    rcases added with rfl | ⟨free, splitter, split, rfl⟩
    · exact .inl (List.perm_nil.1 order)
    · exact .inr ⟨free, splitter, split, List.perm_singleton.1 order⟩
  · cases same.symm.trans also
    have there := order.symm.subset (List.mem_append_right words List.mem_cons_self)
    exact absurd rfl (apart _ there)

theorem name {table : Table} (member : table ∈ made) :
    table.name = Tokenizer.helper compiler.tokenizer.choice ∨
      ∃ columns, compiler.validator.probe = .helper columns ∧
        base.temp.find? (Validator.helper columns) = none ∧
        (table.name = Validator.helper columns ∨
          ∃ part ∈ FullText.parts, table.name = FullText.indexName (Validator.helper columns) part ∧
            Session.isVirtual table = false) := by
  obtain ⟨words, probe, added, others, order⟩ := adds
  rcases List.mem_append.1 (order.subset member) with word | part
  · rcases added with rfl | ⟨-, splitter, -, rfl⟩
    · cases word
    · exact .inl (by rw [List.mem_singleton.1 word])
  · rcases others with rfl | ⟨columns, index, same, free, -, rfl⟩
    · cases part
    · refine .inr ⟨columns, same, free, ?_⟩
      rcases List.mem_cons.1 part with rfl | part
      · exact .inl rfl
      · rw [FullText.indexTables_eq] at part
        obtain ⟨kind, known, rfl⟩ := List.mem_map.1 part
        refine .inr ⟨kind, FullText.mem_parts known, FullText.tableOf_name index _ kind, ?_⟩
        unfold FullText.tableOf
        split <;> rfl

theorem isPrivate {table : Table} (member : table ∈ made) : IsPrivate table.name := by
  rcases adds.name member with name | ⟨columns, -, -, name | ⟨part, known, name, -⟩⟩
  · exact name ▸ isPrivate_tokens _
  · exact name ▸ isPrivate_probe columns
  · exact name ▸ isPrivate_indexName (isPrivate_probe columns) known

theorem find?_eq_none {name : String} (other : ¬IsPrivate name) : Table.find? made name = none := by
  rw [Table.find?, List.find?_eq_none]
  exact fun table member same => other ((IsPrivate.congr same).1 (adds.isPrivate member))

-- Where the helper tables are there already, nothing is added.
theorem eq_nil (there : ∀ name ∈ compiler.helpers, (base.temp.find? name).isSome = true) : made = [] := by
  obtain ⟨words, probe, added, others, order⟩ := adds
  have taken {name : String} (listed : name ∈ compiler.helpers) : base.temp.find? name ≠ none :=
    Option.isSome_iff_ne_none.1 (there name listed)
  obtain rfl : words = [] := added.resolve_right fun ⟨free, _⟩ => taken List.mem_cons_self free
  obtain rfl : probe = [] := by
    refine others.resolve_right ?_
    rintro ⟨columns, index, same, free, -⟩
    refine taken (List.mem_cons_of_mem _ ?_) free
    rw [same]
    exact List.mem_singleton_self _
  exact List.perm_nil.1 order

end

theorem nil (compiler : Compiler) (base : Database) : compiler.Adds base [] :=
  ⟨[], [], .inl rfl, .inl rfl, .refl _⟩

end Compiler.Adds

theorem Engine.Database.Grows.temp_tables (grows : base.Grows made database) :
    database.temp.tables = base.temp.tables ++ made := (Prod.mk.inj grows.temp).2

theorem find?_append_eq_none {first second : List Table} {name : String} :
    Table.find? (first ++ second) name = none ↔
      Table.find? first name = none ∧ Table.find? second name = none := by
  rw [Table.find?, List.find?_append, Option.or_eq_none_iff]
  rfl

theorem Engine.Database.within_segments (database : Database) (name : String)
    (edit : List Table → List Table) : (database.within name edit).segments = database.segments := by
  unfold Database.within
  split
  · rfl
  · split <;> rfl

theorem Engine.Database.Grows.within (regular : base.Regular) (grows : base.Grows made database)
    (tables : List Table) :
    base.Grows (made ++ tables) (database.within database.temp.name (· ++ tables)) := by
  obtain ⟨main, -⟩ := List.pairwise_cons.1 regular.apart
  have apart : sameName database.temp.name database.main.name = false := by
    rw [(Prod.mk.inj grows.main).1, (Prod.mk.inj grows.temp).1, sameName_comm]
    exact main base.temp List.mem_cons_self
  have added : database.within database.temp.name (· ++ tables) =
      { database with temp := database.temp.change (· ++ tables) } := by
    rw [Database.within, if_neg (by simp [apart]), if_pos (sameName_refl _)]
  rw [added]
  refine ⟨grows.main, ?_, grows.attached⟩
  change (database.temp.name, database.temp.tables ++ tables) = _
  rw [grows.temp_tables, (Prod.mk.inj grows.temp).1, List.append_assoc]

-- The full-text tables that were there are there still.
theorem Engine.Database.Grows.indexed (regular : base.Regular) (grows : base.Grows made database)
    {entry : String × String} (indexed : base.Indexed entry) : database.Indexed entry := by
  obtain ⟨home, known, table, there, named, called, isFullText⟩ := indexed
  obtain ⟨later, found, stands⟩ := grows.stand regular (regular.schema?_eq known)
  refine ⟨later, List.mem_of_find?_eq_some found, table, ?_, stands.name.trans named, called, isFullText⟩
  rcases stands.tables with ⟨-, same⟩ | ⟨rfl, same⟩
  · rwa [same]
  · rw [same]
    exact List.mem_append_left _ there

theorem Engine.Database.Covers.of_append {tables : List Table} (covers : base.Covers (made ++ tables)) :
    base.Covers made := by
  intro table member name source missing
  exact (find?_append_eq_none.1 (covers table member name source missing)).1

-- Making a full-text table depends on the names of the tables of its index only.
theorem Engine.FullText.make_congr {home other : Schema} {table : String}
    (same : ∀ part ∈ parts, other.find? (indexName table part) = home.find? (indexName table part))
    (sql : String) (arguments : List (List Char)) :
    make other table sql arguments = make home table sql arguments := by
  have vacant {found : List String} (known : found ⊆ parts) :
      found.forM (checkVacant other table) = found.forM (checkVacant home table) := by
    induction found with
    | nil => rfl
    | cons part found ih =>
      obtain ⟨listed, rest⟩ := List.cons_subset.1 known
      have first : checkVacant other table part = checkVacant home table part := by
        unfold checkVacant
        dsimp only
        rw [same part listed]
      change (checkVacant other table part >>= fun _ => found.forM (checkVacant other table)) =
        (checkVacant home table part >>= fun _ => found.forM (checkVacant home table))
      rw [first, ih rest]
  unfold make
  refine bind_congr fun index => ?_
  rw [vacant fun part member => mem_parts member]

namespace Engine.Database.Remembers

theorem refl (base : Database) : base.Remembers base := ⟨id, List.Subset.refl _, fun _ => id⟩

theorem recalls {later : Database} (remembers : base.Remembers database)
    (recalls : database.Recalls later) : base.Remembers later where
  isRead isRead := recalls.isRead (remembers.isRead isRead)
  unopened := List.Subset.trans recalls.unopened remembers.unopened
  segments entry known := recalls.known entry (remembers.segments entry known)

theorem within (remembers : base.Remembers database) (name : String) (edit : List Table → List Table) :
    base.Remembers (database.within name edit) where
  isRead isRead := (within_frame database name edit).2.2.1.trans (remembers.isRead isRead)
  unopened := by
    rw [within_unopened]
    exact remembers.unopened
  segments := by
    rw [within_segments]
    exact remembers.segments

end Engine.Database.Remembers

/-- What is true of a database while a compiler makes use of it. -/
structure Compiler.Leaves (compiler : Compiler) (base : Database) (made : List Table)
    (database : Database) : Prop where
  adds : compiler.Adds base made
  grows : base.Grows made database
  condition : database.condition = base.condition
  fresh : base.condition = .locked → database.isRead = true → base.isRead = true
  since : base.Covers made → base.Since database
  remembers : base.Remembers database ∨ compiler.Refused base

namespace Compiler.Leaves

theorem refl (compiler : Compiler) (base : Database) : compiler.Leaves base [] base where
  adds := .nil compiler base
  grows := .refl base
  condition := rfl
  fresh _ isRead := isRead
  since _ := .refl base
  remembers := .inl (.refl base)

-- What has been added is no longer missing.
theorem missing (leaves : compiler.Leaves base made database) {name : String} (isPrivate : IsPrivate name)
    (free : database.temp.find? name = none) :
    base.temp.find? name = none ∧ ∀ table ∈ made, table.name ≠ name := by
  rw [find?_private isPrivate, leaves.grows.temp_tables, find?_append_eq_none] at free
  refine ⟨(find?_private isPrivate).trans free.1, ?_⟩
  rintro table member rfl
  exact absurd (sameName_refl _) (List.find?_eq_none.1 free.2 table member)

-- Whether a probe can be made has nothing to do with the helper table of a tokenizer.
theorem refused_of_make (leaves : compiler.Leaves base made database) {columns : List String}
    (same : compiler.validator.probe = .helper columns)
    (free : database.temp.find? (Validator.helper columns) = none) {fault : Fault}
    (failed : FullText.make database.temp (Validator.helper columns)
      (FullText.sql (Validator.helper columns) fullTextClause (columns.map identifier))
      ((columns.map identifier).map String.toList) = .error fault) : compiler.Refused base := by
  obtain ⟨free, apart⟩ := leaves.missing (isPrivate_probe columns) free
  refine .inr ⟨columns, fault, same, free, ?_⟩
  rw [← failed]
  refine FullText.make_congr ?_ _ _
  intro part known
  have foreign : Table.find? made (FullText.indexName (Validator.helper columns) part) = none := by
    rw [Table.find?, List.find?_eq_none]
    intro table member named
    rcases leaves.adds.only_words same apart with rfl | ⟨-, splitter, -, rfl⟩
    · cases member
    · rw [List.mem_singleton.1 member, sameName_comm, indexName_ne_tokens _ known] at named
      cases named
  have isPrivate := isPrivate_indexName (isPrivate_probe columns) known
  unfold Table.find? at foreign
  rw [find?_private isPrivate, find?_private isPrivate, leaves.grows.temp_tables, Table.find?, Table.find?,
    List.find?_append, foreign, Option.or_none]

variable (regular : base.Regular)
include regular

theorem within (leaves : compiler.Leaves base made database) {tables : List Table}
    (adds : compiler.Adds base (made ++ tables)) :
    compiler.Leaves base (made ++ tables) (database.within database.temp.name (· ++ tables)) where
  adds := adds
  grows := leaves.grows.within regular tables
  condition := (within_condition _ _ _).trans leaves.condition
  fresh locked isRead := by
    rw [(within_frame database _ _).2.2.1] at isRead
    exact leaves.fresh locked isRead
  since covers := by
    have since := leaves.since covers.of_append
    refine ⟨?_, ?_⟩
    · intro entry indexed known
      rw [within_segments] at known
      exact since.noted entry indexed known
    · rw [within_unopened]
      exact since.opened
  remembers := leaves.remembers.imp_left fun remembers => remembers.within _ _

theorem recalls {later : Database} (leaves : compiler.Leaves base made database)
    (recalls : database.Recalls later) : compiler.Leaves base made later where
  adds := leaves.adds
  grows := by
    refine ⟨?_, ?_, ?_⟩
    · rw [recalls.main, leaves.grows.main]
    · rw [recalls.temp, leaves.grows.temp]
    · rw [recalls.attached, leaves.grows.attached]
  condition := recalls.condition.trans leaves.condition
  fresh locked isRead := by
    rw [recalls.locked (leaves.condition.trans locked)] at isRead
    exact leaves.fresh locked isRead
  since covers := (leaves.since covers).recalls regular leaves.grows covers leaves.condition recalls
  remembers := leaves.remembers.imp_left fun remembers => remembers.recalls recalls

-- The engine forgets what it has read where it refuses to make a table.
theorem forget (leaves : compiler.Leaves base made database) (refused : compiler.Refused base) :
    compiler.Leaves base made database.forget where
  adds := leaves.adds
  grows := leaves.grows.forget
  condition := leaves.condition
  fresh _ isRead := by cases isRead
  since covers := by
    refine ⟨?_, ?_⟩
    · intro _ _ known
      cases known
    · intro entry earlier later
      refine absurd (mem_forget_unopened.2 ?_) later
      exact leaves.grows.indexed regular (regular.opened entry earlier)
  remembers := .inr refused

theorem steadfast : Steadfast (fun _ => True) fun database => ∃ made, compiler.Leaves base made database where
  toSteady := by
    have anything : Steady fun _ : Database => True :=
      ⟨fun _ _ _ => trivial, fun _ _ => trivial, fun _ _ => trivial, fun _ _ _ _ => trivial,
        fun _ _ _ _ => trivial⟩
    refine .of_recalls anything (fun _ => trivial) ?_
    rintro before after ⟨made, leaves⟩ recalls -
    exact ⟨made, leaves.recalls regular recalls⟩
  started := by
    rintro database wording - ⟨made, leaves⟩
    refine ⟨made, leaves.adds, ⟨leaves.grows.main, leaves.grows.temp, leaves.grows.attached⟩,
      leaves.condition, leaves.fresh, ?_, ?_⟩
    · exact fun covers => ⟨(leaves.since covers).noted, (leaves.since covers).opened⟩
    · exact leaves.remembers.imp_left fun remembers =>
        ⟨remembers.isRead, remembers.unopened, remembers.segments⟩

end Compiler.Leaves

theorem Compiler.asks_leaves (regular : base.Regular) (compiler : Compiler) :
    compiler.Asks fun database => ∃ made, compiler.Leaves base made database := by
  have steadfast := @Compiler.Leaves.steadfast base compiler regular
  refine ⟨tokenizerAsks_of steadfast ?_ ?_, validatorAsks_of steadfast ?_ ?_ ?_⟩
  · rintro - database splitter ⟨made, leaves⟩ free split
    obtain ⟨free, apart⟩ := leaves.missing (isPrivate_tokens _) free
    obtain ⟨probe, others, order⟩ := leaves.adds.only_probe apart
    refine ⟨_, leaves.within regular ⟨_, probe, .inr ⟨free, splitter, split, rfl⟩, others, ?_⟩⟩
    exact (order.append_right _).trans List.perm_append_comm
  · rintro database fault ⟨made, leaves⟩ free failed
    obtain ⟨free, -⟩ := leaves.missing (isPrivate_tokens _) free
    exact ⟨made, leaves.forget regular (.inl ⟨free, fault, failed⟩)⟩
  · rintro columns same - database tables ⟨made, leaves⟩ free - making
    obtain ⟨free, apart⟩ := leaves.missing (isPrivate_probe _) free
    obtain ⟨index, declared, -, -, rfl⟩ := FullText.make_eq_ok making
    have words := leaves.adds.only_words same apart
    exact ⟨_, leaves.within regular ⟨made, _, words, .inr ⟨columns, index, same, free, declared, rfl⟩, .refl _⟩⟩
  · rintro columns same database fault ⟨made, leaves⟩ free failed
    exact ⟨made, leaves.forget regular (leaves.refused_of_make same free failed)⟩
  · exact fun _ _ _ _ _ _ _ _ => .inl trivial

/-- The tables that a declaration names: what a view reads, where a full-text table has its contents, and
what foreign keys refer to. -/
def Engine.Table.mentions (table : Table) : List String :=
  match table.body with
  | .ordinary declaration _ => declaration.references.map Reference.table
  | .view source => [source]
  | .fullText index =>
    match index.contents with
    | .table name => [name]
    | _ => []
  | _ => []

/-- No temporary table has named one in its declaration that is missing, and has been added since. -/
def Engine.Database.Unmentioned (base : Database) (made : List Table) : Prop :=
  ∀ table ∈ base.temp.tables, ∀ name ∈ table.mentions, base.temp.Knows made name

theorem Engine.Table.mem_sources {table : Table} {name : String} (source : name ∈ table.sources) :
    name ∈ table.mentions ∨ ∃ part ∈ FullText.parts, name = FullText.indexName table.name part := by
  unfold sources at source
  unfold mentions
  split at source
  · rename_i body
    rw [body]
    exact .inl source
  · rename_i index body
    rw [body]
    rcases List.mem_append.1 source with contents | part
    · exact .inl contents
    · obtain ⟨own, known, rfl⟩ := List.mem_map.1 part
      exact .inr ⟨own, known, rfl⟩
  · cases source

theorem Engine.Table.parentNames_subset (table : Table) : table.parentNames ⊆ table.mentions := by
  unfold parentNames mentions
  cases table.body with
  | ordinary => exact List.Subset.refl _
  | fullText | splitter | view | catalog => exact List.nil_subset _

-- Tables that are added belong to no full-text table that was there.
theorem Compiler.Adds.knows_indexName (adds : compiler.Adds base made) {table : Table}
    (there : table ∈ base.temp.tables) {part : String} (known : part ∈ FullText.parts) :
    base.temp.Knows made (FullText.indexName table.name part) := by
  intro _
  rw [Table.find?, List.find?_eq_none]
  intro added member same
  rcases adds.name member with name | ⟨columns, -, free, name | ⟨own, listed, name, -⟩⟩
  · rw [name, sameName_comm, indexName_ne_tokens _ known] at same
    cases same
  · rw [name, sameName_comm, indexName_ne_probe _ known] at same
    cases same
  · rw [name] at same
    obtain ⟨owner, -⟩ := FullText.sameName_of_indexName listed known same
    rw [find?_private (isPrivate_probe columns), Table.find?, List.find?_eq_none] at free
    exact free table there (sameName_symm owner)

theorem Compiler.Adds.veils (adds : compiler.Adds base made) (unmentioned : base.Unmentioned made) :
    base.Veils fun name => ¬base.temp.Knows made name where
  congr {name other} same unknown known := by
    refine unknown fun missing => ?_
    rw [Table.find?_congr same] at missing ⊢
    exact known missing
  isPrivate name unknown := by
    obtain ⟨-, found⟩ := Classical.not_imp.1 unknown
    obtain ⟨table, found⟩ := Option.ne_none_iff_exists'.1 found
    have named : sameName table.name name = true := by simpa using List.find?_some found
    exact (IsPrivate.congr named).1 (adds.isPrivate (List.mem_of_find?_eq_some found))
  sources table member name source := by
    rw [not_not]
    rcases Table.mem_sources source with mentioned | ⟨part, known, rfl⟩
    · exact unmentioned table member name mentioned
    · exact adds.knows_indexName member known
  parents table member name parent :=
    not_not.2 (unmentioned table member name (table.parentNames_subset parent))

theorem Compiler.Leaves.resembles (regular : base.Regular) (leaves : compiler.Leaves base made database)
    (unmentioned : base.Unmentioned made) (remembers : base.Remembers database ∨ base.Rereads)
    (after : database.Regular) : base.Resembles (fun name => ¬base.temp.Knows made name) database := by
  have covers : base.Covers made :=
    (leaves.adds.veils unmentioned).covers fun name known => not_not.1 known
  exact {
    grown := ⟨made, leaves.grows, fun name known => not_not.1 known⟩
    condition := leaves.condition
    reading := reading_of_remembers leaves.condition leaves.fresh remembers
    opens := fun entry indexed =>
      (leaves.since covers).opens regular leaves.grows covers leaves.condition remembers indexed
    regular := after }

end

end TextQuery
