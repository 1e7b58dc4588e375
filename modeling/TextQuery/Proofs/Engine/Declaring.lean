import TextQuery.Proofs.Described
import TextQuery.Proofs.Engine.Making
import TextQuery.Proofs.Engine.Storing
import TextQuery.Proofs.Engine.Texts

set_option autoImplicit false

namespace TextQuery.Engine

open Text

structure Reference.Sound (declaration : TableDeclaration) (reference : Reference) : Prop where
  columns : reference.columns ≠ []
  declared : ∀ name ∈ reference.columns, (declaration.column? name).isSome = true
  width : ∀ names, reference.destinations = some names → names.length = reference.columns.length

structure TableDeclaration.Sound (declaration : TableDeclaration) : Prop where
  columns : declaration.columns.Pairwise fun a b => sameName a.name b.name = false
  primary : ∀ name ∈ declaration.primaryKey, (declaration.column? name).isSome = true
  references : ∀ reference ∈ declaration.references, reference.Sound declaration

def Table.Sound (table : Table) : Prop :=
  ∀ declaration rows, table.body = .ordinary declaration rows → declaration.Sound

/-- Of a table with rows: they are stored as they should be, and the tables that it refers to have names that
can be written in a statement. -/
structure Table.Stored (table : Table) : Prop where
  rows : ∀ declaration rows, table.body = .ordinary declaration rows → declaration.Stored rows
  parents : ∀ declaration rows, table.body = .ordinary declaration rows →
    ∀ reference ∈ declaration.references, '\x00' ∉ reference.table.toList

namespace TableDeclaration

-- The names of the tables that are referred to can be written if the declaration can.
theorem parents_writable {declaration : TableDeclaration} {table : String}
    (writable : '\x00' ∉ (declaration.sql table).toList) :
    ∀ reference ∈ declaration.references, '\x00' ∉ reference.table.toList := by
  intro reference member nul
  have named : '\x00' ∈ (referenceText reference).toList := by
    unfold referenceText
    simp only [String.toList_append, List.mem_append]
    simp [(mem_identifier (by decide)).2 nul]
  apply writable
  unfold sql
  extract_lets key parts
  have inside : '\x00' ∈ (String.intercalate ", " parts).toList :=
    mem_intercalate named ", " (List.mem_append_right _ (List.mem_map_of_mem member))
  simp only [String.toList_append, List.mem_append, inside, or_true, true_or]

theorem columnFault?_eq_none {table : String} {before names : List String}
    (clean : columnFault? table before names = none) :
    names.Pairwise (fun a b => sameName a b = false) ∧
      ∀ name ∈ names, ∀ other ∈ before, sameName name other = false := by
  induction names generalizing before with
  | nil => simp
  | cons name names ih =>
    unfold columnFault? at clean
    split at clean
    · cases clean
    · split at clean
      · cases clean
      · rename_i apart
        obtain ⟨distinct, earlier⟩ := ih clean
        have first : ∀ other ∈ before, sameName name other = false := by simpa using apart
        refine ⟨List.pairwise_cons.2 ⟨?_, distinct⟩, ?_⟩
        · intro other member
          rw [Bool.eq_false_iff]
          intro same
          have apart := earlier other member name List.mem_cons_self
          rw [sameName_symm same] at apart
          cases apart
        · intro found member other old
          rcases List.mem_cons.1 member with rfl | member
          · exact first other old
          · exact earlier found member other (List.mem_cons_of_mem _ old)

theorem keyFault?_eq_none {declaration : TableDeclaration} {key : List String}
    (clean : declaration.keyFault? key = none) :
    ∀ name ∈ key, (declaration.column? name).isSome = true := by
  unfold keyFault? at clean
  split at clean
  · cases clean
  · split at clean
    · cases clean
    · rename_i known
      intro name member
      simp only [List.any_eq_true, not_exists, not_and, Option.isNone_iff_eq_none] at known
      exact Option.isSome_iff_ne_none.2 (known name member)

theorem referenceFault?_eq_none {declaration : TableDeclaration} {reference : Reference}
    (clean : declaration.referenceFault? reference = none) : reference.Sound declaration := by
  unfold referenceFault? at clean
  dsimp only at clean
  split at clean
  · cases clean
  · rename_i named
    split at clean
    · cases clean
    · rename_i width
      have stray := Option.map_eq_none_iff.1 clean
      refine ⟨?_, ?_, ?_⟩
      · rintro empty
        simp [empty] at named
      · intro name member
        have known := List.find?_eq_none.1 stray name member
        exact Option.isSome_iff_ne_none.2 fun missing => known (by simp [missing])
      · intro names destinations
        simpa [destinations] using width

theorem fault?_eq_none {declaration : TableDeclaration} {table : String}
    (clean : declaration.fault? table = none) : declaration.Sound := by
  unfold fault? at clean
  dsimp only at clean
  split at clean
  · cases clean
  · obtain ⟨columns, clean⟩ := Option.or_eq_none_iff.1 clean
    obtain ⟨keys, clean⟩ := Option.or_eq_none_iff.1 clean
    obtain ⟨references, -⟩ := Option.or_eq_none_iff.1 clean
    rw [List.findSome?_eq_none_iff] at keys references
    refine ⟨?_, ?_, ?_⟩
    · exact List.pairwise_map.1 (columnFault?_eq_none columns).1
    · intro name member
      refine keyFault?_eq_none (keys declaration.primaryKey ?_) name member
      rw [if_neg (by intro empty; simp [List.isEmpty_iff.1 empty] at member)]
      simp
    · exact fun reference member => referenceFault?_eq_none (references reference member)

end TableDeclaration

namespace FullText

theorem folded_contentName (position : Nat) :
    folded ("c" ++ toString position) = 'c' :: Nat.toDigits 10 position := by
  have digits : (Nat.toDigits 10 position).map Char.toLower = Nat.toDigits 10 position := by
    refine Eq.trans (List.map_congr_left ?_) (List.map_id _)
    intro c member
    have digit := Nat.isDigit_of_mem_toDigits (by omega) (by omega) member
    simp only [Char.isDigit, Bool.and_eq_true, decide_eq_true_eq] at digit
    have low := UInt32.le_iff_toNat_le.1 digit.2
    unfold Char.toLower
    rw [dif_neg]
    · rfl
    · rintro ⟨capital, -⟩
      have high := UInt32.le_iff_toNat_le.1 capital
      have bounds : 'A'.val.toNat = 65 ∧ '9'.val.toNat = 57 := by decide
      omega
  simp [folded, digits]

-- The columns of the contents are numbered.
theorem contentNames_pairwise (index : FullText) :
    ("id" :: index.contentNames).Pairwise fun a b => sameName a b = false := by
  have apart {a b : String} (other : folded a ≠ folded b) : sameName a b = false :=
    Bool.eq_false_iff.2 (mt sameName_iff_folded.1 other)
  rw [List.pairwise_cons]
  constructor
  · intro name member
    obtain ⟨position, -, rfl⟩ := List.mem_map.1 member
    apply apart
    rw [folded_contentName]
    intro same
    have first : folded "id" = ['i', 'd'] := by decide
    rw [first] at same
    exact absurd (List.cons.inj same).1 (by decide)
  · refine List.pairwise_map.2 (List.nodup_range.imp ?_)
    intro position other different
    apply apart
    rw [folded_contentName, folded_contentName]
    intro same
    have value := congrArg (fun digits => Nat.ofDigitChars 10 digits 0) (List.cons.inj same).2
    simp only [Nat.ofDigitChars_toDigits (by omega : 1 < 10) (by omega)] at value
    exact different value

theorem sound_numberedTable {table part : String} {columns : List Column} {rows : List StoredRow}
    (distinct : ((idColumn :: columns).map Column.name).Pairwise fun a b => sameName a b = false) :
    (numberedTable table part columns rows).Sound := by
  intro declaration stored body
  cases body
  refine ⟨?_, ?_, by simp⟩
  · exact List.pairwise_map.1 distinct
  · intro name member
    rw [List.mem_singleton.1 member, TableDeclaration.column?, Column.find?,
      List.find?_cons_of_pos (by simp [idColumn, sameName_refl])]
    rfl

theorem sound_keyedTable {table part columns : String} {names key : List String}
    {rows : List StoredRow} (distinct : names.Pairwise fun a b => sameName a b = false)
    (inside : ∀ name ∈ key, (Column.find? (plainColumns names) name).isSome = true) :
    (keyedTable table part names key columns rows).Sound := by
  intro declaration stored body
  cases body
  refine ⟨?_, inside, by simp⟩
  exact List.pairwise_map.2 distinct

theorem sound_tableOf (index : FullText) (table part : String) : (index.tableOf table part).Sound := by
  unfold tableOf
  split
  · exact sound_numberedTable (by decide)
  · exact sound_keyedTable (by decide) (by decide)
  · apply sound_numberedTable
    rw [List.map_cons, plainColumns, List.map_map]
    exact (List.map_id _).symm ▸ index.contentNames_pairwise
  · exact sound_numberedTable (by decide)
  · exact sound_keyedTable (by decide) (by decide)

theorem stored_keyedTable {table part columns : String} {names key : List String} {rows : List StoredRow}
    (width : ∀ row ∈ rows, row.cells.length = names.length)
    (fits : ∀ row ∈ rows, Affinity.fits row.rowid = true) :
    (keyedTable table part names key columns rows).Stored := by
  constructor <;> rintro declaration stored ⟨⟩
  · refine ⟨by simpa [plainColumns] using width, fits, by simp, ?_⟩
    rintro column ⟨⟩
  · simp

-- A table is stored without rows, or it is the index itself before there is any word in it.
theorem stored_numberedTable {table part : String} {columns : List Column} {rows : List StoredRow}
    (stored : TableDeclaration.Stored { columns := idColumn :: columns, primaryKey := ["id"] } rows) :
    (numberedTable table part columns rows).Stored := by
  constructor <;> rintro declaration written ⟨⟩
  · exact stored
  · simp

theorem stored_emptyIndex : TableDeclaration.Stored
    { columns := [idColumn, ⟨"block", "BLOB"⟩], primaryKey := ["id"] } IndexRecord.emptyIndex := by
  refine ⟨by decide, by decide, fun _ => by decide, ?_⟩
  intro column found
  have known : TableDeclaration.rowidColumn?
      { columns := [idColumn, ⟨"block", "BLOB"⟩], primaryKey := ["id"] } = some idColumn := by decide
  rw [known] at found
  cases found
  decide

theorem stored_tableOf (index : FullText) (table part : String) : (index.tableOf table part).Stored := by
  unfold tableOf
  split
  · exact stored_numberedTable stored_emptyIndex
  · exact stored_keyedTable (by simp) (by simp)
  · exact stored_numberedTable TableDeclaration.stored_nil
  · exact stored_numberedTable TableDeclaration.stored_nil
  · exact stored_keyedTable (by decide) (by decide)

theorem written_tableOf (index : FullText) (table part : String) : (index.tableOf table part).Written := by
  have ordinary : ∃ declaration rows, (index.tableOf table part).body = .ordinary declaration rows := by
    unfold tableOf
    split <;> exact ⟨_, _, rfl⟩
  obtain ⟨declaration, rows, body⟩ := ordinary
  have same : index.tableOf table part =
      ⟨indexName table part, (index.tableOf table part).sql, .ordinary declaration rows⟩ := by
    rw [← body, ← index.tableOf_name table part]
  rw [same]
  exact ⟨_, .part index table part declaration rows⟩

end FullText

/-- Tables that are made for one of a name, in a schema in which there is nothing of their names. -/
structure Adds (home : Schema) (table : String) (tables : List Table) : Prop where
  names : MadeFor table tables
  vacant : ∀ made ∈ tables, home.find? made.name = none
  distinct : tables.Pairwise fun a b => sameName a.name b.name = false
  sound : ∀ made ∈ tables, made.Sound
  stored : ∀ made ∈ tables, made.Stored
  written : ∀ made ∈ tables, made.Written

section

variable {home : Schema} {table : String}

theorem adds_singleton {made : Table} (name : made.name = table) (vacant : home.find? table = none)
    (sound : made.Sound) (stored : made.Stored) (written : made.Written) : Adds home table [made] where
  names other member := .inl (by rw [List.mem_singleton.1 member, name])
  vacant other member := by rw [List.mem_singleton.1 member, name, vacant]
  distinct := List.pairwise_singleton _ _
  sound other member := by rwa [List.mem_singleton.1 member]
  stored other member := by rwa [List.mem_singleton.1 member]
  written other member := by rwa [List.mem_singleton.1 member]

-- Of a table without rows there is nothing to say.
theorem adds_virtual {made : Table} (name : made.name = table) (vacant : home.find? table = none)
    (other : ∀ declaration rows, made.body ≠ .ordinary declaration rows) (written : made.Written) :
    Adds home table [made] := by
  refine adds_singleton name vacant ?_ ⟨?_, ?_⟩ written
  all_goals exact fun declaration rows body => absurd body (other declaration rows)

-- No part of a name makes it the name itself, and no part comes twice.
theorem FullText.distinct_indexTables (index : FullText) (table sql : String) :
    (⟨table, sql, .fullText index⟩ :: index.indexTables table).Pairwise
      fun a b => sameName a.name b.name = false := by
  have longer {part : String} : sameName table (FullText.indexName table part) = false := by
    rw [Bool.eq_false_iff]
    intro same
    have length := congrArg List.length (sameName_iff_folded.1 same)
    simp [folded, FullText.indexName] at length
  rw [List.pairwise_cons]
  constructor
  · intro made member
    obtain ⟨part, -, name⟩ := FullText.indexTables_name member
    rw [name]
    exact longer
  · rw [FullText.indexTables_eq]
    refine List.pairwise_map.2 ?_
    have parts : index.indexParts.Nodup := by
      unfold FullText.indexParts
      split <;> split <;> decide
    refine parts.imp_of_mem ?_
    intro part other member otherMember different
    rw [FullText.tableOf_name, FullText.tableOf_name, Bool.eq_false_iff]
    intro same
    exact different (FullText.sameName_of_indexName (FullText.mem_parts member)
      (FullText.mem_parts otherMember) same).2

theorem adds_make {sql : String} {arguments : List (List Char)} {tables : List Table}
    (vacant : home.find? table = none)
    (written : ∀ index, Table.Written ⟨table, sql, .fullText index⟩)
    (made : FullText.make home table sql arguments = .ok tables) : Adds home table tables := by
  obtain ⟨index, -, free, -, rfl⟩ := FullText.make_eq_ok made
  refine ⟨madeFor_make made, ?_, index.distinct_indexTables table sql, ?_, ?_, ?_⟩
  · intro made member
    rcases List.mem_cons.1 member with rfl | member
    · exact vacant
    · obtain ⟨part, found, name⟩ := FullText.indexTables_name member
      rw [name]
      exact FullText.forM_checkVacant.1 free part found
  all_goals
    rw [List.forall_mem_cons, FullText.indexTables_eq, List.forall_mem_map]
  · refine ⟨?_, fun part _ => index.sound_tableOf table part⟩
    rintro declaration rows ⟨⟩
  · refine ⟨?_, fun part _ => index.stored_tableOf table part⟩
    constructor <;> rintro declaration rows ⟨⟩
  · exact ⟨written index, fun part _ => index.written_tableOf table part⟩

theorem adds_makeTables {clause : String} {columns options : List String} {arguments : List (List Char)}
    {tables : List Table} (vacant : home.find? table = none)
    (made : Change.makeTables home (Change.moduleOf clause) table
      (FullText.sql table (clause ++ " ") (columns.map identifier ++ options)) arguments = .ok tables) :
    Adds home table tables := by
  unfold Change.makeTables at made
  split at made
  · rename_i named
    exact adds_make vacant (fun index => ⟨_, .fullText table clause columns options index named⟩) made
  · rename_i named
    obtain ⟨splitter, -, made⟩ := exists_of_bind_eq_ok made
    cases made
    exact adds_virtual rfl vacant (by simp) ⟨_, .splitter table clause columns options splitter named⟩
  · cases made

-- The helper tables of tokenizers and of probes.
theorem adds_tokens {choice : TokenizerChoice} (vacant : home.find? table = none) (splitter : Token.Splitter) :
    Adds home table [⟨table, TokenTable.sql table choice, .splitter splitter⟩] :=
  adds_virtual rfl vacant (by simp) ⟨_, .tokens table choice splitter⟩

theorem adds_probe {columns : List String} {arguments : List (List Char)} {tables : List Table}
    (vacant : home.find? table = none)
    (made : FullText.make home table (FullText.sql table fullTextClause (columns.map identifier)) arguments =
      .ok tables) : Adds home table tables :=
  adds_make vacant (fun index => ⟨_, .probe table columns index⟩) made

end

end TextQuery.Engine
