import TextQuery.Proofs.ForeignKey.Declared
import TextQuery.Proofs.Frame.Lookups
import TextQuery.Proofs.Session.Orderly

set_option autoImplicit false

namespace TextQuery

open Engine Engine.Change Text

namespace Engine

structure Table.Violates (find : String → Option Table) (held : Table) (declaration : TableDeclaration)
    (rows : List StoredRow) (row : StoredRow) (numbered : Nat × Reference) (violation : Violation) :
    Prop where
  body : held.body = .ordinary declaration rows
  stands : row ∈ rows
  listed : numbered ∈ declaration.numberedReferences
  parents : ∀ reference ∈ declaration.references, ∃ parent, reference.parent find held.name = .ok parent
  told : violation =
    ⟨held.name, if declaration.withoutRowid then none else some row.rowid, numbered.2.table, numbered.1⟩

-- What a list of computations comes to, where none of them fails.
theorem map_of_mapM {ε α β : Type} {f : α → Except ε β} {entries : List α} {results : List β}
    (done : entries.mapM f = .ok results) : entries.map f = results.map .ok := by
  rw [← List.forall₂_eq_eq_eq, List.forall₂_map_left_iff, List.forall₂_map_right_iff]
  exact forall₂_of_mapM done

-- The parents of keys come with the keys, none of which is left out.
theorem parents_ok {find : String → Option Table} {name : String} {numbered : List (Nat × Reference)}
    {keys : List (Nat × Reference × Reference.Parent)}
    (done : numbered.mapM (fun (id, reference) => do return (id, reference, ← reference.parent find name)) =
      .ok keys) :
    keys.map (fun key => (key.1, key.2.1)) = numbered ∧
      ∀ key ∈ keys, key.2.1.parent find name = .ok key.2.2 := by
  induction numbered generalizing keys with
  | nil =>
    cases done
    simp
  | cons first numbered ih =>
    rw [List.mapM_cons] at done
    obtain ⟨key, found, done⟩ := exists_of_bind_eq_ok done
    obtain ⟨rest, others, done⟩ := exists_of_bind_eq_ok done
    obtain ⟨parent, known, found⟩ := exists_of_bind_eq_ok found
    cases found
    cases done
    obtain ⟨same, each⟩ := ih others
    exact ⟨by rw [List.map_cons, same], List.forall_mem_cons.2 ⟨known, each⟩⟩

theorem TableDeclaration.exists_numbered {declaration : TableDeclaration} {reference : Reference}
    (member : reference ∈ declaration.references) :
    ∃ id, (id, reference) ∈ declaration.numberedReferences := by
  have all : declaration.numberedReferences.map Prod.snd = declaration.references.reverse := by
    rw [numberedReferences, List.map_snd_zip (by simp)]
  obtain ⟨⟨id, _⟩, listed, rfl⟩ := List.mem_map.1 (all ▸ List.mem_reverse.2 member)
  exact ⟨id, listed⟩

theorem Table.violates_of_violations {find : String → Option Table} {held : Table} {found : List Violation}
    (checked : held.violations find = .ok found) {violation : Violation} (member : violation ∈ found) :
    ∃ declaration rows row numbered, held.Violates find declaration rows row numbered violation := by
  unfold violations at checked
  cases body : held.body with
  | ordinary declaration rows =>
    simp only [body] at checked
    obtain ⟨keys, parents, checked⟩ := exists_of_bind_eq_ok checked
    cases checked
    obtain ⟨row, stands, violated⟩ := List.mem_flatMap.1 member
    obtain ⟨⟨id, reference, parent⟩, key, told⟩ := List.mem_map.1 violated
    obtain ⟨same, each⟩ := parents_ok parents
    refine ⟨declaration, rows, row, (id, reference), body, stands, ?_, ?_, told.symm⟩
    · rw [← same]
      exact List.mem_map_of_mem (f := fun key => (key.1, key.2.1)) (List.mem_filter.1 key).1
    · intro other member
      obtain ⟨place, listed⟩ := TableDeclaration.exists_numbered member
      rw [← same] at listed
      obtain ⟨key, known, same⟩ := List.mem_map.1 listed
      cases same
      exact ⟨key.2.2, each key known⟩
  | fullText | splitter | view | catalog =>
    simp only [body] at checked
    cases checked
    simp at member

theorem Table.Violates.hasReferences {find : String → Option Table} {held : Table}
    {declaration : TableDeclaration} {rows : List StoredRow} {row : StoredRow} {numbered : Nat × Reference}
    {violation : Violation} (violates : held.Violates find declaration rows row numbered violation) :
    held.hasReferences = true := by
  have references := List.ne_nil_of_mem (TableDeclaration.reference_mem violates.listed)
  simpa [Table.hasReferences, violates.body] using references

-- A parent that could be compared with has rows, or there is none.
theorem Table.Violates.settled {home : Schema} {held : Table} {declaration : TableDeclaration}
    {rows : List StoredRow} {row : StoredRow} {numbered : Nat × Reference} {violation : Violation}
    (violates : held.Violates home.find? declaration rows row numbered violation) (stored : held.Stored) :
    held.Settled home := by
  intro other written body reference member implicit
  obtain ⟨rfl, rfl⟩ := Body.ordinary.inj (violates.body.symm.trans body)
  obtain ⟨parent, known⟩ := violates.parents reference member
  unfold Reference.parent at known
  cases there : home.find? reference.table with
  | none => exact .inr ⟨there, stored.parents declaration rows body reference member⟩
  | some table =>
    simp only [there] at known
    split at known
    · rename_i declared stored body
      exact .inl ⟨table, declared, stored, there, body⟩
    · cases known

-- The keys of a table have numbers of their own.
theorem Table.find?_foreignKeys {home : Schema} {held : Table} {declaration : TableDeclaration}
    {rows : List StoredRow} (body : held.body = .ordinary declaration rows) {numbered : Nat × Reference}
    (listed : numbered ∈ declaration.numberedReferences) :
    (held.foreignKeys home).find? (fun key => key.id == (numbered.1 : Int)) =
      some (numbered.2.key home declaration numbered.1) := by
  rw [foreignKeys_eq body, List.find?_map, Option.map_eq_some_iff]
  refine ⟨numbered, ?_, rfl⟩
  have apart := declaration.numberedReferences_apart
  generalize declaration.numberedReferences = all at apart listed
  induction all with
  | nil => simp at listed
  | cons first all ih =>
    obtain ⟨different, apart⟩ := List.pairwise_cons.1 apart
    rcases List.mem_cons.1 listed with rfl | listed
    · exact List.find?_cons_of_pos (by simp [Reference.key])
    · rw [List.find?_cons_of_neg, ih apart listed]
      have other := mt Int.natCast_inj.1 (different numbered listed)
      simpa [Reference.key] using other

-- The cell of a column is where the column is, and columns have names of their own.
theorem Column.any_zip {columns : List Column} {name : String} {column : Column}
    (found : find? columns name = some column)
    (distinct : columns.Pairwise fun a b => sameName a.name b.name = false) {row : StoredRow}
    (width : row.cells.length = columns.length) (holds : Cell → Bool) :
    ((columns.zip row.cells).any fun entry => entry.1 == column && holds entry.2) =
      holds (cell columns row name) := by
  obtain ⟨rowid, cells⟩ := row
  unfold find? at found
  unfold cell
  dsimp only at width ⊢
  induction columns generalizing cells with
  | nil => cases found
  | cons first columns ih =>
    cases cells with
    | nil => simp at width
    | cons given cells =>
      obtain ⟨apart, distinct⟩ := List.pairwise_cons.1 distinct
      rw [List.find?_cons] at found
      rw [List.zip_cons_cons, List.any_cons, List.find?_cons]
      cases named : sameName first.name name with
      | true =>
        rw [named] at found
        cases found
        have others : ((columns.zip cells).any fun entry => entry.1 == column && holds entry.2) = false := by
          rw [List.any_eq_false]
          rintro ⟨other, value⟩ member both
          have other := apart _ (List.of_mem_zip member).1
          simp only [Bool.and_eq_true, beq_iff_eq] at both
          rw [both.1, sameName_refl] at other
          cases other
        rw [others]
        simp
      | false =>
        rw [named] at found
        have different : (first == column) = false := by
          rw [beq_eq_false_iff_ne]
          rintro rfl
          have same : sameName first.name name = true := by simpa using List.find?_some found
          rw [named] at same
          cases same
        rw [different, Bool.false_and, Bool.false_or]
        exact ih found distinct cells (by simpa using width)

namespace TableDeclaration

variable {declaration : TableDeclaration} {rows : List StoredRow} {row : StoredRow} {rowid : Int}

def named (declaration : TableDeclaration) (row : StoredRow) : Row :=
  (declaration.columns.map Column.name).zip row.cells

/-- Whether a row is found by a number. A column that is named like the numbers is taken for them. -/
def selects (declaration : TableDeclaration) (rowid : Int) (row : StoredRow) : Bool :=
  match declaration.column? rowidName with
  | none => row.rowid == rowid
  | some column =>
    Affinity.same (Affinity.compared column.type (.int rowid)) (declaration.cell row rowidName)

/-- Whether the numbers of rows are found under their name: no column has it, or the one that holds them. -/
def TellsRowid (declaration : TableDeclaration) : Prop :=
  declaration.column? rowidName = none ∨ declaration.column? rowidName = declaration.rowidColumn?

theorem rowsOfNumber_perm (numbers : declaration.withoutRowid = false) (sound : declaration.Sound)
    (stored : declaration.Stored rows) (home : String) (rowid : Int) :
    ∃ found, (ordinaryRelation home declaration rows).rowsOfNumber rowid = .ok found ∧
      found.Perm (rows.filter (declaration.selects rowid)) := by
  have sorted (relation : Relation) (column : Column) (rows : List StoredRow) :
      (relation.sortedByKey column rows).Perm rows := by
    unfold Relation.sortedByKey
    split
    · exact .refl _
    · exact List.mergeSort_perm _ _
  have hidden : (ordinaryRelation home declaration rows).hidingColumn? = declaration.column? rowidName := rfl
  have numbering : (ordinaryRelation home declaration rows).numbering = .numbered := by
    simp [ordinaryRelation, numbers]
  unfold Relation.rowsOfNumber
  rw [hidden, numbering]
  cases found : declaration.column? rowidName with
  | none =>
    refine ⟨_, rfl, .of_eq (List.filter_congr ?_)⟩
    intro row _
    rw [selects, found]
  | some column =>
    refine ⟨_, rfl, (sorted _ _ _).trans (.of_eq (List.filter_congr ?_))⟩
    intro row member
    rw [selects, found]
    exact Column.any_zip found sound.columns (stored.width row member) _

theorem type_of_isNumbering {column : Column} (numbering : isNumbering column = true) :
    column.type = .integer := by
  have upper (c : Char) : c.toLower.toUpper = c.toUpper := eq_toLower (by decide) c
  have folded : column.declared.toList.map Char.toLower = "INTEGER".toList.map Char.toLower :=
    sameName_iff_folded.1 numbering
  have text : column.declared.toList.map Char.toUpper = "INTEGER".toList := by
    have same := congrArg (List.map Char.toUpper) folded
    simp only [List.map_map] at same
    have each : Char.toUpper ∘ Char.toLower = Char.toUpper := funext upper
    rw [each] at same
    exact same
  unfold Column.type ColumnType.ofDeclared
  rw [text]
  decide

theorem selects_eq (tells : declaration.TellsRowid) (stored : declaration.Stored rows)
    (member : row ∈ rows) : declaration.selects rowid row = (row.rowid == rowid) := by
  unfold selects
  cases found : declaration.column? rowidName with
  | none => rfl
  | some column =>
    have holds : declaration.rowidColumn? = some column := by
      rcases tells with hidden | same
      · cases hidden.symm.trans found
      · exact same.symm.trans found
    have named : sameName column.name rowidName = true := by simpa using List.find?_some found
    have value : declaration.cell row rowidName = .int row.rowid := by
      rw [cell, ← Column.cell_congr named]
      exact stored.numbered column holds row member
    obtain ⟨-, -, -, -, numbering⟩ := rowidColumn?_eq holds
    dsimp only
    rw [value, type_of_isNumbering numbering]
    exact Bool.beq_comm

-- The numbers of rows are told apart.
theorem filter_rowid (ordered : rows.Pairwise fun a b => a.rowid < b.rowid) (member : row ∈ rows) :
    rows.filter (fun other => other.rowid == row.rowid) = [row] := by
  induction rows with
  | nil => simp at member
  | cons first rows ih =>
    obtain ⟨less, ordered⟩ := List.pairwise_cons.1 ordered
    rcases List.mem_cons.1 member with rfl | member
    · have none : rows.filter (fun other => other.rowid == row.rowid) = [] := by
        rw [List.filter_eq_nil_iff]
        intro other inside same
        have beyond := less other inside
        have same := beq_iff_eq.1 same
        omega
      rw [List.filter_cons_of_pos (by simp), none]
    · have beyond := less row member
      rw [List.filter_cons_of_neg (by simp; omega), ih ordered member]

end TableDeclaration

theorem Database.Follows.foreignKeyCheck {database after : Database} (follows : database.Follows after)
    (schema : String) (table : Option String) :
    after.foreignKeyCheck schema table = database.foreignKeyCheck schema table := by
  unfold Database.foreignKeyCheck Database.described
  simp only [follows.schemaOr, follows.touch]

-- Of one table that can be looked at its own violations are found.
theorem Database.foreignKeyCheck_table {database : Database} {schema table : String} {home : Schema}
    {held : Table} (found : database.schema? schema = some home) (there : home.find? table = some held)
    (untouched : database.touch home.name = .ok ()) :
    database.foreignKeyCheck schema (some table) = held.violations home.find? := by
  rw [foreignKeyCheck_eq found, Schema.checked?, there, Option.map_some]
  dsimp only
  rw [List.mapM_cons, List.mapM_nil, untouched]
  cases held.violations home.find? with
  | error fault => rfl
  | ok violations => cases [held].any Table.hasReferences <;> exact congrArg Except.ok (List.append_nil _)

namespace Change

variable {database : Database} {schema : String} {home : Schema}

theorem answer_foreignKeyCheck (regular : database.Regular) (found : database.schema? schema = some home)
    {table : Option String} (named : ∀ name, table = some name → Writable name) :
    ∃ after, answer (.foreignKeyCheck schema table) database =
        (database.reading >>= fun _ => database.foreignKeyCheck schema table, after) ∧
      database.Follows after := by
  have plain : Writable "foreign_key_check(" ∧ Writable "foreign_key_check" ∧ Writable "PRAGMA " ∧
      Writable "." := by
    unfold Writable
    decide
  have first := writable_schema regular found
  have writable : Writable (Statement.foreignKeyCheck schema table).text := by
    cases table with
    | none =>
      exact writable_append (writable_append (writable_append plain.2.2.1 (writable_identifier first))
        plain.2.2.2) plain.2.1
    | some name => exact writable_call plain.1 first (named name rfl)
  have begins : "PRAGMA ".toList <+: (Statement.foreignKeyCheck schema table).text.toList := by
    cases table with
    | none => exact prefix_append (prefix_append (prefix_append List.prefix_rfl _) _) _
    | some name =>
      exact prefix_append (prefix_append (prefix_append (prefix_append (prefix_append List.prefix_rfl _) _) _) _) _
  refine answer_lookup (.foreignKeyCheck schema table)
    (fun database => database.foreignKeyCheck schema table) rfl rfl ?_ (fun _ _ => rfl)
    (by simp [Database.pragmaSchema?, found]) writable (.inr (regular.unknown begins (by decide)))
  exact fun after follows => follows.foreignKeyCheck schema table

theorem answer_selectRow (regular : database.Regular) (found : database.schema? schema = some home)
    (ready : database.access home.name = .ok ()) {table : String} {held : Table}
    (there : home.find? table = some held) {declaration : TableDeclaration} {rows : List StoredRow}
    (body : held.body = .ordinary declaration rows) (sound : declaration.Sound)
    (stored : declaration.Stored rows) (numbers : declaration.withoutRowid = false) {rowid : Int}
    (fits : Affinity.fits rowid = true) :
    ∃ (rowsFound : List StoredRow) (after : Database), answer (.selectRow schema table rowid) database =
        (.ok (rowsFound.head?.map declaration.named), after) ∧
      rowsFound.Perm (rows.filter (declaration.selects rowid)) ∧ database.Follows after := by
  obtain ⟨rowsFound, number, perm⟩ :=
    declaration.rowsOfNumber_perm numbers sound stored home.name rowid
  have plain : Writable "SELECT * FROM " ∧ Writable "." ∧ Writable " WHERE rowid = ?" := by
    unfold Writable
    decide
  have writable : Writable (Statement.selectRow schema table rowid).text :=
    writable_append (writable_append (writable_append (writable_append plain.1
      (writable_identifier (writable_schema regular found))) plain.2.1)
      (writable_identifier (writable_table regular found there))) plain.2.2
  have begins : "SELECT * FROM ".toList <+: (Statement.selectRow schema table rowid).text.toList :=
    prefix_append (prefix_append (prefix_append (prefix_append List.prefix_rfl _) _) _) _
  have responds : ∀ after, database.Follows after → respond (.selectRow schema table rowid) after =
      (.ok (rowsFound.head?.map declaration.named), after) := by
    intro after follows
    have located : after.locate schema table = .ok (home, held) := by
      rw [follows.locate, Database.locate, Database.schemaOr_eq_ok.2 found]
      simp only [bind, Except.bind, there]
      rfl
    have checked : (ordinaryRelation home.name declaration rows).checkNumbered = .ok () := by
      simp [Relation.checkNumbered, ordinaryRelation, numbers]
    have untouched : touch home.name after = (.ok (), after) := by
      rw [touch_eq, follows.touch, (Database.access_eq_ok.1 ready).2]
    refine (selectRow_eq located body rowid).trans ?_
    unfold rowOf
    rw [bind_lift, checked]
    simp only [fits, Bool.not_true, Bool.false_eq_true, if_false]
    rw [number]
    exact bind_ok _ untouched
  obtain ⟨after, answered, follows⟩ := answer_quiet rfl responds
    (fun _ => openTarget_ordinary rfl regular found there body) (by simp [Database.pragmaSchema?]) writable
    (.inr (regular.unknown begins (by decide)))
  refine ⟨rowsFound, after, ?_, perm, follows⟩
  rw [answered, (Database.access_eq_ok.1 ready).1]
  rfl

end Change

end Engine

end TextQuery
