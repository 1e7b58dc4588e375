import TextQuery.Proofs.Engine.Keeping

set_option autoImplicit false

namespace TextQuery.Engine

open Text

namespace Affinity

theorem fits_iff {value : Int} :
    fits value = true ↔ -9223372036854775808 ≤ value ∧ value < 9223372036854775808 := by
  simp [fits]

theorem fits_narrow {value : Number.Binary64} {whole : Int} (found : narrow value = .int whole) :
    fits whole = true := by
  have bound : Nat.pow 2 63 = 9223372036854775808 := by decide
  unfold narrow at found
  split at found
  · split at found
    · rename_i inside
      cases found
      simp only [bound, Bool.and_eq_true, decide_eq_true_eq] at inside
      rw [fits_iff]
      omega
    · cases found
  · cases found

theorem fits_readNumber? {text : String} {value : Int} (found : readNumber? text = some (.int value)) :
    fits value = true := by
  have powered {power : Option Int} {number : Int → Number.Binary64}
      (found : (power.map fun power => narrow (number power)) = some (.int value)) : fits value = true := by
    obtain ⟨power, -, found⟩ := Option.map_eq_some_iff.1 found
    exact fits_narrow found
  have wide {number : Int} {real : Number.Binary64}
      (found : (if fits number then Cell.int number else narrow real) = .int value) : fits value = true := by
    split at found
    · rename_i inside
      cases found
      exact inside
    · exact fits_narrow found
  unfold readNumber? at found
  dsimp only at found
  split at found
  · split at found
    · cases found
    · exact wide (Option.some.inj found)
  · split at found
    · cases found
    · exact powered found
  · split at found
    · cases found
    · exact powered found

theorem fits_toNumber {cell : Cell} {value : Int} (fits : Change.fitsCell cell = true)
    (found : toNumber cell = .int value) : Affinity.fits value = true := by
  cases cell with
  | int number =>
    cases found
    exact fits
  | real number => exact fits_narrow found
  | text number =>
    dsimp only [toNumber] at found
    cases read : readNumber? number with
    | none =>
      rw [read] at found
      cases found
    | some cell =>
      rw [read] at found
      cases found
      exact fits_readNumber? read
  | null | blob => cases found

end Affinity

namespace Column

variable {columns : List Column} {name other : String} {row : StoredRow}

theorem cell_congr (same : sameName name other = true) : cell columns row name = cell columns row other := by
  unfold cell
  congr 2
  funext entry
  exact sameName_congr same entry.1.name

-- Where each cell was made from its column, so was the one that is found by its name.
theorem cell_zip {column : Column} (found : find? columns name = some column) (rowid : Int)
    {cells : List Cell} (width : cells.length = columns.length) (value : Column → Cell → Cell) :
    ∃ given, cell columns ⟨rowid, (columns.zip cells).map fun (column, cell) => value column cell⟩ name =
      value column given := by
  induction columns generalizing cells with
  | nil => cases found
  | cons first columns ih =>
    cases cells with
    | nil => simp at width
    | cons given cells =>
      unfold find? at found
      unfold cell at ih ⊢
      rw [List.find?_cons] at found
      rw [List.zip_cons_cons, List.map_cons, List.zip_cons_cons, List.find?_cons]
      cases named : sameName first.name name with
      | true =>
        rw [named] at found
        cases found
        exact ⟨given, rfl⟩
      | false =>
        rw [named] at found
        exact ih found (by simpa using width)

end Column

namespace TableDeclaration

variable {declaration : TableDeclaration} {table : String} {rows : List StoredRow} {row : StoredRow}
  {cells : List Cell}

structure Stored (declaration : TableDeclaration) (rows : List StoredRow) : Prop where
  width : ∀ row ∈ rows, row.cells.length = declaration.columns.length
  fits : ∀ row ∈ rows, Affinity.fits row.rowid = true
  ordered : declaration.withoutRowid = false → rows.Pairwise fun a b => a.rowid < b.rowid
  numbered : ∀ column, declaration.rowidColumn? = some column →
    ∀ row ∈ rows, declaration.cell row column.name = .int row.rowid

theorem stored_nil : declaration.Stored [] := ⟨by simp, by simp, fun _ => .nil, by simp⟩

theorem Stored.sublist (stored : declaration.Stored rows) {fewer : List StoredRow}
    (sublist : fewer.Sublist rows) : declaration.Stored fewer where
  width row member := stored.width row (sublist.subset member)
  fits row member := stored.fits row (sublist.subset member)
  ordered numbers := (stored.ordered numbers).sublist sublist
  numbered column found row member := stored.numbered column found row (sublist.subset member)

theorem nextRowid_cases {number : Int} (done : nextRowid rows = .ok number) :
    (rows = [] ∧ number = 1) ∨
    (∃ last, rows.getLast? = some last ∧ number = last.rowid + 1 ∧ Affinity.fits number = true) ∨
    ((∃ place : Nat, number = place ∧ place ≤ rowidTrials) ∧ ∀ row ∈ rows, row.rowid ≠ number) := by
  unfold nextRowid at done
  split at done
  · rename_i empty
    cases done
    exact .inl ⟨List.getLast?_eq_none_iff.1 empty, rfl⟩
  · rename_i last found
    split at done
    · rename_i inside
      cases done
      exact .inr (.inl ⟨last, found, rfl, inside⟩)
    · dsimp only at done
      split at done
      · rename_i free
        cases done
        obtain ⟨place, member, rfl⟩ := List.mem_map.1 (List.mem_of_find?_eq_some free)
        have bounds := List.mem_range'_1.1 member
        exact .inr (.inr ⟨⟨place, rfl, by omega⟩, by simpa using List.find?_some free⟩)
      · cases done

theorem nextRowid_fits {number : Int} (done : nextRowid rows = .ok number) :
    Affinity.fits number = true := by
  rcases nextRowid_cases done with ⟨-, rfl⟩ | ⟨-, -, -, inside⟩ | ⟨⟨place, rfl, bound⟩, -⟩
  · decide
  · exact inside
  · rw [Affinity.fits_iff]
    have trials : rowidTrials = 100 := rfl
    omega

theorem nextRowid_apart (ordered : rows.Pairwise fun a b => a.rowid < b.rowid) {number : Int}
    (done : nextRowid rows = .ok number) : ∀ row ∈ rows, row.rowid ≠ number := by
  rcases nextRowid_cases done with ⟨rfl, -⟩ | ⟨last, found, rfl, -⟩ | ⟨-, apart⟩
  · simp
  · obtain ⟨before, rfl⟩ := List.getLast?_eq_some_iff.1 found
    intro row member
    rcases List.mem_append.1 member with earlier | here
    · have less := (List.pairwise_append.1 ordered).2.2 row earlier last (by simp)
      omega
    · rw [List.mem_singleton.1 here]
      omega
  · exact apart

theorem rowidOf_fits (fits : ∀ cell ∈ cells, Change.fitsCell cell = true) {number : Int}
    (done : declaration.rowidOf rows cells = .ok number) : Affinity.fits number = true := by
  unfold rowidOf at done
  split at done
  · exact nextRowid_fits done
  · rename_i column _
    split at done
    · exact nextRowid_fits done
    · rename_i value given
      cases done
      refine Affinity.fits_toNumber ?_ given
      -- The value of the column is one of the cells, or missing.
      unfold cell Column.cell
      cases found : (declaration.columns.zip cells).find? fun entry => sameName entry.1.name column.name with
      | none => rfl
      | some entry => exact fits _ (List.of_mem_zip (List.mem_of_find?_eq_some found)).2
    · cases done

theorem rowidColumn?_eq {column : Column} (found : declaration.rowidColumn? = some column) :
    declaration.withoutRowid = false ∧ ∃ name, declaration.primaryKey = [name] ∧
      declaration.column? name = some column ∧ isNumbering column = true := by
  unfold rowidColumn? at found
  split at found
  · rename_i name numbers key
    split at found
    · rename_i other known
      split at found
      · rename_i numbering
        cases found
        exact ⟨numbers, name, key, known, numbering⟩
      · cases found
    · cases found
  · cases found

theorem key_mem_uniqueKeys {column : Column} (found : declaration.rowidColumn? = some column) :
    declaration.primaryKey ∈ declaration.uniqueKeys := by
  obtain ⟨numbers, name, key, known, numbering⟩ := rowidColumn?_eq found
  have integer : declaration.hasIntegerKey = true := by
    rw [hasIntegerKey, key]
    simp [known, numbering]
  unfold uniqueKeys
  simp [integer, numbers]

theorem length_storedCells (width : cells.length = declaration.columns.length) (rowid : Int) :
    (declaration.storedCells rowid cells).length = declaration.columns.length := by
  rw [storedCells, List.length_map, List.length_zip, width, Nat.min_self]

theorem cell_storedCells {column : Column} (found : declaration.rowidColumn? = some column)
    (width : cells.length = declaration.columns.length) (rowid : Int) :
    declaration.cell ⟨rowid, declaration.storedCells rowid cells⟩ column.name = .int rowid := by
  obtain ⟨-, name, -, known, -⟩ := rowidColumn?_eq found
  have same : sameName column.name name = true := by simpa using List.find?_some known
  unfold cell
  rw [Column.cell_congr same]
  obtain ⟨given, made⟩ := Column.cell_zip known rowid width fun column cell =>
    if declaration.rowidColumn? = some column then .int rowid else Affinity.store column.type cell
  rw [if_pos found] at made
  exact made

theorem newRow_eq_ok (done : declaration.newRow table rows cells = .ok row) :
    declaration.rowidOf rows cells = .ok row.rowid ∧
      row = ⟨row.rowid, declaration.storedCells row.rowid cells⟩ := by
  unfold newRow at done
  obtain ⟨rowid, numbered, done⟩ := exists_of_bind_eq_ok done
  dsimp only at done
  split at done
  · cases done
  · cases done
    exact ⟨numbered, rfl⟩

theorem addRow_fits (fits : ∀ cell ∈ cells, Change.fitsCell cell = true) {added : StoredRow × List StoredRow}
    (done : declaration.addRow table rows cells = .ok added) : Affinity.fits added.1.rowid = true := by
  unfold addRow at done
  obtain ⟨row, new, done⟩ := exists_of_bind_eq_ok done
  split at done
  · cases done
  · cases done
    exact rowidOf_fits fits (newRow_eq_ok new).1

-- A row that has no number of another one, by the key that is the number or else by being the next one.
theorem newRow_apart (stored : declaration.Stored rows) (numbers : declaration.withoutRowid = false)
    (width : cells.length = declaration.columns.length)
    (new : declaration.newRow table rows cells = .ok row) {other : StoredRow} (member : other ∈ rows)
    (apart : ∀ key ∈ declaration.uniqueKeys, declaration.clashes [other] row key = false) :
    other.rowid ≠ row.rowid := by
  obtain ⟨numbered, made⟩ := newRow_eq_ok new
  cases found : declaration.rowidColumn? with
  | none =>
    rw [rowidOf, found] at numbered
    exact nextRowid_apart (stored.ordered numbers) numbered other member
  | some column =>
    obtain ⟨-, name, key, known, -⟩ := rowidColumn?_eq found
    have same : sameName column.name name = true := by simpa using List.find?_some known
    have here : declaration.cell row name = .int row.rowid := by
      rw [made, cell, ← Column.cell_congr same]
      exact cell_storedCells found width row.rowid
    have there : declaration.cell other name = .int other.rowid := by
      rw [cell, ← Column.cell_congr same]
      exact stored.numbered column found other member
    have free := apart _ (key_mem_uniqueKeys found)
    intro equal
    simp [clashes, key, TableDeclaration.cells, here, there, equal, sameCells, Affinity.same] at free

theorem placeRow_perm (rows : List StoredRow) : (declaration.placeRow row rows).Perm (row :: rows) := by
  induction rows with
  | nil => exact .refl _
  | cons other rows ih =>
    unfold placeRow
    split
    · exact (ih.cons other).trans (.swap row other rows)
    · exact .refl _

theorem placeRow_ordered (numbers : declaration.withoutRowid = false)
    (ordered : rows.Pairwise fun a b => a.rowid < b.rowid) (apart : ∀ other ∈ rows, other.rowid ≠ row.rowid) :
    (declaration.placeRow row rows).Pairwise fun a b => a.rowid < b.rowid := by
  induction rows with
  | nil => exact List.pairwise_singleton _ _
  | cons other rows ih =>
    obtain ⟨less, ordered⟩ := List.pairwise_cons.1 ordered
    obtain ⟨different, apart⟩ := List.forall_mem_cons.1 apart
    unfold placeRow
    split
    · rename_i before
      simp only [readBefore, numbers, Bool.false_eq_true, if_false, decide_eq_true_eq] at before
      refine List.pairwise_cons.2 ⟨?_, ih ordered apart⟩
      intro later member
      rcases List.mem_cons.1 ((placeRow_perm rows).subset member) with rfl | member
      · omega
      · exact less later member
    · rename_i behind
      simp only [readBefore, numbers, Bool.false_eq_true, if_false, decide_eq_true_eq] at behind
      refine List.pairwise_cons.2 ⟨?_, List.pairwise_cons.2 ⟨less, ordered⟩⟩
      intro later member
      rcases List.mem_cons.1 member with rfl | member
      · omega
      · have beyond := less later member
        omega

theorem Stored.placed (stored : declaration.Stored rows) (width : cells.length = declaration.columns.length)
    (fits : ∀ cell ∈ cells, Change.fitsCell cell = true) (new : declaration.newRow table rows cells = .ok row)
    {left : List StoredRow} (sublist : left.Sublist rows)
    (apart : ∀ other ∈ left, ∀ key ∈ declaration.uniqueKeys, declaration.clashes [other] row key = false) :
    declaration.Stored (declaration.placeRow row left) := by
  obtain ⟨numbered, made⟩ := newRow_eq_ok new
  have kept := stored.sublist sublist
  have split {P : StoredRow → Prop} (first : P row) (rest : ∀ other ∈ left, P other) :
      ∀ other ∈ declaration.placeRow row left, P other := fun other member =>
    List.forall_mem_cons.2 ⟨first, rest⟩ other ((placeRow_perm left).subset member)
  refine ⟨split ?_ kept.width, split (rowidOf_fits fits numbered) kept.fits, ?_, ?_⟩
  · rw [made]
    exact length_storedCells width row.rowid
  · intro numbers
    refine placeRow_ordered numbers (kept.ordered numbers) ?_
    exact fun other member => newRow_apart stored numbers width new (sublist.subset member) (apart other member)
  · intro column found
    refine split ?_ (kept.numbered column found)
    rw [made]
    exact cell_storedCells found width row.rowid

theorem clashes_of_mem {other : StoredRow} (member : other ∈ rows) {key : List String}
    (apart : declaration.clashes rows row key = false) : declaration.clashes [other] row key = false := by
  simp only [clashes, Bool.and_eq_false_iff, List.any_eq_false, List.mem_singleton, forall_eq] at apart ⊢
  exact apart.imp_right fun none => none other member

theorem Rewritten.stored {after : List StoredRow} (rewritten : declaration.Rewritten rows after)
    (stored : declaration.Stored rows) : declaration.Stored after := by
  cases rewritten with
  | kept keep => exact stored.sublist List.filter_sublist
  | added width fits done =>
    unfold addRow at done
    obtain ⟨row, new, done⟩ := exists_of_bind_eq_ok done
    split at done
    · cases done
    · rename_i free
      cases done
      refine stored.placed width fits new (.refl _) ?_
      intro other member key unique
      have apart := List.find?_eq_none.1 free key unique
      exact clashes_of_mem member (by simpa using apart)
  | replaced width fits done =>
    unfold replaceRow at done
    obtain ⟨row, new, done⟩ := exists_of_bind_eq_ok done
    cases done
    refine stored.placed width fits new List.filter_sublist ?_
    intro other member key unique
    have apart := (List.mem_filter.1 member).2
    simp only [Bool.not_eq_eq_eq_not, Bool.not_true, List.any_eq_false] at apart
    simpa using apart key unique

end TableDeclaration

end TextQuery.Engine
