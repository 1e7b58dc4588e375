import TextQuery.Cell
import TextQuery.Proofs.Number.Reading

set_option autoImplicit false

namespace TextQuery

open Number

namespace Cell

def readEscaped : List Char → Option (List Char × List Char)
  | [] => none
  | '"' :: rest => some ([], rest)
  | '\\' :: c :: rest => (readEscaped rest).map fun (before, rest) => (c :: before, rest)
  | c :: rest => (readEscaped rest).map fun (before, rest) => (c :: before, rest)

theorem readEscaped_escape (c : Char) (rest : List Char) :
    readEscaped (escape c ++ rest) = (readEscaped rest).map fun (before, rest) => (c :: before, rest) := by
  by_cases marked : c = '"' ∨ c = '\\'
  · have escaped : escape c = ['\\', c] := by simp [escape, marked]
    simp [escaped, readEscaped]
  · have plain : escape c = [c] := by simp [escape, marked]
    obtain ⟨quote, backslash⟩ := not_or.1 marked
    rw [plain, List.singleton_append, readEscaped]
    · exact quote
    · exact fun _ _ here _ => backslash here

theorem readEscaped_text (text rest : List Char) :
    readEscaped (text.flatMap escape ++ '"' :: rest) = some (text, rest) := by
  induction text with
  | nil => rfl
  | cons c text ih =>
    rw [List.flatMap_cons, List.append_assoc, readEscaped_escape, ih]
    rfl

def hexValue (digit : Char) : Nat :=
  if isDigit digit then digitValue digit else digit.toNat - 'A'.toNat + 10

def byteOf (high low : Char) : UInt8 := UInt8.ofNat (16 * hexValue high + hexValue low)

def readBytes : List Char → Option (List UInt8 × List Char)
  | '\'' :: rest => some ([], rest)
  | high :: low :: rest => (readBytes rest).map fun (bytes, rest) => (byteOf high low :: bytes, rest)
  | _ => none

theorem hexByte_eq (byte : UInt8) :
    ∃ high low, hexByte byte = [high, low] ∧ high ≠ '\'' ∧ byteOf high low = byte := by
  -- All bytes, by number.
  have digits : ∀ number < 256, (hexByte (UInt8.ofNat number)).length = 2 ∧
      (hexByte (UInt8.ofNat number)).head? ≠ some '\'' ∧
      (hexByte (UInt8.ofNat number)).foldl (fun value digit => 16 * value + hexValue digit) 0 = number := by
    decide +kernel
  obtain ⟨pair, noMark, value⟩ := digits byte.toNat byte.toNat_lt
  rw [UInt8.ofNat_toNat] at pair noMark value
  obtain ⟨high, low, both⟩ := List.length_eq_two.1 pair
  rw [both] at noMark value
  refine ⟨high, low, both, by simpa using noMark, ?_⟩
  rw [byteOf, ← UInt8.ofNat_toNat (x := byte), ← value]
  simp

theorem readBytes_bytes (bytes : List UInt8) (rest : List Char) :
    readBytes (bytes.flatMap hexByte ++ '\'' :: rest) = some (bytes, rest) := by
  induction bytes with
  | nil => rfl
  | cons byte bytes ih =>
    obtain ⟨high, low, digits, noMark, value⟩ := hexByte_eq byte
    have split : (byte :: bytes).flatMap hexByte ++ '\'' :: rest =
        high :: low :: (bytes.flatMap hexByte ++ '\'' :: rest) := by
      simp [digits]
    rw [split, readBytes, ih, value]
    · rfl
    · exact noMark

def read : List Char → Option (Cell × List Char)
  | 'N' :: 'U' :: 'L' :: 'L' :: rest => some (.null, rest)
  | '"' :: rest => (readEscaped rest).map fun (word, rest) => (.text (String.ofList word), rest)
  | 'X' :: '\'' :: rest => (readBytes rest).map fun (bytes, rest) => (.blob bytes, rest)
  | '-' :: rest => some (.int (-valueOf (spanDigits rest).1), (spanDigits rest).2)
  | digits => some (.int (valueOf (spanDigits digits).1), (spanDigits digits).2)

theorem read_describe {value : Cell} (exact : ∀ number, value ≠ .real number) {rest : List Char}
    (ends : ∀ c, rest.head? = some c → c = ' ') : read (value.describe.toList ++ rest) = some (value, rest) := by
  have noDigit : ∀ c, rest.head? = some c → isDigit c = false := by
    intro c first
    rw [ends c first]
    rfl
  cases value with
  | null => rfl
  | real number => exact absurd rfl (exact number)
  | text text =>
    have written : (Cell.text text).describe.toList ++ rest =
        '"' :: (text.toList.flatMap escape ++ '"' :: rest) := by
      simp [describe]
    rw [written, read, readEscaped_text]
    simp
  | blob bytes =>
    have written : (Cell.blob bytes).describe.toList ++ rest =
        'X' :: '\'' :: (bytes.flatMap hexByte ++ '\'' :: rest) := by
      simp [describe]
    rw [written, read, readBytes_bytes]
    rfl
  | int number =>
    rw [describe]
    cases number with
    | ofNat number =>
      obtain ⟨c, digits, begins, digit⟩ := head_digitsOf number rest
      have others : c ≠ 'N' ∧ c ≠ '"' ∧ c ≠ 'X' ∧ c ≠ '-' := by
        refine ⟨?_, ?_, ?_, ?_⟩ <;> (rintro rfl; exact absurd digit (by decide))
      rw [integerText_ofNat, begins, read, ← begins, spanDigits_digitsOf number noDigit, valueOf_digitsOf]
      · rfl
      all_goals simp_all
    | negSucc number =>
      rw [integerText_negSucc, List.cons_append, read, spanDigits_digitsOf _ noDigit, valueOf_digitsOf]
      rfl

end Cell

namespace Row

def columnTexts (row : Row) : List Char :=
  row.flatMap fun entry => ' ' :: (entry.1.toList ++ ':' :: entry.2.describe.toList)

theorem toList_describe (entry : String × Cell) (row : Row) :
    ' ' :: (describe (entry :: row)).toList = columnTexts (entry :: row) := by
  induction row generalizing entry with
  | nil => simp [describe, columnTexts]
  | cons next row ih =>
    have joined : describe (entry :: next :: row) =
        entry.1 ++ ":" ++ entry.2.describe ++ " " ++ describe (next :: row) := by
      simp [describe, String.intercalate_cons_cons]
    rw [joined, columnTexts, List.flatMap_cons, ← columnTexts, ← ih next]
    simp

theorem head_columnTexts (row : Row) : ∀ c, row.columnTexts.head? = some c → c = ' ' := by
  cases row with
  | nil => simp [columnTexts]
  | cons entry row => simp [columnTexts]

-- By induction along the columns: a name is as long as in the other row, and its value is read up to the next
-- column.
theorem columnTexts_inj {one other : Row} (columns : one.map Prod.fst = other.map Prod.fst)
    (exact : ∀ entry ∈ one, ∀ number, entry.2 ≠ .real number)
    (exact' : ∀ entry ∈ other, ∀ number, entry.2 ≠ .real number)
    (same : one.columnTexts = other.columnTexts) : one = other := by
  induction one generalizing other with
  | nil => exact (List.map_eq_nil_iff.1 columns.symm).symm
  | cons entry one ih =>
    cases other with
    | nil => cases columns
    | cons entry' other =>
      obtain ⟨column, value⟩ := entry
      obtain ⟨column', value'⟩ := entry'
      obtain ⟨names, others⟩ := List.cons.inj columns
      obtain rfl : column = column' := names
      have texts : value.describe.toList ++ columnTexts one = value'.describe.toList ++ columnTexts other := by
        simpa [columnTexts] using same
      have here := Cell.read_describe (exact _ List.mem_cons_self) (head_columnTexts one)
      have there := Cell.read_describe (exact' _ List.mem_cons_self) (head_columnTexts other)
      obtain ⟨values, further⟩ := Prod.mk.inj (Option.some.inj ((texts ▸ here).symm.trans there))
      obtain rfl : value = value' := values
      rw [ih others (fun entry member => exact entry (List.mem_cons_of_mem _ member))
        (fun entry member => exact' entry (List.mem_cons_of_mem _ member)) further]

/-- Rows of the same columns can be told apart by their texts, whatever the columns are called and whatever texts
and blobs they hold, as long as there are no floating-point numbers among their values. -/
theorem describe_eq_iff {one other : Row} (columns : one.map Prod.fst = other.map Prod.fst)
    (exact : ∀ entry ∈ one, ∀ number, entry.2 ≠ .real number)
    (exact' : ∀ entry ∈ other, ∀ number, entry.2 ≠ .real number) :
    one.describe = other.describe ↔ one = other := by
  refine ⟨fun same => columnTexts_inj columns exact exact' ?_, fun same => same ▸ rfl⟩
  cases one with
  | nil => rw [List.map_eq_nil_iff.1 columns.symm]
  | cons entry one =>
    cases other with
    | nil => cases columns
    | cons entry' other => rw [← toList_describe, ← toList_describe, same]

-- Without the backslashes both would be `a:"x" a:"y" a:""`.
theorem describe_eq_iff_quoted :
    describe [("a", .text "x\" a:\"y"), ("a", .text "")] ≠ describe [("a", .text "x"), ("a", .text "y\" a:\"")] ∧
      describe [("a", .text "NULL"), ("b", .text "7")] ≠ describe [("a", .null), ("b", .int 7)] := by
  constructor
  · refine (not_congr (describe_eq_iff ?_ ?_ ?_)).2 (by decide)
    · rfl
    all_goals simp
  · refine (not_congr (describe_eq_iff ?_ ?_ ?_)).2 (by decide)
    · rfl
    all_goals simp

end Row

end TextQuery
