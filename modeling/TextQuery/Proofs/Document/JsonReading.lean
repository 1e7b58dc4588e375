import TextQuery.Document.JsonReader
import TextQuery.Document.JsonText
import TextQuery.Proofs.Number.Reading

set_option autoImplicit false

namespace TextQuery.Document

open Number Text JsonText JsonReader

namespace JsonReader

theorem skipSpace_append {blanks : List Char} (all : ∀ c ∈ blanks, isSpace c = true) (text : List Char) :
    skipSpace (blanks ++ text) = skipSpace text :=
  List.dropWhile_append_of_pos all

theorem skipSpace_cons {c : Char} (dark : isSpace c = false) (text : List Char) : skipSpace (c :: text) = c :: text :=
  List.dropWhile_cons_of_neg (by simp [dark])

theorem isSpace_of_mem_lineBreak {layout : Option Nat} : ∀ c ∈ lineBreak layout, isSpace c = true := by
  intro c inside
  cases layout with
  | none => cases inside
  | some depth =>
    obtain rfl | blank := List.mem_cons.1 inside
    · rfl
    · rw [List.eq_of_mem_replicate blank]
      rfl

theorem readValue_append {blanks : List Char} (all : ∀ c ∈ blanks, isSpace c = true) (fuel : Nat)
    (text : List Char) : readValue fuel (blanks ++ text) = readValue fuel text := by
  cases fuel with
  | zero => rw [readValue, readValue]
  | succ fuel => rw [readValue, readValue, skipSpace_append all]

theorem readValue_blank (fuel : Nat) (text : List Char) : readValue fuel (' ' :: text) = readValue fuel text :=
  @readValue_append [' '] (List.forall_mem_singleton.2 rfl) fuel text

theorem readItems_lineBreak (fuel : Nat) (layout : Option Nat) (text : List Char) :
    readItems fuel (lineBreak layout ++ text) = readItems fuel text := by
  cases fuel with
  | zero => rw [readItems, readItems]
  | succ fuel => rw [readItems, readItems, readValue_append isSpace_of_mem_lineBreak]

theorem readEntries_lineBreak (fuel : Nat) (layout : Option Nat) (text : List Char) :
    readEntries fuel (lineBreak layout ++ text) = readEntries fuel text := by
  cases fuel with
  | zero => rw [readEntries, readEntries]
  | succ fuel => rw [readEntries, readEntries, skipSpace_append isSpace_of_mem_lineBreak]

def Stops (rest : List Char) : Prop :=
  ∀ c, rest.head? = some c → isDigit c = false ∧ c ≠ '.' ∧ c ≠ 'e' ∧ c ≠ 'E'

theorem stops_lineBreak (layout : Option Nat) {c : Char} (closes : c ∈ [',', ']', '\x7d']) (rest : List Char) :
    Stops (lineBreak layout ++ c :: rest) := by
  intro first here
  cases layout with
  | none =>
    obtain rfl : c = first := by simpa [lineBreak] using here
    simp only [List.mem_cons, List.not_mem_nil, or_false] at closes
    obtain rfl | rfl | rfl := closes <;> decide
  | some depth =>
    obtain rfl : '\n' = first := by simpa [lineBreak] using here
    decide

attribute [local simp] readCharacters

variable {a b c d meant : Char} {code : Nat}

theorem readCharacters_plain (noQuote : c ≠ '"') (noBackslash : c ≠ '\\') (shown : 0x20 ≤ c.toNat)
    (rest : List Char) :
    readCharacters (c :: rest) = (readCharacters rest).map fun (read, rest) => (c :: read, rest) := by
  rw [readCharacters.eq_def]
  split <;> grind

theorem readCharacters_backslash (named : unescape? c = some meant) (rest : List Char) :
    readCharacters ('\\' :: c :: rest) = (readCharacters rest).map fun (read, rest) => (meant :: read, rest) := by
  have other : c ≠ 'u' := by
    rintro rfl
    cases named
  rw [readCharacters.eq_def]
  split <;> grind

theorem readCharacters_malformed (malformed : hexNumber? a b c d = none) (rest : List Char) :
    readCharacters ('\\' :: 'u' :: a :: b :: c :: d :: rest) = none := by
  rw [readCharacters.eq_def]
  split <;> grind

theorem readCharacters_code (number : hexNumber? a b c d = some code) (single : isHighSurrogate code = false)
    (rest : List Char) :
    readCharacters ('\\' :: 'u' :: a :: b :: c :: d :: rest) =
      (readCharacters rest).map fun (read, rest) => (Char.ofNat code :: read, rest) := by
  by_cases next : ∃ e f g h after, rest = '\\' :: 'u' :: e :: f :: g :: h :: after
  · obtain ⟨e, f, g, h, after, rfl⟩ := next
    rw [readCharacters, number]
    cases other : hexNumber? e f g h with
    | none =>
      rw [readCharacters_malformed other]
      rfl
    | some second => simp [single]
  · rw [readCharacters, number]
    exact fun e f g h after here => next ⟨e, f, g, h, after, here⟩

-- The characters that have no letter of their own behind the backslash.
theorem hexDigits_control (control : code < 0x20) : ∃ a b c d,
    hexDigits 4 code = [a, b, c, d] ∧ hexNumber? a b c d = some code := by
  have all : ∀ code < 0x20, hexDigits 4 code = ['0', '0', (code / 16).digitChar, (code % 16).digitChar] ∧
      hexNumber? '0' '0' (code / 16).digitChar (code % 16).digitChar = some code := by
    decide +kernel
  exact ⟨_, _, _, _, all code control⟩

-- One case for each form in which a character is written.
theorem readCharacters_escape (c : Char) (rest : List Char) :
    readCharacters (escape c ++ rest) = (readCharacters rest).map fun (read, rest) => (c :: read, rest) := by
  by_cases quote : c = '"'
  · subst quote
    exact readCharacters_backslash rfl rest
  by_cases backslash : c = '\\'
  · subst backslash
    exact readCharacters_backslash rfl rest
  by_cases lineFeed : c = '\n'
  · subst lineFeed
    exact readCharacters_backslash rfl rest
  by_cases carriage : c = '\r'
  · subst carriage
    exact readCharacters_backslash rfl rest
  by_cases tab : c = '\t'
  · subst tab
    exact readCharacters_backslash rfl rest
  by_cases backspace : c = '\x08'
  · subst backspace
    exact readCharacters_backslash rfl rest
  by_cases feed : c = '\x0c'
  · subst feed
    exact readCharacters_backslash rfl rest
  by_cases control : c.toNat < 0x20
  · obtain ⟨first, second, third, last, digits, number⟩ := hexDigits_control control
    have written : escape c = '\\' :: 'u' :: [first, second, third, last] := by
      simp [escape, quote, backslash, lineFeed, carriage, tab, backspace, feed, control, digits]
    have single : isHighSurrogate c.toNat = false := by
      simp only [isHighSurrogate, Bool.and_eq_false_iff, decide_eq_false_iff_not]
      omega
    rw [written]
    have read := readCharacters_code number single rest
    rwa [Char.ofNat_toNat] at read
  · have written : escape c = [c] := by
      simp [escape, quote, backslash, lineFeed, carriage, tab, backspace, feed, control]
    rw [written]
    exact readCharacters_plain quote backslash (by omega) rest

theorem readString_string (text : String) (rest : List Char) :
    readString (string text ++ rest) = some (text, rest) := by
  have characters (text : List Char) : readCharacters (text.flatMap escape ++ '"' :: rest) = some (text, rest) := by
    induction text with
    | nil => simp
    | cons c text ih =>
      rw [List.flatMap_cons, List.append_assoc, readCharacters_escape, ih]
      rfl
  have opened : string text ++ rest = '"' :: (text.toList.flatMap escape ++ '"' :: rest) := by
    simp [string]
  rw [opened, readString, characters]
  exact congrArg (fun read => some (read, rest)) String.ofList_toList

theorem skipSpace_string (text : String) (rest : List Char) : skipSpace (string text ++ rest) = string text ++ rest :=
  skipSpace_cons rfl _

theorem readWhole_digitsOf (value : Nat) {rest : List Char} (stops : Stops rest) :
    readWhole (digitsOf value ++ rest) = (digitsOf value, rest) := by
  by_cases zero : value = 0
  · subst zero
    rfl
  · have front := head_digitsOf_ne_zero (Nat.pos_of_ne_zero zero)
    rw [readWhole, spanDigits_digitsOf value fun c first => (stops c first).1]
    intro further begins
    rw [← List.head?_append_of_ne_nil _ (digitsOf_ne_nil value), begins] at front
    exact front rfl

theorem readNumber_digitsOf (negative : Bool) (value : Nat) {rest : List Char} (stops : Stops rest) :
    readNumber negative (digitsOf value ++ rest) =
      some (.int (if negative then -(value : Int) else value), rest) := by
  have whole : readFraction rest = (none, rest) ∧ readExponent rest = (none, rest) := by
    cases rest with
    | nil => exact ⟨rfl, rfl⟩
    | cons c rest =>
      obtain ⟨-, noPoint, small, capital⟩ := stops c rfl
      refine ⟨?_, by simp [readExponent, small, capital]⟩
      rw [readFraction]
      exact fun _ point => noPoint (List.cons.inj point).1
  obtain ⟨c, digits, begins, -⟩ := head_digitsOf value []
  rw [List.append_nil] at begins
  rw [readNumber, readWhole_digitsOf value stops, begins]
  simp [whole.1, whole.2, ← begins, valueOf_digitsOf]

theorem readWord_append (word : String) (value : Document) (rest : List Char) :
    readWord word value (word.toList ++ rest) = some (value, rest) := by
  have begins : word.toList.isPrefixOf (word.toList ++ rest) = true :=
    List.isPrefixOf_iff_prefix.2 (List.prefix_append _ _)
  rw [readWord, begins, ← String.length_toList, List.drop_left]
  rfl

theorem ne_of_isDigit (other : Char) (digit : isDigit c = true) (none : isDigit other = false) : c ≠ other := by
  rintro rfl
  rw [none] at digit
  cases digit

theorem isSpace_of_isDigit (digit : isDigit c = true) : isSpace c = false := by
  simp [isSpace, ne_of_isDigit ' ' digit rfl, ne_of_isDigit '\n' digit rfl, ne_of_isDigit '\r' digit rfl,
    ne_of_isDigit '\t' digit rfl]

theorem readValue_digitsOf (value : Nat) {fuel : Nat} {rest : List Char} (stops : Stops rest) :
    readValue (fuel + 1) (digitsOf value ++ rest) = some (.int value, rest) := by
  obtain ⟨c, digits, begins, digit⟩ := head_digitsOf value rest
  have read := readNumber_digitsOf false value stops
  rw [begins] at read ⊢
  rw [readValue, skipSpace_cons (isSpace_of_isDigit digit)]
  -- Nothing else that a value begins with is a digit.
  split
  case h_8 => exact read
  all_goals
    rename_i other
    exact absurd (List.cons.inj other).1 (ne_of_isDigit _ digit rfl)

end JsonReader

open JsonReader

/-- Documents without floating-point numbers, as reports make them. -/
inductive IsJson : Document → Prop
  | null : IsJson .null
  | bool (value : Bool) : IsJson (.bool value)
  | int (value : Int) : IsJson (.int value)
  | text (value : String) : IsJson (.text value)
  | list {items : List Document} (within : ∀ item ∈ items, IsJson item) : IsJson (.list items)
  | mapping {entries : Entries} (within : ∀ entry ∈ entries, IsJson entry.2) : IsJson (.mapping entries)

theorem IsJson.head_write {document : Document} (json : IsJson document) (layout : Option Nat) :
    ∃ c text, write layout document = c :: text ∧ isSpace c = false ∧ c ≠ ']' := by
  cases json with
  | null => exact ⟨'n', _, rfl, rfl, by decide⟩
  | bool value =>
    cases value
    · exact ⟨'f', _, rfl, rfl, by decide⟩
    · exact ⟨'t', _, rfl, rfl, by decide⟩
  | int value =>
    have shown (value : Nat) : ∃ c text, digitsOf value = c :: text ∧ isSpace c = false ∧ c ≠ ']' := by
      obtain ⟨c, digits, begins, digit⟩ := head_digitsOf value []
      rw [List.append_nil] at begins
      exact ⟨c, digits, begins, isSpace_of_isDigit digit, ne_of_isDigit _ digit rfl⟩
    rw [write, scalar]
    cases value with
    | ofNat value =>
      rw [integerText_ofNat]
      exact shown value
    | negSucc value =>
      rw [integerText_negSucc]
      exact ⟨'-', _, rfl, rfl, by decide⟩
  | text value => exact ⟨'"', _, rfl, rfl, by decide⟩
  | @list items _ =>
    cases items
    · exact ⟨'[', _, by rw [write], rfl, by decide⟩
    · exact ⟨'[', _, by rw [write], rfl, by decide⟩
  | @mapping entries _ =>
    cases entries
    · exact ⟨'\x7b', _, by rw [write], rfl, by decide⟩
    · exact ⟨'\x7b', _, by rw [write], rfl, by decide⟩

def Reads (document : Document) : Prop :=
  ∀ (layout : Option Nat) (fuel : Nat) (rest : List Char), Stops rest → (write layout document).length ≤ fuel →
    readValue fuel (write layout document ++ rest) = some (document, rest)

variable (layout outer : Option Nat) (rest : List Char)

theorem stops_writeItems (items : List Document) :
    Stops (writeItems layout items ++ (lineBreak outer ++ ']' :: rest)) := by
  cases items with
  | nil => exact stops_lineBreak outer (by decide) rest
  | cons item items =>
    rw [writeItems, List.cons_append]
    exact stops_lineBreak none (by decide) _

theorem stops_writeEntries (entries : Entries) :
    Stops (writeEntries layout entries ++ (lineBreak outer ++ '\x7d' :: rest)) := by
  cases entries with
  | nil => exact stops_lineBreak outer (by decide) rest
  | cons entry entries =>
    rw [writeEntries, List.cons_append]
    exact stops_lineBreak none (by decide) _

-- By induction on the items. The fuel goes down with each of them, and its text with it.
theorem readItems_write {fuel : Nat} {first : Document} {items : List Document}
    (reads : ∀ item ∈ first :: items, Reads item)
    (enough : (write layout first).length + (writeItems layout items).length < fuel) :
    readItems fuel (write layout first ++ (writeItems layout items ++ (lineBreak outer ++ ']' :: rest))) =
      some (first :: items, rest) := by
  obtain ⟨here, later⟩ := List.forall_mem_cons.1 reads
  induction items generalizing first fuel with
  | nil =>
    obtain ⟨fuel, rfl⟩ := Nat.exists_eq_succ_of_ne_zero (Nat.ne_zero_of_lt enough)
    rw [readItems, here layout fuel _ (stops_writeItems _ _ _ []) (by omega)]
    simp only [Option.bind_eq_bind, Option.bind_some, writeItems, List.nil_append]
    rw [skipSpace_append isSpace_of_mem_lineBreak, skipSpace_cons rfl]
    rfl
  | cons second items ih =>
    obtain ⟨fuel, rfl⟩ := Nat.exists_eq_succ_of_ne_zero (Nat.ne_zero_of_lt enough)
    simp only [writeItems, List.length_cons, List.length_append] at enough
    obtain ⟨next, further⟩ := List.forall_mem_cons.1 later
    have more := @ih fuel second later (by omega) next further
    rw [readItems, here layout fuel _ (stops_writeItems _ _ _ (second :: items)) (by omega)]
    simp only [Option.bind_eq_bind, Option.bind_some, writeItems, List.cons_append, List.append_assoc]
    rw [skipSpace_cons rfl]
    simp only [readItems_lineBreak, more]
    rfl

theorem readEntries_write {fuel : Nat} {key : String} {value : Document} {entries : Entries}
    (reads : ∀ entry ∈ (key, value) :: entries, Reads entry.2)
    (enough : (write layout value).length + (writeEntries layout entries).length < fuel) :
    readEntries fuel (string key ++ ':' :: ' ' :: (write layout value ++
      (writeEntries layout entries ++ (lineBreak outer ++ '\x7d' :: rest)))) =
      some ((key, value) :: entries, rest) := by
  obtain ⟨(here : Reads value), later⟩ := List.forall_mem_cons.1 reads
  induction entries generalizing key value fuel with
  | nil =>
    obtain ⟨fuel, rfl⟩ := Nat.exists_eq_succ_of_ne_zero (Nat.ne_zero_of_lt enough)
    rw [readEntries, skipSpace_string, readString_string]
    simp only [Option.bind_eq_bind, Option.bind_some]
    rw [skipSpace_cons rfl]
    simp only [readValue_blank, here layout fuel _ (stops_writeEntries _ _ _ []) (by omega), Option.bind_some]
    rw [writeEntries, List.nil_append, skipSpace_append isSpace_of_mem_lineBreak, skipSpace_cons rfl]
    rfl
  | cons second entries ih =>
    obtain ⟨fuel, rfl⟩ := Nat.exists_eq_succ_of_ne_zero (Nat.ne_zero_of_lt enough)
    simp only [writeEntries, List.length_cons, List.length_append] at enough
    obtain ⟨next, further⟩ := List.forall_mem_cons.1 later
    have more := @ih fuel second.1 second.2 later (by omega) next further
    rw [readEntries, skipSpace_string, readString_string]
    simp only [Option.bind_eq_bind, Option.bind_some]
    rw [skipSpace_cons rfl]
    simp only [readValue_blank, here layout fuel _ (stops_writeEntries _ _ _ (second :: entries)) (by omega),
      Option.bind_some]
    simp only [writeEntries, List.cons_append, List.append_assoc, List.nil_append]
    rw [skipSpace_cons rfl]
    simp only [readEntries_lineBreak, more]
    rfl

-- The first character takes some of the fuel.
theorem reads_of_succ {document : Document} (json : IsJson document)
    (reads : ∀ (layout : Option Nat) (fuel : Nat) (rest : List Char), Stops rest →
      (write layout document).length ≤ fuel + 1 →
      readValue (fuel + 1) (write layout document ++ rest) = some (document, rest)) : Reads document := by
  intro layout fuel rest stops enough
  obtain ⟨c, text, begins, -⟩ := json.head_write layout
  obtain ⟨fuel, rfl⟩ : ∃ less, fuel = less + 1 := by
    rw [begins] at enough
    exact Nat.exists_eq_succ_of_ne_zero (Nat.ne_zero_of_lt enough)
  exact reads layout fuel rest stops enough

-- One case for each form of a document.
theorem IsJson.reads {document : Document} (json : IsJson document) : Reads document := by
  induction json with
  | null =>
    refine reads_of_succ .null fun layout fuel rest _ _ => ?_
    rw [write, scalar, readValue]
    exact readWord_append "null" .null rest
  | bool value =>
    refine reads_of_succ (.bool value) fun layout fuel rest _ _ => ?_
    cases value
    · rw [write, scalar, readValue]
      exact readWord_append "false" (.bool false) rest
    · rw [write, scalar, readValue]
      exact readWord_append "true" (.bool true) rest
  | int value =>
    refine reads_of_succ (.int value) fun layout fuel rest stops _ => ?_
    rw [write, scalar]
    cases value with
    | ofNat value =>
      rw [integerText_ofNat]
      exact readValue_digitsOf value stops
    | negSucc value =>
      rw [integerText_negSucc, List.cons_append, readValue, skipSpace_cons rfl]
      exact readNumber_digitsOf true (value + 1) stops
  | text value =>
    refine reads_of_succ (.text value) fun layout fuel rest _ _ => ?_
    rw [write, scalar, readValue, skipSpace_string]
    change Option.map _ (readString (string value ++ rest)) = _
    rw [readString_string]
    rfl
  | @list items within reads =>
    refine reads_of_succ (.list within) fun layout fuel rest stops enough => ?_
    cases items with
    | nil =>
      rw [write, readValue]
      rfl
    | cons first items =>
      simp only [write, List.length_cons, List.length_append] at enough
      have inside := @readItems_write (deeper layout) layout rest fuel first items reads (by omega)
      obtain ⟨c, text, begins, dark, opens⟩ := (within first List.mem_cons_self).head_write (deeper layout)
      rw [write, readValue]
      simp only [List.cons_append, List.append_assoc, List.nil_append]
      rw [skipSpace_cons rfl]
      simp only [skipSpace_append isSpace_of_mem_lineBreak, readItems_lineBreak, inside]
      rw [begins, List.cons_append, skipSpace_cons dark]
      split
      · rename_i closes
        exact absurd (List.cons.inj closes).1 opens
      · rfl
  | @mapping entries within reads =>
    refine reads_of_succ (.mapping within) fun layout fuel rest stops enough => ?_
    cases entries with
    | nil =>
      rw [write, readValue]
      rfl
    | cons entry entries =>
      obtain ⟨key, value⟩ := entry
      simp only [write, List.length_cons, List.length_append] at enough
      have inside := @readEntries_write (deeper layout) layout rest fuel key value entries reads (by omega)
      rw [write, readValue]
      simp only [List.cons_append, List.append_assoc, List.nil_append]
      rw [skipSpace_cons rfl]
      simp only [skipSpace_append isSpace_of_mem_lineBreak, readEntries_lineBreak, inside, skipSpace_string]
      rfl

theorem ofJson?_write {document : Document} (json : IsJson document) (layout : Option Nat) {blanks : List Char}
    (all : ∀ c ∈ blanks, isSpace c = true) :
    ofJson? (String.ofList (write layout document ++ blanks)) = some document := by
  have stops : Stops blanks := by
    intro c first
    have blank := all c (List.mem_of_head? first)
    simp only [isSpace, Bool.or_eq_true, beq_iff_eq] at blank
    obtain ((rfl | rfl) | rfl) | rfl := blank
    all_goals decide
  have read := json.reads layout ((write layout document ++ blanks).length + 1) blanks stops (by simp; omega)
  have nothing : skipSpace blanks = [] := by
    rw [← List.append_nil blanks, skipSpace_append all]
    rfl
  simp only [ofJson?, String.toList_ofList, read, nothing]
  rfl

end TextQuery.Document
