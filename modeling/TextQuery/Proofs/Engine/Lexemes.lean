import TextQuery.Engine.Arguments
import TextQuery.Proofs.Tokenizer.Descriptors

set_option autoImplicit false

namespace TextQuery.Engine

open Text

namespace Sql

inductive Lexeme where
  | word (letters : List Char)
  | enclosed (mark : Char) (text : List Char)
  | unclosed (mark : Char) (text : List Char)
  | sign (c : Char)
deriving DecidableEq, Repr

def Lexeme.name? : Lexeme → Option (List Char)
  | .enclosed mark text => if mark = '"' then some text else none
  | _ => none

inductive Place where
  | between
  | word (letters : List Char)
  | inside (mark : Char) (text : List Char)
  -- A mark closes the text unless another one follows.
  | behind (mark : Char) (text : List Char)
deriving DecidableEq, Repr

def isLetter (c : Char) : Bool := c.isAlphanum || c == '_' || c == '$' || 0x80 ≤ c.toNat

namespace Place

def next? : Place → Char → Option Place
  | .between, _ => none
  | .word letters, c => if isLetter c then some (.word (letters ++ [c])) else none
  | .inside mark text, c => some (if c = mark then .behind mark text else .inside mark (text ++ [c]))
  | .behind mark text, c => if c = mark then some (.inside mark (text ++ [c])) else none

def lexemes : Place → List Lexeme
  | .between => []
  | .word letters => [.word letters]
  | .inside mark text => [.unclosed mark text]
  | .behind mark text => [.enclosed mark text]

def start (c : Char) : Place × List Lexeme :=
  if c = '"' ∨ c = '\'' then (.inside c [], [])
  else if isLetter c then (.word [c], [])
  else (.between, if Arguments.isBlank c then [] else [.sign c])

end Place

def advance : Place × List Lexeme → Char → Place × List Lexeme
  | (place, found), c =>
    match place.next? c, Place.start c with
    | some next, _ => (next, found)
    | none, (next, signs) => (next, found ++ place.lexemes ++ signs)

def scan (text : List Char) : Place × List Lexeme := text.foldl advance (.between, [])

def lexemes (text : List Char) : List Lexeme := (scan text).2 ++ (scan text).1.lexemes

theorem foldl_advance (place : Place) (found : List Lexeme) (text : List Char) :
    text.foldl advance (place, found) =
      ((text.foldl advance (place, [])).1, found ++ (text.foldl advance (place, [])).2) := by
  induction text generalizing place found with
  | nil => simp
  | cons c text ih =>
    simp only [List.foldl_cons, advance]
    cases place.next? c with
    | some place => exact ih place found
    | none =>
      simp only
      rw [ih _ (found ++ _ ++ _), ih _ ([] ++ _ ++ _)]
      simp

theorem advance_next {place next : Place} {c : Char} (goes : place.next? c = some next) (found : List Lexeme) :
    advance (place, found) c = (next, found) := by
  simp [advance, goes]

-- Where a lexeme ends, the character begins the next one as it would behind a blank.
theorem advance_ends {place : Place} {c : Char} (ends : place.next? c = none) (found : List Lexeme) :
    advance (place, found) c = advance (.between, found ++ place.lexemes) c := by
  have between : Place.between.next? c = none := rfl
  simp [advance, ends, between, Place.lexemes]

theorem lexemes_append {first second : List Char}
    (ends : ∀ c, second.head? = some c → (scan first).1.next? c = none) :
    lexemes (first ++ second) = lexemes first ++ lexemes second := by
  cases second with
  | nil => simp [lexemes, scan, Place.lexemes]
  | cons c rest =>
    have apart : scan (first ++ c :: rest) = (c :: rest).foldl advance (.between, lexemes first) := by
      simp only [scan, List.foldl_append, List.foldl_cons]
      exact congrArg (rest.foldl advance) (advance_ends (ends c rfl) (scan first).2)
    simp only [lexemes, apart]
    rw [foldl_advance]
    simp [scan]

abbrev Mark := { mark : Char // mark = '"' ∨ mark = '\'' }

def Mark.double : Mark := ⟨'"', .inl rfl⟩

def Mark.single : Mark := ⟨'\'', .inr rfl⟩

theorem foldl_doubled (mark : Char) (text before : List Char) (found : List Lexeme) :
    (doubled mark text).foldl advance (.inside mark before, found) = (.inside mark (before ++ text), found) := by
  induction text generalizing before with
  | nil => simp [doubled]
  | cons c text ih =>
    by_cases same : c = mark
    · subst same
      simp [doubled, advance_next, Place.next?, ih]
    · simp [doubled, same, advance_next, Place.next?, ih]

theorem scan_enclosed (mark : Mark) (text : List Char) :
    scan (mark.1 :: (doubled mark text ++ [mark.1])) = (.behind mark text, []) := by
  have opened : advance (.between, []) mark = (.inside mark [], []) := by
    have between : Place.between.next? mark = none := rfl
    simp [advance, between, Place.start, Place.lexemes, mark.2]
  simp [scan, opened, foldl_doubled, advance_next, Place.next?]

theorem foldl_letters {letters : List Char} (all : ∀ c ∈ letters, isLetter c = true) (before : List Char)
    (found : List Lexeme) : letters.foldl advance (.word before, found) = (.word (before ++ letters), found) := by
  induction letters generalizing before with
  | nil => simp
  | cons c letters ih =>
    rw [List.forall_mem_cons] at all
    simp [advance_next, Place.next?, all.1, ih all.2]

theorem isLetter_of_isIdentifierChar {c : Char} (known : isIdentifierChar c = true) :
    isLetter c = true ∧ c ≠ '"' ∧ c ≠ '\'' := by
  refine ⟨?_, ?_, ?_⟩
  · simp only [isIdentifierChar, Bool.or_eq_true] at known
    simp only [isLetter, Bool.or_eq_true]
    exact .inl (.inl known)
  · rintro rfl
    exact absurd known (by decide)
  · rintro rfl
    exact absurd known (by decide)

theorem scan_identifier {name : String} (known : isIdentifier name = true) :
    scan name.toList = (.word name.toList, []) ∨ scan name.toList = (.between, [.word (dropFinalBreak name.toList)]) := by
  have words {letters : List Char} (some : letters ≠ []) (all : ∀ c ∈ letters, isIdentifierChar c = true) :
      scan letters = (.word letters, []) := by
    cases letters with
    | nil => exact absurd rfl some
    | cons c letters =>
      rw [List.forall_mem_cons] at all
      obtain ⟨letter, noDouble, noSingle⟩ := isLetter_of_isIdentifierChar all.1
      have between : Place.between.next? c = none := rfl
      have further : ∀ d ∈ letters, isLetter d = true := fun d member =>
        (isLetter_of_isIdentifierChar (all.2 d member)).1
      simp [scan, advance, between, Place.start, letter, noDouble, noSingle, Place.lexemes, foldl_letters further]
  have all := isIdentifierChar_of_mem known
  have some := Arguments.dropFinalBreak_ne_nil known
  by_cases final : name.toList.getLast? = .some '\n'
  · right
    obtain ⟨front, text⟩ := List.getLast?_eq_some_iff.1 final
    have dropped : dropFinalBreak name.toList = front := by simp [dropFinalBreak, text]
    rw [dropped] at all some ⊢
    rw [text, scan, List.foldl_append]
    change ['\n'].foldl advance (scan front) = _
    rw [words some all]
    rfl
  · left
    have kept : dropFinalBreak name.toList = name.toList := by simp [dropFinalBreak, final]
    rw [kept] at all some
    exact words some all

inductive Part where
  | fixed (text : String)
  | enclosed (mark : Mark) (text : String)

namespace Part

def name (name : String) : Part := .enclosed .double name

def characters : Part → List Char
  | .fixed text => text.toList
  | .enclosed mark text => mark :: (doubled mark text.toList ++ [mark.1])

def lexemes : Part → List Lexeme
  | .fixed text => Sql.lexemes text.toList
  | .enclosed mark text => [.enclosed mark text.toList]

theorem lexemes_characters (part : Part) : Sql.lexemes part.characters = part.lexemes := by
  cases part with
  | fixed text => rfl
  | enclosed mark text => simp [characters, Sql.lexemes, scan_enclosed, lexemes, Place.lexemes]

def endsBefore : Part → Part → Bool
  | .fixed text, next => next.characters.head?.any fun c => ((scan text.toList).1.next? c).isNone
  | .enclosed mark _, next => next.characters.head?.any (· != mark.1)

def linked : List Part → Bool
  | part :: next :: rest => endsBefore part next && linked (next :: rest)
  | _ => true

theorem next?_of_endsBefore {part next : Part} (ends : endsBefore part next = true) :
    ∃ c, next.characters.head? = some c ∧ (scan part.characters).1.next? c = none := by
  cases first : next.characters.head? with
  | none => cases part <;> simp [endsBefore, first] at ends
  | some c =>
    refine ⟨c, rfl, ?_⟩
    cases part with
    | fixed text =>
      have stops : (scan text.toList).1.next? c = none := by simpa [endsBefore, first] using ends
      exact stops
    | enclosed mark text =>
      have other : c ≠ mark := by simpa [endsBefore, first] using ends
      simp [characters, scan_enclosed, Place.next?, other]

theorem lexemes_linked {parts : List Part} (linked : linked parts = true) :
    Sql.lexemes (parts.flatMap characters) = parts.flatMap lexemes := by
  induction parts with
  | nil => rfl
  | cons part rest ih =>
    cases rest with
    | nil => simp [lexemes_characters]
    | cons next rest =>
      simp only [Part.linked, Bool.and_eq_true] at linked
      obtain ⟨c, begins, ends⟩ := next?_of_endsBefore linked.1
      have later := ih linked.2
      have apart : ∀ d, ((next :: rest).flatMap characters).head? = some d →
          (scan part.characters).1.next? d = none := by
        simp [begins, ends]
      rw [List.flatMap_cons, lexemes_append apart, lexemes_characters, later]
      rfl

def comma : Part := .fixed ", "

def close : Part := .fixed ")"

def listed (parts : List Part) : List Part := parts.intersperse comma

theorem toList_listed (parts : List Part) :
    (String.intercalate ", " (parts.map fun part => String.ofList part.characters)).toList =
      (listed parts).flatMap characters := by
  induction parts with
  | nil => simp [listed]
  | cons part rest ih =>
    cases rest with
    | nil => simp [listed]
    | cons next rest =>
      have written : ", ".toList = comma.characters := rfl
      simp only [List.map_cons, listed] at ih ⊢
      rw [String.intercalate_cons_cons, String.toList_append, String.toList_append, ih, written]
      simp

structure Listable (part : Part) : Prop where
  first : ∀ text : String, (scan text.toList).1 = .between → endsBefore (.fixed text) part = true
  further : endsBefore part comma = true
  last : endsBefore part close = true

theorem listable_enclosed (mark : Mark) (text : String) : Listable (.enclosed mark text) where
  first front complete := by simp [endsBefore, characters, complete, Place.next?]
  further := by rcases mark with ⟨mark, rfl | rfl⟩ <;> rfl
  last := by rcases mark with ⟨mark, rfl | rfl⟩ <;> rfl

theorem names_listed (parts : List Part) :
    ((listed parts).flatMap lexemes).filterMap Lexeme.name? = (parts.flatMap lexemes).filterMap Lexeme.name? := by
  have nothing : comma.lexemes.filterMap Lexeme.name? = [] := rfl
  induction parts with
  | nil => rfl
  | cons part rest ih =>
    cases rest with
    | nil => rfl
    | cons next rest =>
      simp only [listed, List.intersperse_cons_cons] at ih ⊢
      rw [List.flatMap_cons, List.flatMap_cons, List.filterMap_append, List.filterMap_append, nothing, ih]
      simp

-- By induction on the list, behind whatever stands before its first element.
theorem linked_listed {text : String} (complete : (scan text.toList).1 = .between) {parts : List Part}
    (listable : ∀ part ∈ parts, part.Listable) : linked (.fixed text :: (listed parts ++ [close])) = true := by
  induction parts generalizing text with
  | nil =>
    have begins : close.characters.head? = some ')' := rfl
    simp [listed, linked, endsBefore, begins, complete, Place.next?]
  | cons part rest ih =>
    rw [List.forall_mem_cons] at listable
    have first := listable.1.first text complete
    cases rest with
    | nil => simp [listed, linked, first, listable.1.last]
    | cons next rest =>
      have later : linked (comma :: (listed (next :: rest) ++ [close])) = true := ih rfl listable.2
      simp only [listed, List.intersperse_cons_cons] at later ⊢
      simpa [linked, first, listable.1.further] using later

end Part

end Sql

end TextQuery.Engine
