import Mathlib.Data.List.Basic
import TextQuery.Proofs.Names
import TextQuery.Validator

set_option autoImplicit false

namespace TextQuery.Declaration

open Text

def clauseLetters : List Char := "usingfts5".toList

def clauseCharacters : List Char := "usingftUSINGFT5ſıİ".toList

theorem mem_clauseCharacters {c : Char} (letter : plainLetter c ∈ clauseLetters) : c ∈ clauseCharacters := by
  unfold plainLetter at letter
  split at letter
  · rename_i long
    rw [beq_iff_eq.1 long]
    decide
  · split at letter
    · rename_i dotless
      simp only [Bool.or_eq_true, beq_iff_eq] at dotless
      rcases dotless with rfl | rfl <;> decide
    · have small : ∀ place < 26, (Char.ofNat (65 + place)).toLower ∈ clauseLetters →
          Char.ofNat (65 + place) ∈ clauseCharacters := by decide
      have same : ∀ d ∈ clauseLetters, d ∈ clauseCharacters := List.forall_iff_forall_mem.1 (by decide)
      by_cases capital : 65 ≤ c.toNat ∧ c.toNat ≤ 90
      · have known : c = Char.ofNat (65 + (c.toNat - 65)) := by
          rw [Nat.add_sub_cancel' capital.1, Char.ofNat_toNat]
        rw [known] at letter ⊢
        exact small _ (by omega) letter
      · have fixed : c.toLower = c := by
          unfold Char.toLower
          rw [dif_neg]
          rintro ⟨low, high⟩
          exact capital ⟨UInt32.le_iff_toNat_le.1 low, UInt32.le_iff_toNat_le.1 high⟩
        rw [fixed] at letter
        exact same c letter

-- A letter of the clause is a letter of words, and no white space.
theorem letter_of_plain {c : Char} (letter : plainLetter c ∈ clauseLetters) :
    isWordChar c = true ∧ isBlank c = false := by
  have known : ∀ d ∈ clauseCharacters, isWordChar d = true ∧ isBlank d = false :=
    List.forall_iff_forall_mem.1 (by decide)
  exact known c (mem_clauseCharacters letter)

theorem letters_of_map {read : List Char} {word : String} (spelled : read.map plainLetter = word.toList)
    (inside : ∀ letter ∈ word.toList, letter ∈ clauseLetters) :
    ∀ c ∈ read, isWordChar c = true ∧ isBlank c = false := by
  intro c member
  apply letter_of_plain
  apply inside
  rw [← spelled]
  exact List.mem_map_of_mem member

/-- Two words, whatever the case of their letters, with white space between them. -/
structure IsClause (text first gap second : List Char) : Prop where
  text : text = first ++ gap ++ second
  first : first.map plainLetter = "using".toList
  blank : ∀ c ∈ gap, isBlank c = true
  apart : gap ≠ []
  second : second.map plainLetter = "fts5".toList

/-- Whether a text says the clause behind a character, and no word goes on before or behind it. -/
def Says (before : Option Char) (text : List Char) : Prop :=
  ∃ front clause rest, text = front ++ clause ++ rest ∧ (∃ first gap second, IsClause clause first gap second) ∧
    endsWord (front.reverse ++ before.toList) = true ∧ endsWord rest = true

/-- Whether a text says the clause. -/
def Mentions (text : String) : Prop := Says none text.toList

theorem dropWord_eq_some {word text rest : List Char} :
    dropWord word text = some rest ↔ ∃ read, text = read ++ rest ∧ read.map plainLetter = word := by
  induction word generalizing text with
  | nil => simp [dropWord, eq_comm]
  | cons letter word ih =>
    cases text with
    | nil => simp [dropWord]
    | cons c text =>
      rw [dropWord]
      constructor
      · intro dropped
        split at dropped
        · rename_i same
          obtain ⟨read, rfl, spelled⟩ := ih.1 dropped
          exact ⟨c :: read, rfl, by rw [List.map_cons, beq_iff_eq.1 same, spelled]⟩
        · cases dropped
      · rintro ⟨read, split, spelled⟩
        cases read with
        | nil => cases spelled
        | cons d read =>
          obtain ⟨rfl, rfl⟩ := List.cons.inj split
          obtain ⟨same, spelled⟩ := List.cons.inj spelled
          rw [if_pos (by simpa using same)]
          exact ih.2 ⟨read, rfl, spelled⟩

namespace IsClause

variable {clause first gap second : List Char} (isClause : IsClause clause first gap second)
include isClause

theorem first_letters : ∀ c ∈ first, isWordChar c = true ∧ isBlank c = false :=
  letters_of_map isClause.first (List.forall_iff_forall_mem.1 (by decide))

theorem second_letters : ∀ c ∈ second, isWordChar c = true ∧ isBlank c = false :=
  letters_of_map isClause.second (List.forall_iff_forall_mem.1 (by decide))

-- No mark stands within the clause.
theorem not_mem {mark : Char} (other : isWordChar mark = false) (visible : isBlank mark = false) :
    mark ∉ clause := by
  rw [isClause.text, List.mem_append, List.mem_append]
  rintro ((member | member) | member)
  · rw [(isClause.first_letters mark member).1] at other
    cases other
  · rw [isClause.blank mark member] at visible
    cases visible
  · rw [(isClause.second_letters mark member).1] at other
    cases other

theorem second_ne_nil : second ≠ [] := by
  rintro rfl
  exact absurd isClause.second (by decide)

theorem head_letter (rest : List Char) :
    ∃ c later, clause ++ rest = c :: later ∧ isWordChar c = true ∧ isBlank c = false := by
  cases read : first with
  | nil =>
    have spelled := isClause.first
    rw [read] at spelled
    exact absurd spelled (by decide)
  | cons c later =>
    obtain ⟨letter, visible⟩ := isClause.first_letters c (by simp [read])
    exact ⟨c, later ++ gap ++ second ++ rest, by simp [isClause.text, read], letter, visible⟩

theorem blank_mem : ∃ c ∈ clause, isBlank c = true := by
  obtain ⟨c, member⟩ := List.exists_mem_of_ne_nil _ isClause.apart
  exact ⟨c, by simp [isClause.text, member], isClause.blank c member⟩

end IsClause

theorem usesFullText_iff {text : List Char} : usesFullText text = true ↔
    ∃ clause rest, text = clause ++ rest ∧ (∃ first gap second, IsClause clause first gap second) ∧
      endsWord rest = true := by
  constructor
  · intro uses
    unfold usesFullText at uses
    split at uses
    · rename_i c behind dropped
      obtain ⟨first, rfl, using'⟩ := dropWord_eq_some.1 dropped
      rw [Bool.and_eq_true] at uses
      obtain ⟨blank, uses⟩ := uses
      split at uses
      · rename_i rest dropped
        obtain ⟨second, rest', module⟩ := dropWord_eq_some.1 dropped
        refine ⟨first ++ (c :: behind.takeWhile isBlank) ++ second, rest, ?_,
          ⟨first, c :: behind.takeWhile isBlank, second, rfl, using', ?_, by simp, module⟩, uses⟩
        · rw [List.append_assoc, ← rest', List.append_assoc, List.cons_append, List.takeWhile_append_dropWhile]
        · intro d member
          rcases List.mem_cons.1 member with rfl | member
          · exact blank
          · exact List.all_eq_true.1 List.all_takeWhile d member
      · cases uses
    · cases uses
  · rintro ⟨clause, rest, rfl, ⟨first, gap, second, isClause⟩, ends⟩
    cases gap with
    | nil => exact absurd rfl isClause.apart
    | cons c gap =>
      obtain ⟨blank, blanks⟩ := List.forall_mem_cons.1 isClause.blank
      have dropped : dropWord "using".toList (clause ++ rest) = some (c :: (gap ++ (second ++ rest))) :=
        dropWord_eq_some.2 ⟨first, by simp [isClause.text], isClause.first⟩
      have passed : (gap ++ (second ++ rest)).dropWhile isBlank = second ++ rest := by
        rw [List.dropWhile_append_of_pos blanks]
        cases read : second with
        | nil => exact absurd read isClause.second_ne_nil
        | cons d second =>
          rw [List.cons_append, List.dropWhile_cons_of_neg]
          simp [(isClause.second_letters d (by simp [read])).2]
      have module : dropWord "fts5".toList (second ++ rest) = some rest :=
        dropWord_eq_some.2 ⟨second, rfl, isClause.second⟩
      unfold usesFullText
      rw [dropped]
      dsimp only
      rw [passed, module, blank]
      exact ends

theorem endsWord_append {text : List Char} (some : text ≠ []) (rest : List Char) :
    endsWord (text ++ rest) = endsWord text := by
  cases text with
  | nil => exact absurd rfl some
  | cons c text => rfl

theorem mentionsFullText_iff {before : Option Char} {text : List Char} :
    mentionsFullText before text = true ↔ Says before text := by
  induction text generalizing before with
  | nil =>
    refine iff_of_false (by simp [mentionsFullText]) ?_
    rintro ⟨front, clause, rest, split, ⟨first, gap, second, isClause⟩, -⟩
    obtain ⟨c, later, begins, -⟩ := isClause.head_letter rest
    rw [List.append_assoc, begins] at split
    simp at split
  | cons c text ih =>
    have start : endsWord before.toList = !before.any isWordChar := by cases before <;> rfl
    rw [mentionsFullText, Bool.or_eq_true, Bool.and_eq_true, ← start, usesFullText_iff, ih]
    constructor
    · rintro (⟨free, clause, rest, split, isClause, ends⟩ | ⟨front, clause, rest, split, isClause, free, ends⟩)
      · exact ⟨[], clause, rest, split, isClause, free, ends⟩
      · refine ⟨c :: front, clause, rest, by rw [split]; rfl, isClause, ?_, ends⟩
        rw [List.reverse_cons, endsWord_append (by simp)]
        exact free
    · rintro ⟨front, clause, rest, split, isClause, free, ends⟩
      cases front with
      | nil => exact .inl ⟨free, clause, rest, split, isClause, ends⟩
      | cons d front =>
        obtain ⟨rfl, same⟩ := List.cons.inj split
        refine .inr ⟨front, clause, rest, same, isClause, ?_, ends⟩
        rw [List.reverse_cons, endsWord_append (by simp)] at free
        exact free

theorem isFullText_iff {sql : String} : isFullText sql = true ↔ Mentions sql := mentionsFullText_iff

instance (before : Option Char) (text : List Char) : Decidable (Says before text) :=
  decidable_of_iff _ mentionsFullText_iff

instance (text : String) : Decidable (Mentions text) := inferInstanceAs (Decidable (Says none text.toList))

-- Where a part of a list is, if it does not have an entry of the list.
theorem part_cases {front part rest left right : List Char} {mark : Char} (other : mark ∉ part)
    (split : front ++ part ++ rest = left ++ mark :: right) :
    (∃ between, left = front ++ part ++ between ∧ rest = between ++ mark :: right) ∨
    ∃ between, front = left ++ mark :: between ∧ right = between ++ part ++ rest := by
  rcases List.append_eq_append_iff.1 split with ⟨between, same, behind⟩ | ⟨between, same, behind⟩
  · exact .inl ⟨between, same, behind⟩
  · cases between with
    | nil => exact .inl ⟨[], by simpa using same.symm, by simpa using behind.symm⟩
    | cons d between =>
      obtain ⟨rfl, after⟩ := List.cons.inj behind
      rcases List.append_eq_append_iff.1 same with ⟨inside, -, within⟩ | ⟨inside, before, within⟩
      · exact absurd (by rw [within]; simp) other
      · cases inside with
        | nil =>
          rw [List.nil_append] at within
          exact absurd (by rw [← within]; simp) other
        | cons d inside =>
          obtain ⟨rfl, middle⟩ := List.cons.inj within
          exact .inr ⟨inside, before, by rw [after, middle]; rfl⟩

def IsMark (c : Char) : Prop := isWordChar c = false ∧ isBlank c = false

instance (c : Char) : Decidable (IsMark c) := inferInstanceAs (Decidable (_ ∧ _))

theorem isMark_of_mem : ∀ mark ∈ ['"', '\'', '(', ')', ','], IsMark mark := by
  simp only [← List.forall_iff_forall_mem, List.Forall]
  decide +kernel

theorem blank_space : isBlank ' ' = true ∧ isWordChar ' ' = false := by decide +kernel

theorem says_mark {mark : Char} (isMark : IsMark mark) {before : Option Char} {left right : List Char} :
    Says before (left ++ mark :: right) ↔ Says before left ∨ Says none right := by
  have ends (rest : List Char) : endsWord (mark :: rest) = true := by simp [endsWord, isMark.1]
  constructor
  · rintro ⟨front, clause, rest, split, isClause, free, last⟩
    obtain ⟨first, gap, second, known⟩ := id isClause
    rcases part_cases (known.not_mem isMark.1 isMark.2) split.symm with
      ⟨between, rfl, rfl⟩ | ⟨between, rfl, rfl⟩
    · refine .inl ⟨front, clause, between, rfl, isClause, free, ?_⟩
      cases between with
      | nil => rfl
      | cons c between => exact last
    · refine .inr ⟨between, clause, rest, rfl, isClause, ?_, last⟩
      cases back : between.reverse with
      | nil => rfl
      | cons c back =>
        simp only [List.reverse_append, List.reverse_cons, back, List.cons_append] at free
        exact free
  · rintro (⟨front, clause, rest, rfl, isClause, free, last⟩ | ⟨front, clause, rest, rfl, isClause, free, last⟩)
    · refine ⟨front, clause, rest ++ mark :: right, by simp, isClause, free, ?_⟩
      cases rest with
      | nil => exact ends right
      | cons c rest => exact last
    · refine ⟨left ++ mark :: front, clause, rest, by simp, isClause, ?_, last⟩
      simp only [List.reverse_append, List.reverse_cons, List.append_assoc]
      cases back : front.reverse with
      | nil => exact ends _
      | cons c back =>
        rw [back] at free
        exact free

theorem not_says_nil {before : Option Char} : ¬Says before [] := by
  rw [← mentionsFullText_iff]
  simp [mentionsFullText]

-- A clause has white space in it.
theorem not_says_of_visible {before : Option Char} {text : List Char} (visible : ∀ c ∈ text, isBlank c = false) :
    ¬Says before text := by
  rintro ⟨front, clause, rest, rfl, ⟨first, gap, second, isClause⟩, -⟩
  obtain ⟨c, member, blank⟩ := isClause.blank_mem
  rw [visible c (by simp [member])] at blank
  cases blank

-- The digit of the clause is compared as itself alone.
theorem not_says_of_lacks {before : Option Char} {text : List Char} (lacks : '5' ∉ text) : ¬Says before text := by
  rintro ⟨front, clause, rest, rfl, ⟨first, gap, second, isClause⟩, -⟩
  have digit : '5' ∈ second.map plainLetter := by
    rw [isClause.second]
    decide
  obtain ⟨c, member, same⟩ := List.mem_map.1 digit
  have known : c = '5' := by
    unfold plainLetter at same
    split at same
    · cases same
    · split at same
      · cases same
      · exact eq_of_toLower (by decide) same
  rw [known] at member
  exact lacks (by simp [isClause.text, member])

theorem says_blank {before : Option Char} {c : Char} (blank : isBlank c = true) (free : isWordChar c = false)
    {text : List Char} : Says before (c :: text) ↔ Says none text := by
  have other : usesFullText (c :: text) = false := by
    rw [Bool.eq_false_iff]
    intro uses
    obtain ⟨clause, rest, split, ⟨first, gap, second, isClause⟩, -⟩ := usesFullText_iff.1 uses
    obtain ⟨d, later, begins, -, visible⟩ := isClause.head_letter rest
    rw [begins] at split
    rw [(List.cons.inj split).1, visible] at blank
    cases blank
  have same : mentionsFullText (some c) text = mentionsFullText none text := by
    cases text with
    | nil => rfl
    | cons d text => simp [mentionsFullText, free]
  rw [← mentionsFullText_iff, mentionsFullText, other, Bool.and_false, Bool.false_or, same, mentionsFullText_iff]

theorem says_append_blank {before : Option Char} {c : Char} (blank : isBlank c = true) (free : isWordChar c = false) {text : List Char} :
    Says before (text ++ [c]) ↔ Says before text := by
  constructor
  · rintro ⟨front, clause, rest, split, ⟨first, gap, second, isClause⟩, begins, ends⟩
    rcases List.eq_nil_or_concat rest with rfl | ⟨rest, d, rfl⟩
    · -- The last letter of the clause would be white space.
      have last : c ∈ second := by
        rcases List.eq_nil_or_concat second with empty | ⟨letters, d, ended⟩
        · exact absurd empty isClause.second_ne_nil
        · rw [isClause.text, ended, List.append_nil, List.concat_eq_append, ← List.append_assoc,
            ← List.append_assoc] at split
          rw [ended, (List.append_singleton_inj.1 split).2]
          simp
      rw [(isClause.second_letters c last).2] at blank
      cases blank
    · rw [List.concat_eq_append, ← List.append_assoc] at split
      refine ⟨front, clause, rest, (List.append_singleton_inj.1 split).1, ⟨first, gap, second, isClause⟩, begins, ?_⟩
      cases rest with
      | nil => rfl
      | cons d rest => exact ends
  · rintro ⟨front, clause, rest, rfl, isClause, begins, ends⟩
    refine ⟨front, clause, rest ++ [c], by simp, isClause, begins, ?_⟩
    cases rest with
    | nil => simp [endsWord, free]
    | cons d rest => exact ends

theorem mentions_empty : ¬Mentions "" := not_says_nil

theorem says_doubled {mark : Char} (isMark : IsMark mark) {before : Option Char} (front text : List Char) :
    Says before (front ++ doubled mark text) ↔ Says before (front ++ text) := by
  induction text generalizing before front with
  | nil => rfl
  | cons c text ih =>
    unfold doubled
    split
    · rename_i same
      subst same
      rw [says_mark isMark, says_mark isMark, ← List.nil_append (c :: doubled c text), says_mark isMark]
      have later := @ih none []
      rw [List.nil_append, List.nil_append] at later
      rw [later]
      simp [not_says_nil]
    · have later := @ih before (front ++ [c])
      rw [List.append_assoc, List.append_assoc] at later
      exact later

theorem says_enclosed {mark : Char} (isMark : IsMark mark) {before : Option Char} (front rest : List Char)
    (text : String) : Says before (front ++ ((enclosed mark text).toList ++ rest)) ↔
      Says before front ∨ Mentions text ∨ Says none rest := by
  have inside := @says_doubled mark isMark none [] text.toList
  rw [List.nil_append, List.nil_append] at inside
  unfold enclosed
  rw [String.toList_ofList, List.cons_append, says_mark isMark, List.append_assoc, List.cons_append,
    List.nil_append, says_mark isMark, inside]
  rfl

theorem says_identifier {before : Option Char} (front rest : List Char) (name : String) :
    Says before (front ++ ((identifier name).toList ++ rest)) ↔
      Says before front ∨ Mentions name ∨ Says none rest :=
  says_enclosed (isMark_of_mem _ (by simp)) front rest name

theorem mentions_identifier {name : String} : Mentions (identifier name) ↔ Mentions name := by
  have said := @says_identifier none [] [] name
  simpa [not_says_nil, Mentions] using said

theorem says_bracketed {before : Option Char} (front rest : List Char) (text : String) :
    Says before (front ++ '(' :: (text.toList ++ ')' :: rest)) ↔
      Says before front ∨ Mentions text ∨ Says none rest := by
  rw [says_mark (isMark_of_mem _ (by simp)), says_mark (isMark_of_mem _ (by simp))]
  rfl

def AnyMentions (texts : List String) : Prop := ∃ text ∈ texts, Mentions text

section AnyMentions

variable {α : Type} {text : String} {texts others : List String}

@[simp] theorem anyMentions_nil : ¬AnyMentions [] := by simp [AnyMentions]

@[simp] theorem anyMentions_cons : AnyMentions (text :: texts) ↔ Mentions text ∨ AnyMentions texts := by
  simp [AnyMentions]

@[simp] theorem anyMentions_append :
    AnyMentions (texts ++ others) ↔ AnyMentions texts ∨ AnyMentions others := by
  simp [AnyMentions, or_and_right, exists_or]

-- Of each entry of a list there is a text, and texts that say the clause just where that does.
theorem anyMentions_map {list : List α} {one : α → String} {several : α → List String}
    (same : ∀ entry, Mentions (one entry) ↔ AnyMentions (several entry)) :
    AnyMentions (list.map one) ↔ AnyMentions (list.flatMap several) := by
  induction list with
  | nil => simp
  | cons entry list ih => simp [same, ih]

theorem mentions_list : Mentions (String.intercalate ", " texts) ↔ AnyMentions texts := by
  induction texts with
  | nil => simp [mentions_empty]
  | cons text texts ih =>
    cases texts with
    | nil => simp
    | cons next texts =>
      rw [anyMentions_cons, ← ih, String.intercalate_cons_cons]
      unfold Mentions
      rw [String.toList_append, String.toList_append, List.append_assoc]
      change Says none (text.toList ++ ',' :: ' ' :: (String.intercalate ", " (next :: texts)).toList) ↔ _
      rw [says_mark (isMark_of_mem _ (by simp)), says_blank blank_space.1 blank_space.2]

theorem anyMentions_identifiers : AnyMentions (texts.map identifier) ↔ AnyMentions texts := by
  have each := @anyMentions_map _ texts identifier (fun name => [name]) (by simp [mentions_identifier])
  simpa using each

end AnyMentions

end TextQuery.Declaration
