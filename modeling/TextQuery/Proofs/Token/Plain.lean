import Mathlib.Tactic.Tauto
import TextQuery.Proofs.Candidate
import TextQuery.Token.Simple

set_option autoImplicit false

namespace TextQuery

open Token

namespace Token

variable {α : Type} {member : α → Bool}

theorem wordsFrom_member {word run rest : List α} (members : ∀ c ∈ run, member c = true)
    (some : word ≠ [] ∨ run ≠ []) {next : α} (parts : member next = false) :
    wordsFrom member member word (run ++ next :: rest) =
      (word.reverse ++ run) :: wordsFrom member member [] rest := by
  induction run generalizing word with
  | nil =>
    cases word with
    | nil => simp at some
    | cons first word => simp [wordsFrom, parts]
  | cons c run ih =>
    obtain ⟨first, members⟩ := List.forall_mem_cons.1 members
    have begun : wordsFrom member member word (c :: run ++ next :: rest) =
        wordsFrom member member (c :: word) (run ++ next :: rest) := by
      cases word <;> simp [wordsFrom, first]
    rw [begun, ih members (.inl (List.cons_ne_nil _ _))]
    simp

theorem runs_of_not_member {c : α} {rest : List α} (parts : member c = false) :
    runs member (c :: rest) = runs member rest := by
  simp [runs, words, wordsFrom, parts]

theorem runs_intercalate {separator last : α} (parts : member separator = false) (ends : member last = false)
    {found : List (List α)} (some : ∀ word ∈ found, word ≠ [])
    (members : ∀ word ∈ found, ∀ c ∈ word, member c = true) :
    runs member ([separator].intercalate found ++ [last]) = found := by
  induction found with
  | nil => simp [runs, words, wordsFrom, ends]
  | cons word found ih =>
    obtain ⟨first, some⟩ := List.forall_mem_cons.1 some
    obtain ⟨here, members⟩ := List.forall_mem_cons.1 members
    have read {rest : List α} {next : α} (other : member next = false) :
        runs member (word ++ next :: rest) = word :: runs member rest :=
      wordsFrom_member here (.inr first) other
    cases found with
    | nil =>
      rw [List.intercalate_singleton, read ends]
      rfl
    | cons next found =>
      rw [List.intercalate_cons_cons, List.append_assoc, List.append_assoc]
      simp only [List.singleton_append]
      rw [read parts, ih some members]

theorem mem_of_mem_run {word text run : List α} (found : run ∈ wordsFrom member member word text) :
    ∀ c ∈ run, c ∈ word ∨ c ∈ text := by
  induction text generalizing word with
  | nil =>
    cases word with
    | nil => simp [wordsFrom] at found
    | cons first word =>
      rw [wordsFrom, List.mem_singleton] at found
      subst found
      exact fun c inside => .inl (List.mem_reverse.1 inside)
  | cons next rest ih =>
    cases word with
    | nil =>
      simp only [wordsFrom] at found
      split at found
      · intro c inside
        have there := ih found c inside
        simp only [List.mem_cons, List.not_mem_nil, or_false] at there ⊢
        exact .inr there
      · intro c inside
        have there := ih found c inside
        simp only [List.not_mem_nil, false_or] at there
        exact .inr (List.mem_cons_of_mem _ there)
    | cons first word =>
      simp only [wordsFrom] at found
      split at found
      · intro c inside
        have there := ih found c inside
        simp only [List.mem_cons] at there ⊢
        tauto
      · obtain rfl | found := List.mem_cons.1 found
        · exact fun c inside => .inl (List.mem_reverse.1 inside)
        · intro c inside
          have there := ih found c inside
          simp only [List.not_mem_nil, false_or] at there
          exact .inr (List.mem_cons_of_mem _ there)

end Token

namespace Token.Simple

def IsPlain (c : Char) : Prop :=
  (97 ≤ c.toNat ∧ c.toNat ≤ 122) ∨ (48 ≤ c.toNat ∧ c.toNat ≤ 57) ∨ 128 ≤ c.toNat

theorem isAlphanum_iff {c : Char} : c.isAlphanum = true ↔
    (65 ≤ c.toNat ∧ c.toNat ≤ 90) ∨ (97 ≤ c.toNat ∧ c.toNat ≤ 122) ∨ (48 ≤ c.toNat ∧ c.toNat ≤ 57) := by
  unfold Char.isAlphanum Char.isAlpha Char.isUpper Char.isLower Char.isDigit
  simp only [Bool.or_eq_true, Bool.and_eq_true, decide_eq_true_eq, UInt32.le_iff_toNat_le, ge_iff_le, or_assoc]
  exact Iff.rfl

theorem toLower_cases (c : Char) :
    ((65 ≤ c.toNat ∧ c.toNat ≤ 90) ∧ c.toLower.toNat = c.toNat + 32) ∨
      (¬(65 ≤ c.toNat ∧ c.toNat ≤ 90) ∧ c.toLower = c) := by
  have capital : (c.val ≥ 'A'.val ∧ c.val ≤ 'Z'.val) ↔ (65 ≤ c.toNat ∧ c.toNat ≤ 90) := by
    simp only [ge_iff_le, UInt32.le_iff_toNat_le]
    exact Iff.rfl
  by_cases upper : c.val ≥ 'A'.val ∧ c.val ≤ 'Z'.val
  · refine .inl ⟨capital.1 upper, ?_⟩
    have within := capital.1 upper
    have moved : c.toLower.toNat = (c.val + ('a'.val - 'A'.val)).toNat := by
      unfold Char.toLower
      simp only [upper, and_self, dite_true]
      rfl
    have step : ('a'.val - 'A'.val).toNat = 32 := by decide
    rw [moved, UInt32.toNat_add, step]
    exact Nat.mod_eq_of_lt (by
      change c.toNat + 32 < _
      omega)
  · refine .inr ⟨fun within => upper (capital.2 within), ?_⟩
    unfold Char.toLower
    simp only [upper, dite_false]

theorem isPlain_toLower {c : Char} (isWord : Simple.isWord c = true) (notNul : c ≠ '\x00') :
    IsPlain c.toLower := by
  have within : c.isAlphanum = true ∨ 128 ≤ c.toNat := by simpa [Simple.isWord, notNul] using isWord
  rw [isAlphanum_iff] at within
  unfold IsPlain
  obtain ⟨upper, moved⟩ | ⟨other, same⟩ := toLower_cases c
  · rw [moved]
    omega
  · rw [same]
    omega

namespace IsPlain

variable {c : Char}

theorem toLower (plain : IsPlain c) : c.toLower = c := by
  obtain ⟨upper, -⟩ | ⟨-, same⟩ := toLower_cases c
  · unfold IsPlain at plain
    omega
  · exact same

theorem isWord (plain : IsPlain c) : isWord c = true := by
  unfold IsPlain at plain
  have within : c.isAlphanum = true ∨ 128 ≤ c.toNat := by
    rw [isAlphanum_iff]
    omega
  simp only [Simple.isWord, Bool.or_eq_true, decide_eq_true_eq]
  exact .inl within

theorem isBare (plain : IsPlain c) : Candidate.isBare c = true := by
  unfold IsPlain at plain
  have within : c.isAlphanum = true ∨ 128 ≤ c.toNat := by
    rw [isAlphanum_iff]
    omega
  simp only [Candidate.isBare, Bool.or_eq_true, decide_eq_true_eq]
  obtain alphanumeric | high := within
  · exact .inl (.inl (.inl alphanumeric))
  · exact .inr high

theorem ne_quote (plain : IsPlain c) : c ≠ '"' := by
  rintro rfl
  revert plain
  unfold IsPlain
  decide

end IsPlain

/-- Of a word that the plain tokenizer finds in a text without the character zero. -/
structure Plain (word : String) : Prop where
  filled : word ≠ ""
  plain : ∀ c ∈ word.toList, IsPlain c

theorem plain_of_mem_tokens {text word : String} (clean : '\x00' ∉ text.toList)
    (found : word ∈ tokens none text) : Plain word := by
  obtain ⟨run, inside, rfl⟩ := List.mem_map.1 found
  have some : run ≠ [] := ne_nil_of_mem_wordsFrom inside
  have members : ∀ c ∈ run, isWord c = true := mem_of_mem_wordsFrom (by simp) inside
  constructor
  · intro empty
    have none : run.map Char.toLower = [] := by simpa using congrArg String.toList empty
    exact some (List.map_eq_nil_iff.1 none)
  · intro d inner
    rw [String.toList_ofList] at inner
    obtain ⟨c, member, rfl⟩ := List.mem_map.1 inner
    refine isPlain_toLower (members c member) ?_
    rintro rfl
    have there := mem_of_mem_run inside '\x00' member
    exact clean (by simpa using there)

theorem Plain.notKeyword {word : String} (isPlain : Plain word) : word ∉ Candidate.keywords := by
  intro keyword
  have capital : ∃ c ∈ word.toList, ¬IsPlain c := by
    simp only [Candidate.keywords, List.mem_cons, List.not_mem_nil, or_false] at keyword
    obtain rfl | rfl | rfl | rfl := keyword
    · exact ⟨'A', by decide, by unfold IsPlain; decide⟩
    · exact ⟨'O', by decide, by unfold IsPlain; decide⟩
    · exact ⟨'N', by decide, by unfold IsPlain; decide⟩
    · exact ⟨'N', by decide, by unfold IsPlain; decide⟩
  obtain ⟨c, member, other⟩ := capital
  exact other (isPlain.plain c member)

theorem Plain.word_eq {word : String} (isPlain : Plain word) : Candidate.word word = word := by
  have bare : word.toList.all Candidate.isBare = true :=
    List.all_eq_true.2 fun c member => (isPlain.plain c member).isBare
  unfold Candidate.word
  rw [if_pos]
  simp [isPlain.filled, isPlain.notKeyword, bare]

theorem map_word {found : List String} (plain : ∀ word ∈ found, Plain word) :
    found.map Candidate.word = found := by
  refine (List.map_congr_left fun word member => ?_).trans (List.map_id found)
  exact (plain word member).word_eq

theorem joinAny_plain {found : List String} (plain : ∀ word ∈ found, Plain word) :
    Candidate.joinAny found = String.intercalate " OR " found := by
  rw [Candidate.joinAny, map_word plain]

theorem joinAll_plain {found : List String} (plain : ∀ word ∈ found, Plain word) :
    Candidate.joinAll found = String.intercalate " AND " found := by
  rw [Candidate.joinAll, map_word plain]

theorem doubled_plain {text : List Char} (clean : '"' ∉ text) : Text.doubled '"' text = text := by
  induction text with
  | nil => rfl
  | cons c text ih =>
    obtain ⟨other, clean⟩ := List.ne_and_not_mem_of_not_mem_cons clean
    rw [Text.doubled, if_neg (Ne.symm other), ih clean]

theorem tokens_joinPhrase {found : List String} (plain : ∀ word ∈ found, Plain word) :
    tokens none (Candidate.joinPhrase found) = found := by
  let words := found.map String.toList
  have filled : ∀ word ∈ words, word ≠ [] := by
    intro word member
    obtain ⟨text, inside, rfl⟩ := List.mem_map.1 member
    simpa using (plain text inside).filled
  have chars : ∀ word ∈ words, ∀ c ∈ word, IsPlain c := by
    intro word member
    obtain ⟨text, inside, rfl⟩ := List.mem_map.1 member
    exact (plain text inside).plain
  have noQuote : '"' ∉ [' '].intercalate words := by
    rw [Candidate.mem_intercalate (by decide)]
    rintro ⟨word, member, quote⟩
    exact (chars word member '"' quote).ne_quote rfl
  have shape : (Candidate.joinPhrase found).toList = '"' :: ([' '].intercalate words ++ ['"']) := by
    have inner : (String.intercalate " " found).toList = [' '].intercalate words :=
      String.toList_intercalate
    rw [Candidate.joinPhrase, Candidate.string, Text.enclosed, String.toList_ofList, inner,
      doubled_plain noQuote]
  have read : runs (member none) (Candidate.joinPhrase found).toList = words := by
    rw [shape, runs_of_not_member (by decide)]
    exact runs_intercalate (by decide) (by decide) filled
      fun word member c inside => (chars word member c inside).isWord
  rw [tokens, read, List.map_map]
  refine (List.map_congr_left fun word member => ?_).trans (List.map_id found)
  have same : word.toList.map Char.toLower = word.toList := by
    refine (List.map_congr_left fun c inside => ?_).trans (List.map_id _)
    exact ((plain word member).plain c inside).toLower
  simp [same]

end Token.Simple

end TextQuery
