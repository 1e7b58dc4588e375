import Mathlib.Tactic.SplitIfs
import TextQuery.Candidate
import TextQuery.Expression.Lexeme

set_option autoImplicit false

namespace TextQuery.Expression

namespace Lexeme

def ofString (written : String) (content : String) : Lexeme :=
  ⟨.word, written.toList, content.toList⟩

-- What may stand behind a word so that the word ends.
def Ends (text : List Char) : Prop := ∀ c ∈ text.head?, isSpace c = true

theorem ends_nil : Ends [] := by simp [Ends]

theorem ends_space (text : List Char) : Ends (' ' :: text) := by simp [Ends, isSpace]

theorem not_isBare_of_isSpace {c : Char} (space : isSpace c = true) : isBare c = false := by
  simp only [isSpace, Bool.or_eq_true, beq_iff_eq] at space
  rcases space with ((rfl | rfl) | rfl) | rfl <;> decide

theorem not_isSpace_of_isBare {c : Char} (bare : isBare c = true) : isSpace c = false := by
  cases space : isSpace c with
  | false => rfl
  | true =>
    rw [not_isBare_of_isSpace space] at bare
    cases bare

theorem ne_quote_of_isBare {c : Char} (bare : isBare c = true) : (c == '"') = false := by
  rw [beq_eq_false_iff_ne]
  rintro rfl
  revert bare
  decide

theorem lookup_punctuation_of_isBare {c : Char} (bare : isBare c = true) :
    punctuation.lookup c = none := by
  rw [List.lookup_eq_none_iff]
  -- No mark of punctuation is a bare character.
  have marks : ∀ entry ∈ punctuation, isBare entry.1 = false := by decide
  intro entry member
  rw [bne_iff_ne]
  rintro rfl
  rw [marks entry member] at bare
  cases bare

theorem takeWhile_isBare {run rest : List Char} (bare : ∀ c ∈ run, isBare c = true)
    (ends : Ends rest) : (run ++ rest).takeWhile isBare = run := by
  rw [List.takeWhile_append_of_pos bare]
  cases rest with
  | nil => simp
  | cons c rest => simp [not_isBare_of_isSpace (ends c rfl)]

theorem dropWhile_isBare {run rest : List Char} (bare : ∀ c ∈ run, isBare c = true)
    (ends : Ends rest) : (run ++ rest).dropWhile isBare = rest := by
  rw [List.dropWhile_append_of_pos bare]
  cases rest with
  | nil => simp
  | cons c rest => simp [not_isBare_of_isSpace (ends c rfl)]

theorem next_space (text : List Char) : next (' ' :: text) = next text := by
  simp [next, isSpace]

theorem next_bare {run rest : List Char} (some : run ≠ []) (bare : ∀ c ∈ run, isBare c = true)
    (ends : Ends rest) : next (run ++ rest) = .ok (.some (ofBare run, rest)) := by
  obtain ⟨c, run, rfl⟩ := List.exists_cons_of_ne_nil some
  have first : isBare c = true := bare c (by simp)
  have others : ∀ d ∈ run, isBare d = true := fun d member => bare d (by simp [member])
  simp [next, not_isSpace_of_isBare first, lookup_punctuation_of_isBare first,
    ne_quote_of_isBare first, first, takeWhile_isBare others ends, dropWhile_isBare others ends]

theorem next_quoted (text : String) {rest : List Char} (ends : Ends rest) :
    next ((Candidate.string text).toList ++ rest) =
      .ok (some (ofString (Candidate.string text) text, rest)) := by
  have closed : rest.head? ≠ some '"' := by
    intro quote
    have space := ends '"' (by simp [quote])
    revert space
    decide
  have read := Text.readEnclosed_doubled text.toList closed
  have noMark : punctuation.lookup '"' = none := by decide
  -- What is written of a string is all of the text but what follows it.
  have count : (Text.doubled '"' text.toList).length + (rest.length + 1) - rest.length =
      (Text.doubled '"' text.toList).length + 1 := by omega
  have written : (Text.doubled '"' text.toList ++ '"' :: rest).take
      ((Text.doubled '"' text.toList).length + 1) = Text.doubled '"' text.toList ++ ['"'] := by
    simp [List.take_append, List.take_of_length_le]
  simp [next, Candidate.string, Text.enclosed, isSpace, noMark, read, ofString, count, written]

-- Doubled quotes never close a string, so the end of the text comes first.
theorem next_unclosed (text : List Char) :
    next ('"' :: Text.doubled '"' text) = .error .unterminated := by
  have open' : Text.readEnclosed '"' (Text.doubled '"' text) = none := by
    induction text with
    | nil => rfl
    | cons c text ih =>
      by_cases quote : c = '"'
      · subst quote
        simp [Text.doubled, Text.readEnclosed, ih]
      · cases text with
        | nil => simp [Text.doubled, quote, Text.readEnclosed]
        | cons d text =>
          rw [Text.doubled, if_neg quote, Text.readEnclosed_cons quote, ih]
          · rfl
          · by_cases same : d = '"' <;> simp [Text.doubled, same]
  have noMark : punctuation.lookup '"' = none := by decide
  simp [next, isSpace, noMark, open']

end Lexeme

open Lexeme

def spelling (token : String) : Lexeme := ofString (Candidate.word token) token

theorem operators_lookup {token : String} (plain : token ∉ Candidate.keywords) :
    operators.lookup token = none := by
  rw [List.lookup_eq_none_iff]
  intro entry member
  rw [bne_iff_ne]
  rintro rfl
  simp only [operators, List.mem_cons, List.not_mem_nil, or_false] at member
  rcases member with rfl | rfl | rfl <;> simp [Candidate.keywords] at plain

theorem word_pos (token : String) : 0 < (Candidate.word token).toList.length := by
  unfold Candidate.word
  split_ifs with bare
  · simp only [Bool.and_eq_true, Bool.not_eq_true'] at bare
    exact List.length_pos_iff.2 (by simpa using bare.1.1)
  · simp [Candidate.string, Text.enclosed]

theorem next_word (token : String) {rest : List Char} (ends : Ends rest) :
    next ((Candidate.word token).toList ++ rest) = .ok (some (spelling token, rest)) := by
  unfold spelling Candidate.word
  split_ifs with bare
  · simp only [Bool.and_eq_true, Bool.not_eq_true', List.all_eq_true] at bare
    obtain ⟨⟨some, plain⟩, bare⟩ := bare
    have some : token.toList ≠ [] := by simpa using some
    rw [next_bare some bare ends]
    have plain : token ∉ Candidate.keywords := by simpa using plain
    simp [ofBare, operators_lookup plain, Lexeme.plain, ofString]
  · exact next_quoted token ends

end TextQuery.Expression
