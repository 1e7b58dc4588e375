
set_option autoImplicit false

namespace TextQuery.Token

variable {α : Type}

def wordsFrom (begins continues : α → Bool) : (word : List α) → List α → List (List α)
  | [], [] => []
  | first :: word, [] => [(first :: word).reverse]
  | [], c :: rest =>
    if begins c then wordsFrom begins continues [c] rest else wordsFrom begins continues [] rest
  | first :: word, c :: rest =>
    if continues c then wordsFrom begins continues (c :: first :: word) rest
    else (first :: word).reverse :: wordsFrom begins continues [] rest

def words (begins continues : α → Bool) (text : List α) : List (List α) :=
  wordsFrom begins continues [] text

def runs (member : α → Bool) (text : List α) : List (List α) := words member member text

theorem ne_nil_of_mem_wordsFrom {begins continues : α → Bool} {word text run : List α}
    (found : run ∈ wordsFrom begins continues word text) : run ≠ [] := by
  induction text generalizing word with
  | nil => cases word <;> simp_all [wordsFrom]
  | cons c rest ih =>
    cases word with
    | nil =>
      simp only [wordsFrom] at found
      split at found <;> exact ih found
    | cons first word =>
      simp only [wordsFrom] at found
      split at found
      · exact ih found
      · rcases List.mem_cons.mp found with rfl | found
        · simp
        · exact ih found

theorem mem_of_mem_wordsFrom {member : α → Bool} {word text run : List α}
    (members : ∀ c ∈ word, member c = true) (found : run ∈ wordsFrom member member word text) :
    ∀ c ∈ run, member c = true := by
  induction text generalizing word with
  | nil =>
    cases word with
    | nil => simp [wordsFrom] at found
    | cons first word =>
      rw [wordsFrom, List.mem_singleton] at found
      subst found
      exact fun c inside => members c (List.mem_reverse.mp inside)
  | cons d rest ih =>
    cases word with
    | nil =>
      simp only [wordsFrom] at found
      split at found
      · exact ih (by simpa) found
      · exact ih members found
    | cons first word =>
      simp only [wordsFrom] at found
      split at found
      · next good => exact ih (by simpa [good] using members) found
      · rcases List.mem_cons.mp found with rfl | found
        · exact fun c inside => members c (List.mem_reverse.mp inside)
        · exact ih (by simp) found

end TextQuery.Token
