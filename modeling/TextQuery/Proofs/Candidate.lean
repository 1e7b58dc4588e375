import Mathlib.Logic.Basic
import TextQuery.Proofs.Expression.Operands
import TextQuery.Proofs.Names

set_option autoImplicit false

namespace TextQuery.Candidate

open Expression

/-- An expression is read to its end as one query. Whether its table can answer that query is up to the
index, and one with full detail answers all. -/
structure Reads (scope : Scope) (expression : String) (query : Query) : Prop where
  read : query? scope expression = (scope.vet query).map fun _ => some query
  accepted : scope.detail = .full → query? scope expression = .ok (some query)

theorem toList_joinAny (tokens : List String) :
    (joinAny tokens).toList = Machine.joined .or tokens := by
  simp only [joinAny, Machine.joined, String.toList_intercalate, List.map_map, Operator.separator]
  rfl

theorem toList_joinAll (tokens : List String) :
    (joinAll tokens).toList = Machine.joined .and tokens := by
  simp only [joinAll, Machine.joined, String.toList_intercalate, List.map_map, Operator.separator]
  rfl

-- The part of an expression that the query language gets to see.
def visible (text : List Char) : List Char := text.takeWhile (· != '\x00')

theorem visible_append {text : List Char} (clean : '\x00' ∉ text) (rest : List Char) :
    visible (text ++ rest) = text ++ visible rest := by
  rw [visible, List.takeWhile_append_of_pos]
  · rfl
  · intro c member
    rw [bne_iff_ne]
    rintro rfl
    exact clean member

theorem visible_eq {text : List Char} (clean : '\x00' ∉ text) : visible text = text := by
  simpa [visible] using visible_append clean []

theorem query?_eq_read {scope : Scope} {expression : String}
    (head : (visible expression.toList).head? ≠ some '*') :
    query? scope expression = (read scope (visible expression.toList)).map some := by
  have seen : expression.toList.takeWhile (· != '\x00') = visible expression.toList := rfl
  unfold query?
  rw [seen]
  split
  · rename_i rest found
    simp [found] at head
  · cases read scope (visible expression.toList) <;> rfl

theorem Reads.of_read {scope : Scope} {expression : String} {query : Query}
    (head : (visible expression.toList).head? ≠ some '*')
    (reading : Expression.read scope (visible expression.toList) =
      (scope.vet query).map fun _ => query) : Reads scope expression query := by
  have read : query? scope expression = (scope.vet query).map fun _ => some query := by
    rw [query?_eq_read head, reading]
    cases scope.vet query <;> rfl
  refine ⟨read, ?_⟩
  intro full
  rw [read, Scope.vet_full full]
  rfl

theorem mem_intercalate {separator : List Char} {c : Char} (other : c ∉ separator)
    (parts : List (List Char)) : c ∈ separator.intercalate parts ↔ ∃ part ∈ parts, c ∈ part := by
  induction parts with
  | nil => simp
  | cons part rest ih =>
    cases rest with
    | nil => simp
    | cons next rest => simp [List.intercalate_cons_cons, other, ih]

theorem nul_mem_string (text : String) :
    '\x00' ∈ (string text).toList ↔ '\x00' ∈ text.toList := by
  simp [string, Text.enclosed, Text.mem_doubled]

theorem nul_mem_phrase (tokens : List String) :
    '\x00' ∈ (String.intercalate " " tokens).toList ↔ ∃ token ∈ tokens, '\x00' ∈ token.toList := by
  rw [String.toList_intercalate, mem_intercalate (by decide)]
  simp

theorem nul_mem_word (token : String) : '\x00' ∈ (word token).toList ↔ '\x00' ∈ token.toList := by
  unfold word
  split_ifs
  · rfl
  · exact nul_mem_string token

theorem nul_mem_joined (operator : Operator) (tokens : List String) :
    '\x00' ∈ Machine.joined operator tokens ↔ ∃ token ∈ tokens, '\x00' ∈ token.toList := by
  rw [Machine.joined, mem_intercalate (by cases operator <;> decide)]
  simp [nul_mem_word]

-- A candidate begins with a word, so it is never taken for a directive.
theorem head_word (token : String) : (word token).toList.head? ≠ some '*' := by
  unfold word
  split_ifs with bare
  · intro star
    simp only [Bool.and_eq_true, List.all_eq_true] at bare
    have first := bare.2 '*' (List.mem_of_mem_head? star)
    revert first
    decide
  · simp [string, Text.enclosed]

theorem head_joined (operator : Operator) (first : String) (rest : List String) :
    (Machine.joined operator (first :: rest)).head? ≠ some '*' := by
  have word := head_word first
  obtain ⟨c, more, shape⟩ := List.exists_cons_of_length_pos (word_pos first)
  rw [shape] at word
  cases rest with
  | nil => simpa [Machine.joined, shape] using word
  | cons next rest => simpa [Machine.joined_cons, shape] using word

theorem reads_joined (scope : Scope) (operator : Operator) (first : String) (rest : List String)
    {expression : String} (written : expression.toList = Machine.joined operator (first :: rest))
    (clean : ∀ token ∈ first :: rest, '\x00' ∉ token.toList) :
    Reads scope expression
      (.chain operator (.ofString first.toList) (rest.map fun token => .ofString token.toList)) := by
  have seen : visible expression.toList = Machine.joined operator (first :: rest) := by
    rw [written]
    apply visible_eq
    rw [nul_mem_joined]
    rintro ⟨token, member, nul⟩
    exact clean token member nul
  apply Reads.of_read
  · rw [seen]
    exact head_joined operator first rest
  · rw [seen]
    exact Machine.run_joined scope operator first rest none (by simp) (Nat.lt_succ_self _)

theorem reads_string (scope : Scope) {text : String} (clean : '\x00' ∉ text.toList) :
    Reads scope (string text) (.ofString text.toList) := by
  have seen : visible (string text).toList = (string text).toList := by
    apply visible_eq
    rwa [nul_mem_string]
  apply Reads.of_read
  · rw [seen]
    simp [string, Text.enclosed]
  · have found := Lexeme.next_quoted text Lexeme.ends_nil
    rw [List.append_nil] at found
    obtain ⟨fuel, enough⟩ : ∃ fuel, (string text).toList.length + 1 = fuel + 2 :=
      ⟨(Text.doubled '"' text.toList).length + 1, by simp [string, Text.enclosed]⟩
    rw [seen, Expression.read, enough]
    -- A string alone is the last operand, and nothing waits for it.
    exact (Machine.run_start scope .or none (fuel + 1) found rfl).trans
      (Machine.run_last scope .or none (Lexeme.ofString (string text) text) fuel)

theorem visible_of_nul {text : List Char} (nul : '\x00' ∈ text) (rest : List Char) :
    visible (text ++ rest) = visible text := by
  induction text with
  | nil => simp at nul
  | cons c text ih =>
    by_cases zero : c = '\x00'
    · simp [visible, zero]
    · have nul : '\x00' ∈ text := by simpa [Ne.symm zero] using nul
      simpa [visible, zero] using ih nul

theorem visible_doubled (text : List Char) :
    visible (Text.doubled '"' text) = Text.doubled '"' (visible text) := by
  induction text with
  | nil => rfl
  | cons c text ih =>
    simp only [visible] at ih
    by_cases quote : c = '"'
    · simp [visible, Text.doubled, quote, ih]
    · by_cases zero : c = '\x00'
      · simp [visible, Text.doubled, zero]
      · simp [visible, Text.doubled, quote, zero, ih]

-- A string that holds the character zero is cut off before the mark that would close it.
theorem next_cut {token : String} (nul : '\x00' ∈ token.toList) (rest : List Char) :
    Lexeme.next (visible ((string token).toList ++ rest)) = .error .unterminated := by
  have seen : visible ((string token).toList ++ rest) = '"' :: Text.doubled '"' (visible token.toList) := by
    rw [visible_of_nul ((nul_mem_string token).2 nul)]
    have held : '\x00' ∈ Text.doubled '"' token.toList := (Text.mem_doubled token.toList).2 nul
    have inside := visible_of_nul held ['"']
    rw [visible_doubled] at inside
    simpa [string, Text.enclosed, visible] using inside
  rw [seen]
  exact Lexeme.next_unclosed _

theorem word_of_nul {token : String} (nul : '\x00' ∈ token.toList) : word token = string token := by
  unfold word
  split_ifs with bare
  · simp only [Bool.and_eq_true, List.all_eq_true] at bare
    exact absurd (bare.2 '\x00' nul) (by decide)
  · rfl

-- The words before the one that is cut off are read as they stand, and one of them may be refused first.
theorem run_cut (scope : Scope) {tokens : List String} (nul : ∃ token ∈ tokens, '\x00' ∈ token.toList) :
    ∃ fault, (scope.detail = .full → fault = .unterminated) ∧
      ∀ (operator : Operator) (left : Option Query) (fuel : Nat),
        (visible (Machine.joined operator tokens)).length < fuel →
          Machine.run scope fuel (Machine.waiting operator left) (visible (Machine.joined operator tokens)) =
            .error fault := by
  induction tokens with
  | nil => simp at nul
  | cons token rest ih =>
    by_cases cut : '\x00' ∈ token.toList
    · refine ⟨.unterminated, fun _ => rfl, fun operator left fuel enough => ?_⟩
      obtain ⟨behind, shape⟩ : ∃ behind,
          Machine.joined operator (token :: rest) = (string token).toList ++ behind := by
        rw [← word_of_nul cut]
        cases rest with
        | nil => exact ⟨[], by simp [Machine.joined]⟩
        | cons next rest => exact ⟨_, Machine.joined_cons operator token next rest⟩
      obtain ⟨fuel, rfl⟩ : ∃ further, fuel = further + 1 := ⟨fuel - 1, by omega⟩
      rw [shape]
      exact Machine.run_refused scope fuel _ (next_cut cut behind)
    · obtain ⟨next, rest, rfl⟩ : ∃ next more, rest = next :: more := by
        cases rest with
        | nil => simp [cut] at nul
        | cons next rest => exact ⟨next, rest, rfl⟩
      have nul : ∃ token ∈ next :: rest, '\x00' ∈ token.toList := by simpa [cut] using nul
      have begun (operator : Operator) (left : Option Query) {fuel : Nat}
          (enough : (visible (Machine.joined operator (token :: next :: rest))).length < fuel) :
          ∃ further, (visible (Machine.joined operator (next :: rest))).length < further ∧
            Machine.run scope fuel (Machine.waiting operator left)
                (visible (Machine.joined operator (token :: next :: rest))) =
              (scope.vet (.ofString token.toList)).bind fun _ =>
                Machine.run scope further
                  (Machine.waiting operator (some (Query.joinTo operator left (.ofString token.toList))))
                  (visible (Machine.joined operator (next :: rest))) := by
        have separator : '\x00' ∉ operator.separator := by cases operator <;> decide
        have seen : visible (Machine.joined operator (token :: next :: rest)) =
            (word token).toList ++ (operator.separator ++
              visible (Machine.joined operator (next :: rest))) := by
          rw [Machine.joined_cons, visible_append (mt (nul_mem_word token).1 cut), visible_append separator]
        rw [seen] at enough ⊢
        obtain ⟨fuel, rfl⟩ : ∃ further, fuel = further + 3 :=
          ⟨fuel - 3, by simp [Operator.separator] at enough; omega⟩
        refine ⟨fuel + 1, ?_, Machine.run_operand scope operator token left _ fuel⟩
        simp [Operator.separator] at enough
        omega
      cases vetted : scope.vet (.ofString token.toList) with
      | error fault =>
        refine ⟨fault, fun full => ?_, fun operator left fuel enough => ?_⟩
        · rw [Scope.vet_full full] at vetted
          cases vetted
        · obtain ⟨further, -, shape⟩ := begun operator left enough
          rw [shape, vetted]
          rfl
      | ok _ =>
        obtain ⟨fault, full, cut⟩ := ih nul
        refine ⟨fault, full, fun operator left fuel enough => ?_⟩
        obtain ⟨further, more, shape⟩ := begun operator left enough
        rw [shape, vetted]
        exact cut operator _ further more

theorem head_visible {text : List Char} (head : text.head? ≠ some '*') :
    (visible text).head? ≠ some '*' := by
  cases text with
  | nil => simp [visible]
  | cons c text =>
    by_cases zero : c = '\x00'
    · simp [visible, zero]
    · simpa [visible, zero] using head

theorem joined_cut (scope : Scope) {first : String} {rest : List String}
    (nul : ∃ token ∈ first :: rest, '\x00' ∈ token.toList) :
    ∃ fault, (scope.detail = .full → fault = .unterminated) ∧
      ∀ (operator : Operator) (expression : String),
        expression.toList = Machine.joined operator (first :: rest) →
          query? scope expression = .error fault := by
  obtain ⟨fault, full, cut⟩ := run_cut scope nul
  refine ⟨fault, full, fun operator expression written => ?_⟩
  rw [query?_eq_read, written]
  · exact congrArg (Except.map some) (cut operator none _ (Nat.lt_succ_self _))
  · rw [written]
    exact head_visible (head_joined operator first rest)

theorem string_cut (scope : Scope) {text : String} (nul : '\x00' ∈ text.toList) :
    query? scope (string text) = .error .unterminated := by
  have cut := next_cut nul []
  rw [List.append_nil] at cut
  rw [query?_eq_read, Expression.read, Machine.run_refused scope _ _ cut]
  · rfl
  · exact head_visible (by simp [string, Text.enclosed])

/-- Whether a token holds the character zero. -/
def holdsNul (tokens : List String) : Bool := tokens.any fun token => token.toList.contains '\x00'

theorem holdsNul_iff {tokens : List String} :
    holdsNul tokens = true ↔ ∃ token ∈ tokens, '\x00' ∈ token.toList := by
  simp [holdsNul]

theorem check_joined {scope : Scope} (full : scope.detail = .full) {mode : Mode}
    {join : List String → String} (joins : join? mode = some join) {tokens : List String}
    (some : tokens ≠ []) :
    check scope (join tokens) = if holdsNul tokens then .error .unterminated else .ok () := by
  obtain ⟨first, rest, rfl⟩ := List.exists_cons_of_ne_nil some
  have each {expression : String} {query : Query}
      (cut : (∃ token ∈ first :: rest, '\x00' ∈ token.toList) →
        query? scope expression = .error .unterminated)
      (reads : (∀ token ∈ first :: rest, '\x00' ∉ token.toList) → Reads scope expression query) :
      check scope expression = if holdsNul (first :: rest) then .error .unterminated else .ok () := by
    split
    · rename_i nul
      rw [check, cut (holdsNul_iff.1 nul)]
      rfl
    · rename_i clean
      rw [holdsNul_iff] at clean
      have clean : ∀ token ∈ first :: rest, '\x00' ∉ token.toList :=
        fun token member nul => clean ⟨token, member, nul⟩
      rw [check, (reads clean).accepted full]
      rfl
  have cut (operator : Operator) {expression : String}
      (written : expression.toList = Machine.joined operator (first :: rest))
      (nul : ∃ token ∈ first :: rest, '\x00' ∈ token.toList) :
      query? scope expression = .error .unterminated := by
    obtain ⟨fault, isFull, cut⟩ := joined_cut scope nul
    rw [cut operator expression written, isFull full]
  cases mode with
  | raw => cases joins
  | any =>
    cases joins
    exact each (cut .or (toList_joinAny _)) (reads_joined scope .or first rest (toList_joinAny _))
  | all =>
    cases joins
    exact each (cut .and (toList_joinAll _)) (reads_joined scope .and first rest (toList_joinAll _))
  | phrase =>
    cases joins
    refine each (fun nul => string_cut scope ((nul_mem_phrase _).2 nul)) fun clean => reads_string scope ?_
    rw [nul_mem_phrase]
    rintro ⟨token, member, nul⟩
    exact clean token member nul

-- An index has to hold as much for one operator as for the other.
theorem vet_chain (scope : Scope) (operator other : Operator) {first second : Query}
    (same : scope.vet first = scope.vet second) (rest : List Query) :
    scope.vet (Query.chain operator first rest) = scope.vet (Query.chain other second rest) := by
  induction rest generalizing first second with
  | nil => exact same
  | cons query rest ih =>
    apply ih
    simp only [Scope.vet, same]

theorem phrases_chain (operator other : Operator) {first second : Query}
    (same : first.phrases = second.phrases) (rest : List Query) :
    (Query.chain operator first rest).phrases = (Query.chain other second rest).phrases := by
  induction rest generalizing first second with
  | nil => exact same
  | cons query rest ih =>
    apply ih
    simp only [Query.phrases, same]

theorem joined_alike (scope : Scope) (first : String) (rest : List String) :
    (∃ fault, query? scope (joinAny (first :: rest)) = .error fault ∧
      query? scope (joinAll (first :: rest)) = .error fault) ∨
    (holdsNul (first :: rest) = false ∧ ∀ operator expression,
      expression.toList = Machine.joined operator (first :: rest) →
        query? scope expression = .ok (some
          (.chain operator (.ofString first.toList) (rest.map fun token => .ofString token.toList)))) := by
  by_cases nul : ∃ token ∈ first :: rest, '\x00' ∈ token.toList
  · obtain ⟨fault, -, cut⟩ := joined_cut scope nul
    exact .inl ⟨fault, cut .or _ (toList_joinAny _), cut .and _ (toList_joinAll _)⟩
  have clean : ∀ token ∈ first :: rest, '\x00' ∉ token.toList :=
    fun token member held => nul ⟨token, member, held⟩
  have read (operator : Operator) {expression : String}
      (written : expression.toList = Machine.joined operator (first :: rest)) :=
    (reads_joined scope operator first rest written clean).read
  have same (operator : Operator) := @vet_chain scope operator .or (.ofString first.toList) _ rfl
    (rest.map fun token => .ofString token.toList)
  cases vetted : scope.vet
      (.chain .or (.ofString first.toList) (rest.map fun token => .ofString token.toList)) with
  | error fault =>
    refine .inl ⟨fault, ?_, ?_⟩
    · rw [read .or (toList_joinAny _), vetted]
      rfl
    · rw [read .and (toList_joinAll _), same .and, vetted]
      rfl
  | ok _ =>
    refine .inr ⟨?_, ?_⟩
    · rwa [← Bool.not_eq_true, holdsNul_iff]
    · intro operator expression written
      rw [read operator written, same operator, vetted]
      rfl

/-- Joined tokens are read as one string for each token, in the order of the tokens, whatever they hold
apart from the character zero. -/
theorem joined_tokens_read (scope : Scope) (first : String) (rest : List String)
    (clean : ∀ token ∈ first :: rest, '\x00' ∉ token.toList) :
    Reads scope (joinAny (first :: rest))
      (.chain .or (.ofString first.toList) (rest.map fun token => .ofString token.toList)) ∧
    Reads scope (joinAll (first :: rest))
      (.chain .and (.ofString first.toList) (rest.map fun token => .ofString token.toList)) ∧
    Reads scope (joinPhrase (first :: rest))
      (.ofString (String.intercalate " " (first :: rest)).toList) := by
  refine ⟨?_, ?_, ?_⟩
  · exact reads_joined scope .or first rest (toList_joinAny _) clean
  · exact reads_joined scope .and first rest (toList_joinAll _) clean
  · apply reads_string
    rw [nul_mem_phrase]
    rintro ⟨token, member, nul⟩
    exact clean token member nul

-- Words that are spelt like operators, nothing at all, and every mark of the language.
theorem joined_marks_read :
    (∀ token ∈ ["NOT", "", "a\"b (*^:+-)"], '\x00' ∉ token.toList) ∧
    Reads { columns := ["content"] } (joinAny ["NOT", "", "a\"b (*^:+-)"])
      (.chain .or (.ofString "NOT".toList)
        [.ofString "".toList, .ofString "a\"b (*^:+-)".toList]) := by
  have clean : ∀ token ∈ ["NOT", "", "a\"b (*^:+-)"], '\x00' ∉ token.toList := by decide
  exact ⟨clean, (joined_tokens_read { columns := ["content"] } "NOT" _ clean).1⟩

end TextQuery.Candidate
