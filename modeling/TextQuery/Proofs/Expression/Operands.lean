import TextQuery.Proofs.Expression.Operand
import TextQuery.Proofs.Expression.Spelling

set_option autoImplicit false

namespace TextQuery.Expression

namespace Operator

def terminal : Operator → Terminal
  | .or => .or
  | .and => .and
  | .not => .not

def name : Operator → String
  | .or => "OR"
  | .and => "AND"
  | .not => "NOT"

def separator (operator : Operator) : List Char := ' ' :: (operator.name.toList ++ [' '])

@[simp]
theorem ofTerminal?_terminal (operator : Operator) :
    ofTerminal? operator.terminal = some operator := by
  cases operator <;> rfl

theorem terminal_mem (operator : Operator) : operator.terminal ∈ Machine.operators := by
  cases operator <;> decide

theorem separator_ends (operator : Operator) (rest : List Char) :
    Lexeme.Ends (operator.separator ++ rest) :=
  Lexeme.ends_space _

theorem next_name (operator : Operator) {rest : List Char} (ends : Lexeme.Ends rest) :
    Lexeme.next (operator.name.toList ++ rest) =
      .ok (some (.plain operator.terminal operator.name.toList, rest)) := by
  have bare : operator.name.toList.all Lexeme.isBare = true := by cases operator <;> decide
  have bare := List.all_eq_true.1 bare
  cases operator <;>
    exact Lexeme.next_bare (by decide) bare ends

end Operator

namespace Query

def joinTo (operator : Operator) : Option Query → Query → Query
  | none, query => query
  | some left, query => .joined operator left query

def chain (operator : Operator) (first : Query) (rest : List Query) : Query :=
  rest.foldl (.joined operator) first

end Query

open Query

namespace Scope

variable {scope : Scope}

theorem vet_chain_error {operator : Operator} {first : Query} {fault : Fault} (refused : scope.vet first = .error fault)
    (rest : List Query) : scope.vet (chain operator first rest) = .error fault := by
  induction rest generalizing first with
  | nil => exact refused
  | cons query rest ih =>
    apply ih
    simp [vet, refused, bind, Except.bind]

theorem vet_joinTo (operator : Operator) {left : Option Query} (vetted : ∀ query ∈ left, scope.vet query = .ok ())
    (query : Query) : scope.vet (joinTo operator left query) = scope.vet query := by
  cases left with
  | none => rfl
  | some left => simp [joinTo, vet, vetted left rfl, bind, Except.bind]

end Scope

namespace Machine

-- The stack on which the operand behind an operator begins.
def waiting (operator : Operator) : Option Query → Stack
  | none => []
  | some left => [.mark operator.terminal, .expression left]

variable (scope : Scope) (operator : Operator)

theorem waiting_start (left : Option Query) : atStart (waiting operator left) = true := by
  cases left with
  | none => rfl
  | some left => cases operator <;> rfl

theorem waiting_room (left : Option Query) : (waiting operator left).length + 1 < capacity := by
  cases left <;> simp [waiting, capacity]

attribute [local simp] feed

-- An operand joins what waits for it unless a tighter operator follows.
theorem feed_joined {look : Option Lexeme} (left : Option Query) (query : Query) (fuel : Nat)
    (ends : look = none ∨ ∃ lexeme, look = some lexeme ∧ lexeme.terminal = operator.terminal) :
    ∃ further, feed scope (fuel + 2) (.expression query :: waiting operator left) look =
      feed scope (further + 1) [.expression (joinTo operator left query)] look := by
  cases left with
  | none => exact ⟨fuel + 1, rfl⟩
  | some left =>
    have joined : onOperand query operator left [] look =
        .reduce [.expression (.joined operator left query)] := by
      rcases ends with rfl | ⟨lexeme, rfl, same⟩
      · rfl
      · simp [onOperand, terminal?, same]
    refine ⟨fuel, ?_⟩
    cases operator <;>
      simp [waiting, Operator.terminal, move, onExpression, joined, joinTo]

theorem feed_end (query : Query) (fuel : Nat) :
    feed scope (fuel + 1) [.expression query] none = .ok (.inr query) := by
  simp [move, onExpression]

variable {operator}

theorem feed_operator (query : Query) (fuel : Nat) {lexeme : Lexeme}
    (same : lexeme.terminal = operator.terminal) :
    feed scope (fuel + 1) [.expression query] (some lexeme) =
      .ok (.inl (waiting operator (some query))) := by
  cases operator <;>
    simp [move, onExpression, expect, operators, same, Operator.terminal, waiting, capacity]

variable (operator)

theorem feed_operand {look : Option Lexeme} (left : Option Query) (lexeme : Lexeme)
    (ends : look = none ∨ ∃ lexeme, look = some lexeme ∧ lexeme.terminal = operator.terminal) :
    ∃ further, feed scope reductions (.word lexeme :: waiting operator left) look =
      (scope.vet (.ofString lexeme.content)).bind fun _ =>
        feed scope (further + 1)
          [.expression (joinTo operator left (.ofString lexeme.content))] look := by
  have operand : EndsOperand look := by
    rcases ends with none | ⟨next, found, same⟩
    · exact .inl none
    · exact .inr ⟨next, found, same ▸ operator.terminal_mem⟩
  obtain ⟨further, joined⟩ :=
    feed_joined scope operator left (.ofString lexeme.content) 1592 ends
  refine ⟨further, ?_⟩
  rw [← joined]
  exact feed_string lexeme 1594 (waiting_start operator left) operand (waiting_room operator left)

attribute [local simp] run

theorem run_refused {text : List Char} {fault : Fault} (fuel : Nat) (stack : Stack)
    (refused : Lexeme.next text = .error fault) :
    run scope (fuel + 1) stack text = .error fault := by
  simp [refused]

theorem run_lexeme {text rest : List Char} {lexeme : Lexeme} (fuel : Nat) (stack : Stack)
    (found : Lexeme.next text = .ok (some (lexeme, rest))) :
    run scope (fuel + 1) stack text =
      (feed scope reductions stack (some lexeme)).bind fun
        | .inr query => .ok query
        | .inl stack => run scope fuel stack rest := by
  simp only [run, found, Option.map_some, Option.getD_some]
  rfl

theorem run_space (fuel : Nat) (stack : Stack) (text : List Char) :
    run scope (fuel + 1) stack (' ' :: text) = run scope (fuel + 1) stack text := by
  simp only [run, Lexeme.next_space]

theorem run_last (left : Option Query) (lexeme : Lexeme) (fuel : Nat) :
    run scope (fuel + 1) (.word lexeme :: waiting operator left) [] =
      (scope.vet (.ofString lexeme.content)).map fun _ =>
        joinTo operator left (.ofString lexeme.content) := by
  obtain ⟨further, fed⟩ :=
    feed_operand scope operator left lexeme (.inl rfl)
  have none : Lexeme.next [] = .ok none := rfl
  simp only [run, none, Option.map_none, fed, feed_end]
  cases scope.vet (.ofString lexeme.content) <;> rfl

theorem run_operator (left : Option Query) (lexeme : Lexeme) (rest : List Char) (fuel : Nat) :
    run scope (fuel + 2) (.word lexeme :: waiting operator left) (operator.separator ++ rest) =
      (scope.vet (.ofString lexeme.content)).bind fun _ =>
        run scope (fuel + 1)
          (waiting operator (some (joinTo operator left (.ofString lexeme.content)))) rest := by
  have found : Lexeme.next (operator.name.toList ++ ' ' :: rest) =
      .ok (some (.plain operator.terminal operator.name.toList, ' ' :: rest)) :=
    operator.next_name (Lexeme.ends_space rest)
  obtain ⟨further, fed⟩ := feed_operand scope operator left lexeme
    (.inr ⟨.plain operator.terminal operator.name.toList, rfl, rfl⟩)
  rw [Operator.separator, List.cons_append, List.append_assoc, List.singleton_append, run_space,
    run_lexeme _ _ _ found, fed]
  cases scope.vet (.ofString lexeme.content) with
  | error fault => rfl
  | ok _ =>
    simp only [Except.bind]
    rw [feed_operator _ _ _ rfl]
    exact run_space _ _ _ _

theorem run_start {text rest : List Char} {lexeme : Lexeme} (left : Option Query) (fuel : Nat)
    (found : Lexeme.next text = .ok (some (lexeme, rest))) (word : lexeme.terminal = .word) :
    run scope (fuel + 1) (waiting operator left) text =
      run scope fuel (.word lexeme :: waiting operator left) rest := by
  have room := waiting_room operator left
  have fed : feed scope reductions (waiting operator left) (some lexeme) =
      .ok (.inl (.word lexeme :: waiting operator left)) :=
    feed_start 1599 (waiting_start operator left) word (by omega)
  rw [run_lexeme _ _ _ found, fed]
  rfl

theorem run_word (token : String) (left : Option Query) {rest : List Char}
    (ends : Lexeme.Ends rest) (fuel : Nat) :
    run scope (fuel + 1) (waiting operator left) ((Candidate.word token).toList ++ rest) =
      run scope fuel (.word (spelling token) :: waiting operator left) rest :=
  run_start scope operator left fuel (next_word token ends) rfl

theorem run_operand (token : String) (left : Option Query) (rest : List Char) (fuel : Nat) :
    run scope (fuel + 3) (waiting operator left)
        ((Candidate.word token).toList ++ (operator.separator ++ rest)) =
      (scope.vet (.ofString token.toList)).bind fun _ =>
        run scope (fuel + 1)
          (waiting operator (some (joinTo operator left (.ofString token.toList)))) rest := by
  rw [run_word scope operator token left (operator.separator_ends rest)]
  exact run_operator scope operator left (spelling token) rest fuel

-- Words between operators.
def joined (operator : Operator) (tokens : List String) : List Char :=
  operator.separator.intercalate (tokens.map fun token => (Candidate.word token).toList)

theorem joined_cons (token next : String) (rest : List String) :
    joined operator (token :: next :: rest) =
      (Candidate.word token).toList ++ (operator.separator ++ joined operator (next :: rest)) := by
  simp [joined, List.intercalate_cons_cons]

theorem run_joined (token : String) (rest : List String) (left : Option Query)
    (vetted : ∀ query ∈ left, scope.vet query = .ok ()) {fuel : Nat}
    (enough : (joined operator (token :: rest)).length < fuel) :
    let query := chain operator (joinTo operator left (.ofString token.toList))
      (rest.map fun token => .ofString token.toList)
    run scope fuel (waiting operator left) (joined operator (token :: rest)) =
      (scope.vet query).map fun _ => query := by
  induction rest generalizing token left fuel with
  | nil =>
    have shape : joined operator [token] = (Candidate.word token).toList ++ [] := by
      simp [joined]
    rw [shape] at enough ⊢
    obtain ⟨fuel, rfl⟩ : ∃ further, fuel = further + 2 :=
      ⟨fuel - 2, by have := word_pos token; simp at enough; omega⟩
    rw [run_word scope operator token left Lexeme.ends_nil, run_last]
    exact congrArg (Except.map _) (Scope.vet_joinTo operator vetted _).symm
  | cons next rest ih =>
    rw [joined_cons] at enough ⊢
    obtain ⟨fuel, rfl⟩ : ∃ further, fuel = further + 3 :=
      ⟨fuel - 3, by simp [Operator.separator] at enough; omega⟩
    rw [run_operand]
    -- What has been read before the next operand is vetted before it.
    have same := Scope.vet_joinTo operator vetted (.ofString token.toList)
    cases first : scope.vet (.ofString token.toList) with
    | error fault =>
      rw [first] at same
      simp only [Except.bind]
      rw [Scope.vet_chain_error same]
      rfl
    | ok _ =>
      rw [first] at same
      refine ih next (some _) ?_ ?_
      · rintro query ⟨⟩
        exact same
      · simp [Operator.separator] at enough
        omega

end Machine

end TextQuery.Expression
