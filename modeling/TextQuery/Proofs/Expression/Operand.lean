import TextQuery.Expression.Machine

set_option autoImplicit false

namespace TextQuery.Expression

def Query.ofString (content : List Char) : Query := .cluster (.single [⟨content, false⟩])

namespace Scope

def vet (scope : Scope) : Query → Except Fault Unit
  | .cluster cluster => scope.checkCluster cluster
  | .within _ query => do
    scope.vet query
    scope.checkFilter
  | .joined _ left right | .listed left right => do
    scope.vet left
    scope.vet right

theorem vet_full {scope : Scope} (full : scope.detail = .full) (query : Query) :
    scope.vet query = .ok () := by
  induction query with
  | cluster cluster => simp [vet, checkCluster, full]
  | within columns query ih => simp [vet, ih, checkFilter, full, bind, Except.bind]
  | joined operator left right first second => simp [vet, first, second, bind, Except.bind]
  | listed left right first second => simp [vet, first, second, bind, Except.bind]

end Scope

namespace Machine

-- An operand ends before an operator and at the end of the expression.
def EndsOperand (look : Option Lexeme) : Prop :=
  look = none ∨ ∃ lexeme, look = some lexeme ∧ lexeme.terminal ∈ operators

theorem atStart_cases {stack : Stack} (start : atStart stack = true) :
    stack = [] ∨ ∃ terminal rest, stack = .mark terminal :: rest ∧
      (terminal = .leftParen ∨ terminal = .and ∨ terminal = .or ∨ terminal = .not) := by
  unfold atStart at start
  split at start <;> simp_all

theorem move_start {scope : Scope} {stack : Stack} {lexeme : Lexeme} (start : atStart stack = true)
    (word : lexeme.terminal = .word) : move scope stack (some lexeme) = .shift (.word lexeme) := by
  obtain rfl | ⟨terminal, rest, rfl, rfl | rfl | rfl | rfl⟩ := atStart_cases start <;>
    simp [move, atStart, expect, starters, word]

theorem feed_start {scope : Scope} {stack : Stack} {lexeme : Lexeme} (fuel : Nat)
    (start : atStart stack = true) (word : lexeme.terminal = .word)
    (room : stack.length < capacity) :
    feed scope (fuel + 1) stack (some lexeme) = .ok (.inl (.word lexeme :: stack)) := by
  simp [feed, move_start start word, room]

-- One lemma for each symbol that a string becomes, where an operand begins below it.

section

variable {scope : Scope} {below : Stack} {look : Option Lexeme}

attribute [local simp] move

theorem move_word (lexeme : Lexeme) (start : atStart below = true) (ends : EndsOperand look) :
    move scope (.word lexeme :: below) look = push (.suffix false) (.word lexeme :: below) := by
  have string : onWord scope lexeme below look = push (.suffix false) (.word lexeme :: below) := by
    rcases ends with rfl | ⟨next, rfl, operator⟩
    · rfl
    · simp only [operators, List.mem_cons, List.not_mem_nil, or_false] at operator
      rcases operator with operator | operator | operator <;>
        simp [onWord, terminal?, operator]
  obtain rfl | ⟨terminal, rest, rfl, rfl | rfl | rfl | rfl⟩ := atStart_cases start <;>
    simpa using string

theorem move_suffix (lexeme : Lexeme) (isOpen : Bool) (start : atStart below = true) :
    move scope (.suffix isOpen :: .word lexeme :: below) look =
      .reduce (.phrase [⟨lexeme.content, isOpen⟩] :: below) := by
  obtain rfl | ⟨terminal, rest, rfl, rfl | rfl | rfl | rfl⟩ := atStart_cases start <;>
    simp

theorem move_phrase (phrase : Phrase) (start : atStart below = true) (ends : EndsOperand look) :
    move scope (.phrase phrase :: below) look = .reduce (.cluster (.single phrase) :: below) := by
  have noPlus : terminal? look ≠ some .plus := by
    rcases ends with rfl | ⟨next, rfl, operator⟩
    · simp [terminal?]
    · intro plus
      simp only [terminal?, Option.map_some, Option.some.injEq] at plus
      simp [plus, operators] at operator
  obtain rfl | ⟨terminal, rest, rfl, rfl | rfl | rfl | rfl⟩ := atStart_cases start <;>
    simp [onPhrase, noPlus]

theorem move_cluster (cluster : Cluster) (start : atStart below = true) :
    move scope (.cluster cluster :: below) look =
      ofExcept ((scope.checkCluster cluster).map fun _ => .unit (.cluster cluster) :: below) := by
  obtain rfl | ⟨terminal, rest, rfl, rfl | rfl | rfl | rfl⟩ := atStart_cases start <;>
    cases checked : scope.checkCluster cluster <;>
    simp [onCluster, checked, bind, Except.bind, Except.map, pure, Except.pure]

theorem move_unit (query : Query) (start : atStart below = true) :
    move scope (.unit query :: below) look = .reduce (.sequence query :: below) := by
  obtain rfl | ⟨terminal, rest, rfl, rfl | rfl | rfl | rfl⟩ := atStart_cases start <;>
    simp

theorem move_sequence (query : Query) (ends : EndsOperand look) :
    move scope (.sequence query :: below) look = .reduce (.expression query :: below) := by
  rcases ends with rfl | ⟨next, rfl, operator⟩
  · simp [terminal?]
  · simp only [operators, List.mem_cons, List.not_mem_nil, or_false] at operator
    rcases operator with operator | operator | operator <;>
      simp [terminal?, operator, followers]

theorem feed_string (lexeme : Lexeme) (fuel : Nat) (start : atStart below = true)
    (ends : EndsOperand look) (room : below.length + 1 < capacity) :
    feed scope (fuel + 6) (.word lexeme :: below) look =
      (scope.vet (.ofString lexeme.content)).bind fun _ =>
        feed scope fuel (.expression (.ofString lexeme.content) :: below) look := by
  rw [feed, move_word lexeme start ends, push, if_pos (by simpa using room)]
  simp only [feed, move_suffix lexeme false start, move_phrase _ start ends,
    move_cluster _ start, Scope.vet, Query.ofString]
  cases scope.checkCluster (.single [⟨lexeme.content, false⟩]) with
  | error fault => rfl
  | ok _ =>
    simp only [Except.map, ofExcept, Except.bind, move_unit _ start, move_sequence _ ends]

end

end Machine

end TextQuery.Expression
