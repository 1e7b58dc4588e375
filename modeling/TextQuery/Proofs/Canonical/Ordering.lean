import Mathlib.Data.List.Chain
import TextQuery.Text.Canonical

set_option autoImplicit false

namespace TextQuery.Text.Canonical

def settleAll (settled codes : List Nat) : List Nat :=
  codes.foldl (fun settled code => settle code settled) settled

@[simp] theorem settleAll_cons (settled : List Nat) (code : Nat) (codes : List Nat) :
    settleAll settled (code :: codes) = settleAll (settle code settled) codes := rfl

theorem settleAll_append (settled first second : List Nat) :
    settleAll settled (first ++ second) = settleAll (settleAll settled first) second :=
  List.foldl_append

theorem reorder_eq (codes : List Nat) : reorder codes = (settleAll [] codes).reverse := rfl

theorem settle_perm (code : Nat) (settled : List Nat) : (settle code settled).Perm (code :: settled) := by
  induction settled with
  | nil => exact .refl _
  | cons last rest ih =>
    simp only [settle]
    split
    · exact (ih.cons last).trans (.swap code last rest)
    · exact .refl _

theorem settleAll_perm (settled codes : List Nat) : (settleAll settled codes).Perm (codes ++ settled) := by
  induction codes generalizing settled with
  | nil => exact .refl _
  | cons code codes ih =>
    exact (ih _).trans (((settle_perm code settled).append_left codes).trans List.perm_middle)

theorem reorder_perm (codes : List Nat) : (reorder codes).Perm codes := by
  have settled := settleAll_perm [] codes
  rw [List.append_nil] at settled
  exact (List.reverse_perm _).trans settled

theorem mem_reorder {code : Nat} {codes : List Nat} : code ∈ reorder codes ↔ code ∈ codes :=
  (reorder_perm codes).mem_iff

def Follows (first second : Nat) : Prop := classOf second = 0 ∨ classOf first ≤ classOf second

def Ordered (codes : List Nat) : Prop := codes.IsChain Follows

theorem settle_of_follows {code : Nat} {settled : List Nat}
    (follows : ∀ last ∈ settled.head?, Follows last code) : settle code settled = code :: settled := by
  cases settled with
  | nil => rfl
  | cons last rest =>
    have free : ¬(classOf code ≠ 0 ∧ classOf code < classOf last) := by
      have after : Follows last code := follows last rfl
      unfold Follows at after
      omega
    simp only [settle]
    rw [if_neg (by simpa using free)]

theorem settleAll_ordered {settled codes : List Nat} (ordered : Ordered (settled.reverse ++ codes)) :
    settleAll settled codes = codes.reverse ++ settled := by
  induction codes generalizing settled with
  | nil => rfl
  | cons code codes ih =>
    have follows : ∀ last ∈ settled.head?, Follows last code := by
      intro last first
      have pairs := (List.isChain_append.1 ordered).2.2
      exact pairs last (by simpa using first) code rfl
    have grown : Ordered ((code :: settled).reverse ++ codes) := by simpa using ordered
    rw [settleAll_cons, settle_of_follows follows, ih grown]
    simp

theorem reorder_ordered {codes : List Nat} (ordered : Ordered codes) : reorder codes = codes := by
  rw [reorder_eq, settleAll_ordered (by simpa using ordered)]
  simp

-- The text is given backwards, so its order is, too.
theorem settle_isChain {code : Nat} {settled : List Nat}
    (ordered : settled.IsChain fun second first => Follows first second) :
    (settle code settled).IsChain fun second first => Follows first second := by
  induction settled with
  | nil => exact .singleton code
  | cons last rest ih =>
    simp only [settle]
    split
    · next moves =>
      have moves : classOf code ≠ 0 ∧ classOf code < classOf last := by simpa using moves
      have inside := ih ordered.tail
      refine List.isChain_cons.2 ⟨?_, inside⟩
      intro first isFirst
      cases rest with
      | nil =>
        cases isFirst
        exact .inr (by omega)
      | cons next rest =>
        have before := (List.isChain_cons_cons.1 ordered).1
        simp only [settle] at isFirst
        split at isFirst
        · cases isFirst
          exact before
        · cases isFirst
          exact .inr (by omega)
    · next stays =>
      refine List.isChain_cons_cons.2 ⟨?_, ordered⟩
      by_cases zero : classOf code = 0
      · exact .inl zero
      · exact .inr (by simpa [zero] using stays)

theorem settleAll_isChain {settled codes : List Nat}
    (ordered : settled.IsChain fun second first => Follows first second) :
    (settleAll settled codes).IsChain fun second first => Follows first second := by
  induction codes generalizing settled with
  | nil => exact ordered
  | cons code codes ih => exact ih (settle_isChain ordered)

theorem ordered_reorder (codes : List Nat) : Ordered (reorder codes) := by
  rw [reorder_eq, Ordered, List.isChain_reverse]
  exact settleAll_isChain .nil

/-- Of texts that come out the same behind whatever stands before them. -/
def Alike (first second : List Nat) : Prop := ∀ settled, settleAll settled first = settleAll settled second

namespace Alike

variable {first second third front back : List Nat}

theorem refl (codes : List Nat) : Alike codes codes := fun _ => rfl

theorem symm (alike : Alike first second) : Alike second first := fun settled => (alike settled).symm

theorem trans (alike : Alike first second) (next : Alike second third) : Alike first third :=
  fun settled => (alike settled).trans (next settled)

theorem append (before : Alike first second) (after : Alike front back) :
    Alike (first ++ front) (second ++ back) := by
  intro settled
  rw [settleAll_append, settleAll_append, before, after]

theorem reorder (alike : Alike first second) : reorder first = reorder second := by
  rw [reorder_eq, reorder_eq, alike]

end Alike

theorem settle_comm {first second : Nat} (firstMark : classOf first ≠ 0) (secondMark : classOf second ≠ 0)
    (differ : classOf first ≠ classOf second) (settled : List Nat) :
    settle second (settle first settled) = settle first (settle second settled) := by
  induction settled with
  | nil =>
    simp only [settle]
    by_cases less : classOf first < classOf second
    · have more : ¬classOf second < classOf first := by omega
      simp [firstMark, less, more]
    · have more : classOf second < classOf first := by omega
      simp [secondMark, less, more]
  | cons last rest ih =>
    by_cases firstMoves : classOf first < classOf last
    · by_cases secondMoves : classOf second < classOf last
      · simp [settle, firstMark, secondMark, firstMoves, secondMoves, ih]
      · have less : classOf first < classOf second := by omega
        simp [settle, firstMark, firstMoves, secondMoves, less]
    · by_cases secondMoves : classOf second < classOf last
      · have less : classOf second < classOf first := by omega
        simp [settle, secondMark, firstMoves, secondMoves, less]
      · by_cases less : classOf first < classOf second
        · have more : ¬classOf second < classOf first := by omega
          simp [settle, firstMark, firstMoves, secondMoves, less, more]
        · have more : classOf second < classOf first := by omega
          simp [settle, secondMark, firstMoves, secondMoves, less, more]

theorem alike_move {code : Nat} {marks : List Nat} (isMark : classOf code ≠ 0)
    (all : ∀ mark ∈ marks, classOf mark ≠ 0 ∧ classOf mark ≠ classOf code) :
    Alike (marks ++ [code]) (code :: marks) := by
  induction marks with
  | nil => exact .refl _
  | cons mark marks ih =>
    obtain ⟨⟨marked, differs⟩, rest⟩ := List.forall_mem_cons.1 all
    have inside : Alike (mark :: (marks ++ [code])) (mark :: code :: marks) :=
      (Alike.refl [mark]).append (ih rest)
    refine inside.trans fun settled => ?_
    simp only [settleAll_cons]
    rw [settle_comm marked isMark differs]

end TextQuery.Text.Canonical
