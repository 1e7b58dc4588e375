import TextQuery.Proofs.Canonical.Decomposing

set_option autoImplicit false

namespace TextQuery.Text

namespace Canonical

theorem composeSyllable?_cases {first second whole : Nat}
    (composed : composeSyllable? first second = some whole) :
    ((0x1100 ≤ first ∧ first < 0x1113) ∧ (0x1161 ≤ second ∧ second < 0x1176) ∧
        whole = 0xAC00 + ((first - 0x1100) * 21 + (second - 0x1161)) * 28) ∨
      ((0xAC00 ≤ first ∧ first < 0xD7A4) ∧ (first - 0xAC00) % 28 = 0 ∧ (0x11A7 < second ∧ second < 0x11C3) ∧
        whole = first + (second - 0x11A7)) := by
  unfold composeSyllable? at composed
  split at composed
  · next parts =>
    simp only [Bool.and_eq_true, decide_eq_true_iff] at parts
    obtain ⟨⟨⟨low, high⟩, from'⟩, to'⟩ := parts
    exact .inl ⟨⟨low, high⟩, ⟨from', to'⟩, (Option.some.inj composed).symm⟩
  split at composed
  · next parts =>
    simp only [Bool.and_eq_true, decide_eq_true_iff, isSyllable_iff, beq_iff_eq] at parts
    obtain ⟨⟨⟨syllable, even⟩, low⟩, high⟩ := parts
    exact .inr ⟨syllable, even, ⟨low, high⟩, (Option.some.inj composed).symm⟩
  · cases composed

theorem parts?_syllable {index : Nat} (bound : index < 11172) :
    parts? (syllableBase + index) = some (syllableParts (syllableBase + index)) := by
  have syllable : isSyllable (syllableBase + index) = true := by
    rw [isSyllable_iff, show syllableBase = 0xAC00 from rfl]
    omega
  have high : ¬syllableBase + index < 0xC0 := by
    rw [show syllableBase = 0xAC00 from rfl]
    omega
  rw [parts?, if_neg high, if_pos syllable]

theorem decomposed_composeSyllable {first second whole : Nat}
    (composed : composeSyllable? first second = some whole) :
    decomposed whole = decomposed first ++ decomposed second := by
  obtain ⟨lead, vowel, is⟩ | ⟨syllable, even, trail, is⟩ := composeSyllable?_cases composed
  · have split : whole = syllableBase + ((first - 0x1100) * 21 + (second - 0x1161)) * 28 := is
    have parts : syllableParts whole = [first, second] := by
      rw [split, syllableParts_eq, if_pos (by omega)]
      congr 1
      · omega
      · congr 1
        omega
    have found : parts? whole = some (syllableParts whole) := by
      rw [split]
      exact parts?_syllable (by omega)
    rw [decomposed_of_some found, parts]
    simp
  · obtain ⟨index, bound, rfl⟩ := isSyllable_eq (isSyllable_iff.2 syllable)
    have even : index % 28 = 0 := by
      rw [show syllableBase = 0xAC00 from rfl, Nat.add_sub_cancel_left] at even
      exact even
    have split : whole = syllableBase + (index + (second - 0x11A7)) := by
      rw [is, Nat.add_assoc]
    have parts : syllableParts whole = syllableParts (syllableBase + index) ++ [second] := by
      rw [split, syllableParts_eq, syllableParts_eq, if_pos even, if_neg (by omega)]
      simp only [List.cons_append, List.nil_append, List.cons.injEq, and_true]
      omega
    have found : parts? whole = some (syllableParts whole) := by
      rw [split]
      exact parts?_syllable (by omega)
    rw [decomposed_of_some found, decomposed_of_some (parts?_syllable bound), parts]
    simp

theorem compose?_cases {first second whole : Nat} (composed : compose? first second = some whole) :
    composeSyllable? first second = some whole ∨ (whole, first, second) ∈ pairs := by
  unfold compose? at composed
  split at composed
  · cases composed
  split at composed
  · next other syllable =>
    cases composed
    exact .inl syllable
  · obtain ⟨pair, found, rfl⟩ := Option.map_eq_some_iff.1 composed
    have holds := List.find?_some found
    simp only [Bool.and_eq_true, beq_iff_eq] at holds
    obtain ⟨⟨isFirst, isSecond⟩, -⟩ := holds
    subst isFirst isSecond
    exact .inr (List.mem_of_find?_eq_some found)

theorem decomposed_compose {first second whole : Nat} (composed : compose? first second = some whole) :
    decomposed whole = decomposed first ++ decomposed second := by
  obtain syllable | listed := compose?_cases composed
  · exact decomposed_composeSyllable syllable
  · rw [decomposed_of_some (parts?_pair listed)]
    simp

theorem isCode_compose {first second whole : Nat} (composed : compose? first second = some whole) :
    IsCode whole := by
  obtain syllable | listed := compose?_cases composed
  · unfold IsCode
    obtain ⟨lead, vowel, is⟩ | ⟨within, even, trail, is⟩ := composeSyllable?_cases syllable
    · omega
    · omega
  · exact (pairs_wholes _ listed).2.1

-- What comes next is composed with the base, begins anew or is kept.
theorem composeAfter_cases (base : Nat) (kept : List Nat) (code : Nat) (rest : List Nat) :
    (∃ whole, compose? base code = some whole ∧ (∀ last ∈ kept.head?, classOf last < classOf code) ∧
        composeAfter base kept (code :: rest) = composeAfter whole kept rest) ∨
      (classOf code = 0 ∧ composeAfter base kept (code :: rest) =
        base :: (kept.reverse ++ composeAfter code [] rest)) ∨
      (classOf code ≠ 0 ∧ composeAfter base kept (code :: rest) = composeAfter base (code :: kept) rest) := by
  have notComposed (next : List Nat) (is : next = if classOf code == 0 then
      base :: kept.reverse ++ composeAfter code [] rest else composeAfter base (code :: kept) rest) :
      (classOf code = 0 ∧ next = base :: (kept.reverse ++ composeAfter code [] rest)) ∨
        (classOf code ≠ 0 ∧ next = composeAfter base (code :: kept) rest) := by
    by_cases zero : classOf code = 0
    · exact .inl ⟨zero, by simpa [zero] using is⟩
    · exact .inr ⟨zero, by simpa [zero] using is⟩
  cases kept with
  | nil =>
    cases composed : compose? base code with
    | none => exact .inr (notComposed _ (by simp [composeAfter, composed]))
    | some whole => exact .inl ⟨whole, rfl, by simp, by simp [composeAfter, composed]⟩
  | cons last kept =>
    by_cases blocked : classOf code ≤ classOf last
    · exact .inr (notComposed _ (by simp [composeAfter, blocked]))
    · cases composed : compose? base code with
      | none => exact .inr (notComposed _ (by simp [composeAfter, composed]))
      | some whole =>
        exact .inl ⟨whole, rfl, by simpa using blocked, by simp [composeAfter, blocked, composed]⟩

structure Pending (kept rest : List Nat) : Prop where
  marks : ∀ mark ∈ kept, classOf mark ≠ 0
  sorted : kept.Pairwise fun last earlier => classOf earlier ≤ classOf last
  ordered : Ordered rest
  follows : ∀ last ∈ kept.head?, ∀ code ∈ rest.head?, Follows last code

theorem Pending.le {kept rest : List Nat} {last : Nat} (pending : Pending (last :: kept) rest) {mark : Nat}
    (member : mark ∈ last :: kept) : classOf mark ≤ classOf last := by
  obtain rfl | inside := List.mem_cons.1 member
  · exact Nat.le_refl _
  · exact (List.pairwise_cons.1 pending.sorted).1 mark inside

theorem Pending.keep {kept rest : List Nat} {code : Nat} (pending : Pending kept (code :: rest))
    (isMark : classOf code ≠ 0) : Pending (code :: kept) rest where
  marks := List.forall_mem_cons.2 ⟨isMark, pending.marks⟩
  sorted := by
    refine List.pairwise_cons.2 ⟨?_, pending.sorted⟩
    cases kept with
    | nil => simp
    | cons last kept =>
      intro mark member
      have follows := (pending.follows last rfl code rfl).resolve_left isMark
      exact (pending.le member).trans follows
  ordered := pending.ordered.tail
  follows := by
    intro last first next second
    cases first
    cases rest with
    | nil => cases second
    | cons other rest =>
      cases second
      exact (List.isChain_cons_cons.1 pending.ordered).1

-- What is composed goes out of the text; it was in order with what comes after it.
theorem Pending.drop {kept rest : List Nat} {code : Nat} (pending : Pending kept (code :: rest))
    (free : ∀ last ∈ kept.head?, classOf last < classOf code) : Pending kept rest where
  marks := pending.marks
  sorted := pending.sorted
  ordered := pending.ordered.tail
  follows := by
    intro last first next second
    have less := free last first
    cases rest with
    | nil => cases second
    | cons other rest =>
      cases second
      obtain zero | behind := (List.isChain_cons_cons.1 pending.ordered).1
      · exact .inl zero
      · exact .inr (by omega)

theorem Pending.next {kept rest : List Nat} {code : Nat} (pending : Pending kept (code :: rest)) :
    Pending [] rest where
  marks := by simp
  sorted := .nil
  ordered := pending.ordered.tail
  follows := by simp

-- What is not blocked can be moved to its base before it is composed.
theorem Pending.alike {kept rest : List Nat} {code : Nat} (pending : Pending kept (code :: rest))
    (free : ∀ last ∈ kept.head?, classOf last < classOf code) :
    Alike (kept.reverse ++ [code]) (code :: kept.reverse) := by
  cases kept with
  | nil => exact .refl _
  | cons last kept =>
    have less := free last rfl
    refine alike_move (by omega) fun mark member => ?_
    have member := List.mem_reverse.1 member
    have le := pending.le member
    exact ⟨pending.marks mark member, by omega⟩

theorem alike_composeAfter {base : Nat} {kept rest : List Nat} (pending : Pending kept rest)
    (plainKept : ∀ code ∈ kept, parts? code = none) (plain : ∀ code ∈ rest, parts? code = none) :
    Alike ((composeAfter base kept rest).flatMap decomposed) (decomposed base ++ (kept.reverse ++ rest)) := by
  induction rest generalizing base kept with
  | nil =>
    have same : kept.reverse.flatMap decomposed = kept.reverse :=
      flatMap_decomposed fun code member => plainKept code (List.mem_reverse.1 member)
    rw [composeAfter, List.flatMap_cons, same, List.append_nil]
    exact .refl _
  | cons code rest ih =>
    obtain ⟨plainCode, plainRest⟩ := List.forall_mem_cons.1 plain
    obtain ⟨whole, composed, free, is⟩ | ⟨-, is⟩ | ⟨isMark, is⟩ := composeAfter_cases base kept code rest
    · have undone : decomposed whole = decomposed base ++ [code] := by
        rw [decomposed_compose composed, decomposed_of_none plainCode]
      have moved := (pending.alike free).append (.refl rest)
      have inside : Alike ((composeAfter whole kept rest).flatMap decomposed) _ :=
        ih (pending.drop free) plainKept plainRest
      rw [undone, List.append_assoc] at inside
      rw [is]
      refine inside.trans ?_
      simpa using ((Alike.refl (decomposed base)).append moved).symm
    · have inside : Alike ((composeAfter code [] rest).flatMap decomposed) _ :=
        ih pending.next (by simp) plainRest
      have same : kept.reverse.flatMap decomposed = kept.reverse :=
        flatMap_decomposed fun code member => plainKept code (List.mem_reverse.1 member)
      rw [decomposed_of_none plainCode] at inside
      have whole := (Alike.refl (decomposed base ++ kept.reverse)).append inside
      rw [is]
      simpa [List.flatMap_append, same] using whole
    · have inside : Alike ((composeAfter base (code :: kept) rest).flatMap decomposed) _ :=
        ih (pending.keep isMark) (List.forall_mem_cons.2 ⟨plainCode, plainKept⟩) plainRest
      rw [is]
      simpa using inside

theorem decompose_compose {codes : List Nat} (plain : ∀ code ∈ codes, parts? code = none)
    (ordered : Ordered codes) : decompose (compose codes) = codes := by
  cases codes with
  | nil => rfl
  | cons base rest =>
    obtain ⟨plainBase, plainRest⟩ := List.forall_mem_cons.1 plain
    have pending : Pending [] rest := ⟨by simp, .nil, ordered.tail, by simp⟩
    have alike : Alike ((compose (base :: rest)).flatMap decomposed) _ :=
      alike_composeAfter pending (by simp) plainRest
    rw [decomposed_of_none plainBase] at alike
    exact alike.reorder.trans (reorder_ordered ordered)

theorem mem_composeAfter {base code : Nat} {kept rest : List Nat}
    (member : code ∈ composeAfter base kept rest) :
    (code = base ∨ code ∈ kept ∨ code ∈ rest) ∨ IsCode code := by
  induction rest generalizing base kept with
  | nil =>
    left
    simpa [composeAfter] using member
  | cons next rest ih =>
    obtain ⟨whole, composed, -, is⟩ | ⟨-, is⟩ | ⟨-, is⟩ := composeAfter_cases base kept next rest
    · rw [is] at member
      obtain (rfl | there | there) | isCode := ih member
      · exact .inr (isCode_compose composed)
      · exact .inl (.inr (.inl there))
      · exact .inl (.inr (.inr (List.mem_cons_of_mem _ there)))
      · exact .inr isCode
    · rw [is, List.mem_cons, List.mem_append, List.mem_reverse] at member
      obtain rfl | there | there := member
      · exact .inl (.inl rfl)
      · exact .inl (.inr (.inl there))
      · obtain (rfl | there | there) | isCode := ih there
        · exact .inl (.inr (.inr List.mem_cons_self))
        · cases there
        · exact .inl (.inr (.inr (List.mem_cons_of_mem _ there)))
        · exact .inr isCode
    · rw [is] at member
      obtain (rfl | there | there) | isCode := ih member
      · exact .inl (.inl rfl)
      · obtain rfl | there := List.mem_cons.1 there
        · exact .inl (.inr (.inr List.mem_cons_self))
        · exact .inl (.inr (.inl there))
      · exact .inl (.inr (.inr (List.mem_cons_of_mem _ there)))
      · exact .inr isCode

theorem mem_compose {codes : List Nat} {code : Nat} (member : code ∈ compose codes) :
    code ∈ codes ∨ IsCode code := by
  cases codes with
  | nil => cases member
  | cons base rest =>
    obtain (rfl | there | there) | isCode := mem_composeAfter member
    · exact .inl List.mem_cons_self
    · cases there
    · exact .inl (List.mem_cons_of_mem _ there)
    · exact .inr isCode

end Canonical

end TextQuery.Text
