import Mathlib.Data.List.Chain
import Mathlib.Data.Nat.Bitwise
import TextQuery.Proofs.Canonical.Ordering

set_option autoImplicit false

namespace TextQuery.Text.Canonical

def bitsOf : List Nat → Nat
  | [] => 0
  | code :: codes => 2 ^ code ||| bitsOf codes

theorem testBit_bitsOf {codes : List Nat} {code : Nat} :
    (bitsOf codes).testBit code = true ↔ code ∈ codes := by
  induction codes with
  | nil => simp [bitsOf]
  | cons first codes ih =>
    rw [bitsOf, Nat.testBit_or, Bool.or_eq_true, Nat.testBit_two_pow, ih, List.mem_cons]
    simp [eq_comm]

def replaced : List Nat := replacements.flatMap fun run => List.range' run.1 run.2.length

def IsCode (code : Nat) : Prop := code ≠ 0 ∧ (code < 0xD800 ∨ 0xDFFF < code ∧ code < 0x110000)

instance (code : Nat) : Decidable (IsCode code) := inferInstanceAs (Decidable (_ ∧ _))

def IsPart (code : Nat) : Prop :=
  IsCode code ∧ isSyllable code = false ∧ (bitsOf replaced).testBit code = false

instance (code : Nat) : Decidable (IsPart code) := inferInstanceAs (Decidable (_ ∧ _))

def IsJamo (code : Nat) : Prop := 0x1100 ≤ code ∧ code < 0x1200

instance (code : Nat) : Decidable (IsJamo code) := inferInstanceAs (Decidable (_ ∧ _))

theorem pairs_increasing : pairs.IsChain fun first second => first.1 < second.1 := by decide +kernel

theorem pairs_wholes : ∀ pair ∈ pairs,
    0xC0 ≤ pair.1 ∧ IsCode pair.1 ∧ isSyllable pair.1 = false ∧ ¬IsJamo pair.1 := by decide +kernel

theorem pairs_parts : ∀ pair ∈ pairs, IsPart pair.2.1 ∧ IsPart pair.2.2 := by decide +kernel

theorem replacements_parts : ∀ run ∈ replacements,
    (run.1 + run.2.length ≤ 0x1100 ∨ 0x1200 ≤ run.1) ∧ ∀ other ∈ run.2, IsPart other := by decide +kernel

def deeper (listed : List (Nat × Nat × Nat)) : List (Nat × Nat × Nat) :=
  let wholes := bitsOf (listed.map Prod.fst)
  listed.filter fun pair => wholes.testBit pair.2.1 || wholes.testBit pair.2.2

theorem deeper_pairs : deeper (deeper (deeper pairs)) = [] := by decide +kernel

theorem parts?_pair {pair : Nat × Nat × Nat} (listed : pair ∈ pairs) :
    parts? pair.1 = some [pair.2.1, pair.2.2] := by
  obtain ⟨high, -, noSyllable, -⟩ := pairs_wholes pair listed
  have increasing := List.isChain_iff_pairwise.1 pairs_increasing
  have found : pairs.find? (fun other => other.1 == pair.1) = some pair := by
    obtain ⟨before, after, split⟩ := List.append_of_mem listed
    rw [split] at increasing ⊢
    obtain ⟨-, -, less⟩ := List.pairwise_append.1 increasing
    refine List.find?_eq_some_iff_append.2 ⟨by simp, before, after, rfl, ?_⟩
    intro other member
    have smaller := less other member pair List.mem_cons_self
    simpa using Nat.ne_of_lt smaller
  rw [parts?, if_neg (by omega), noSyllable, if_neg (by simp), found]

theorem replacement?_cases {code other : Nat} (found : replacement? code = some other) :
    code ∈ replaced ∧ ∃ run ∈ replacements, (run.1 ≤ code ∧ code < run.1 + run.2.length) ∧ other ∈ run.2 := by
  obtain ⟨run, first, taken⟩ := Option.bind_eq_some_iff.1 found
  have member := List.mem_of_find?_eq_some first
  have within : run.1 ≤ code ∧ code < run.1 + run.2.length := by simpa using List.find?_some first
  have inside : code ∈ List.range' run.1 run.2.length := List.mem_range'_1.2 within
  exact ⟨List.mem_flatMap.2 ⟨run, member, inside⟩, run, member, within, List.mem_of_getElem? taken⟩

theorem parts?_cases {code : Nat} {made : List Nat} (found : parts? code = some made) :
    (isSyllable code = true ∧ made = syllableParts code) ∨
      (∃ pair ∈ pairs, pair.1 = code ∧ made = [pair.2.1, pair.2.2]) ∨
      ∃ other, replacement? code = some other ∧ made = [other] := by
  unfold parts? at found
  split at found
  · cases found
  split at found
  · next syllable => exact .inl ⟨syllable, (Option.some.inj found).symm⟩
  split at found
  · next pair first =>
    have same : pair.1 = code := by simpa using List.find?_some first
    exact .inr (.inl ⟨pair, List.mem_of_find?_eq_some first, same, (Option.some.inj found).symm⟩)
  · obtain ⟨other, replaced, rfl⟩ := Option.map_eq_some_iff.1 found
    exact .inr (.inr ⟨other, replaced, rfl⟩)

theorem IsPart.parts?_cases {code : Nat} {made : List Nat} (isPart : IsPart code)
    (found : parts? code = some made) : ∃ pair ∈ pairs, pair.1 = code ∧ made = [pair.2.1, pair.2.2] := by
  obtain ⟨-, noSyllable, notReplaced⟩ := isPart
  obtain ⟨syllable, -⟩ | pair | ⟨other, is, -⟩ := Canonical.parts?_cases found
  · rw [noSyllable] at syllable
    cases syllable
  · exact pair
  · have member := testBit_bitsOf.2 (replacement?_cases is).1
    rw [notReplaced] at member
    cases member

theorem isSyllable_iff {code : Nat} : isSyllable code = true ↔ 0xAC00 ≤ code ∧ code < 0xD7A4 := by
  rw [isSyllable, Bool.and_eq_true, decide_eq_true_iff, decide_eq_true_iff]
  rfl

theorem isSyllable_eq {code : Nat} (syllable : isSyllable code = true) :
    ∃ index < 11172, code = syllableBase + index := by
  have within := isSyllable_iff.1 syllable
  exact ⟨code - 0xAC00, by omega, (Nat.add_sub_cancel' within.1).symm⟩

theorem syllableParts_eq (index : Nat) : syllableParts (syllableBase + index) =
    if index % 28 = 0 then [0x1100 + index / 588, 0x1161 + index % 588 / 28]
    else [0x1100 + index / 588, 0x1161 + index % 588 / 28, 0x11A7 + index % 28] := by
  unfold syllableParts
  rw [Nat.add_sub_cancel_left]
  simp only [beq_iff_eq]
  rfl

theorem isJamo_of_mem_syllableParts {code part : Nat} (syllable : isSyllable code = true)
    (member : part ∈ syllableParts code) : IsJamo part := by
  obtain ⟨index, bound, rfl⟩ := isSyllable_eq syllable
  rw [syllableParts_eq] at member
  unfold IsJamo
  split at member <;> simp only [List.mem_cons, List.not_mem_nil, or_false] at member <;> omega

theorem parts?_jamo {code : Nat} (jamo : IsJamo code) : parts? code = none := by
  cases found : parts? code with
  | none => rfl
  | some made =>
    obtain ⟨syllable, -⟩ | ⟨pair, listed, rfl, -⟩ | ⟨other, is, -⟩ := parts?_cases found
    · have high := isSyllable_iff.1 syllable
      unfold IsJamo at jamo
      omega
    · exact absurd jamo (pairs_wholes pair listed).2.2.2
    · obtain ⟨-, run, listed, within, -⟩ := replacement?_cases is
      have outside := (replacements_parts run listed).1
      unfold IsJamo at jamo
      omega

attribute [local simp] decomposeCode

/-- Of a code point that is taken apart completely in some steps. -/
def Within : Nat → Nat → Prop
  | 0, code => parts? code = none
  | depth + 1, code => ∀ made, parts? code = some made → ∀ part ∈ made, Within depth part

theorem Within.succ {depth code : Nat} (within : Within depth code) : Within (depth + 1) code := by
  induction depth generalizing code with
  | zero =>
    intro made found
    rw [show parts? code = none from within] at found
    cases found
  | succ depth ih =>
    intro made found part member
    exact ih (within made found part member)

theorem within_of_none {code : Nat} (none : parts? code = none) (depth : Nat) : Within depth code := by
  induction depth with
  | zero => exact none
  | succ depth ih => exact ih.succ

theorem parts?_of_mem_decomposeCode {depth code part : Nat} (within : Within depth code)
    (member : part ∈ decomposeCode depth code) : parts? part = none := by
  induction depth generalizing code with
  | zero =>
    cases List.mem_singleton.1 member
    exact within
  | succ depth ih =>
    rw [decomposeCode] at member
    cases found : parts? code with
    | none =>
      rw [found] at member
      cases List.mem_singleton.1 member
      exact found
    | some made =>
      rw [found] at member
      obtain ⟨between, inside, member⟩ := List.mem_flatMap.1 member
      exact ih (within made found between inside) member

theorem decomposeCode_succ {depth code : Nat} (within : Within depth code) :
    decomposeCode (depth + 1) code = decomposeCode depth code := by
  induction depth generalizing code with
  | zero =>
    have plain : parts? code = none := within
    simp [plain]
  | succ depth ih =>
    rw [decomposeCode]
    conv_rhs => rw [decomposeCode]
    cases found : parts? code with
    | none => rfl
    | some made => exact List.flatMap_congr fun part member => ih (within made found part member)

def Covered (depth : Nat) (left : List (Nat × Nat × Nat)) : Prop :=
  ∀ pair ∈ pairs, pair ∈ left ∨ Within depth pair.1

theorem covered_deeper {depth : Nat} {left : List (Nat × Nat × Nat)} (covered : Covered depth left) :
    Covered (depth + 1) (deeper left) := by
  intro pair listed
  obtain member | within := covered pair listed
  · by_cases again : pair ∈ deeper left
    · exact .inl again
    -- No part of it is one of those that are left.
    refine .inr fun made found part inside => ?_
    have apart : pair.2.1 ∉ left.map Prod.fst ∧ pair.2.2 ∉ left.map Prod.fst := by
      unfold deeper at again
      simpa only [List.mem_filter, member, true_and, Bool.or_eq_true, testBit_bitsOf, not_or] using again
    rw [parts?_pair listed] at found
    cases found
    have isPart := pairs_parts pair listed
    have onePart : IsPart part ∧ part ∉ left.map Prod.fst := by
      obtain rfl | rfl : part = pair.2.1 ∨ part = pair.2.2 := by simpa using inside
      · exact ⟨isPart.1, apart.1⟩
      · exact ⟨isPart.2, apart.2⟩
    cases parts : parts? part with
    | none => exact within_of_none parts depth
    | some made =>
      obtain ⟨other, known, rfl, -⟩ := onePart.1.parts?_cases parts
      obtain still | within := covered other known
      · exact absurd (List.mem_map_of_mem still) onePart.2
      · exact within
  · exact .inr within.succ

theorem within_of_isPart {code : Nat} (isPart : IsPart code) : Within 3 code := by
  have covered : Covered 0 pairs := fun pair listed => .inl listed
  have all : Covered 3 [] := by
    rw [← deeper_pairs]
    exact covered_deeper (covered_deeper (covered_deeper covered))
  cases parts : parts? code with
  | none => exact within_of_none parts 3
  | some made =>
    obtain ⟨pair, listed, rfl, -⟩ := isPart.parts?_cases parts
    exact (all pair listed).resolve_left List.not_mem_nil

theorem within_of_mem_parts {code part : Nat} {made : List Nat} (found : parts? code = some made)
    (member : part ∈ made) : Within 3 part := by
  obtain ⟨syllable, is⟩ | ⟨pair, listed, -, rfl⟩ | ⟨other, is, rfl⟩ := parts?_cases found
  · rw [is] at member
    exact within_of_none (parts?_jamo (isJamo_of_mem_syllableParts syllable member)) 3
  · have isPart := pairs_parts pair listed
    obtain rfl | rfl : part = pair.2.1 ∨ part = pair.2.2 := by simpa using member
    · exact within_of_isPart isPart.1
    · exact within_of_isPart isPart.2
  · cases List.mem_singleton.1 member
    obtain ⟨-, run, listed, -, target⟩ := replacement?_cases is
    exact within_of_isPart ((replacements_parts run listed).2 part target)

theorem within_depth (code : Nat) : Within decompositionDepth code :=
  fun _ found _ member => within_of_mem_parts found member

abbrev decomposed (code : Nat) : List Nat := decomposeCode decompositionDepth code

theorem parts?_of_mem_decomposed {code part : Nat} (member : part ∈ decomposed code) : parts? part = none :=
  parts?_of_mem_decomposeCode (within_depth code) member

theorem decomposed_of_none {code : Nat} (none : parts? code = none) : decomposed code = [code] := by
  rw [decomposed, decompositionDepth, decomposeCode, none]

theorem decomposed_of_some {code : Nat} {made : List Nat} (found : parts? code = some made) :
    decomposed code = made.flatMap decomposed := by
  rw [decomposed, decompositionDepth, decomposeCode, found]
  exact List.flatMap_congr fun part member => (decomposeCode_succ (within_of_mem_parts found member)).symm

theorem flatMap_decomposed {codes : List Nat} (plain : ∀ code ∈ codes, parts? code = none) :
    codes.flatMap decomposed = codes := by
  induction codes with
  | nil => rfl
  | cons code codes ih =>
    obtain ⟨first, rest⟩ := List.forall_mem_cons.1 plain
    rw [List.flatMap_cons, decomposed_of_none first, ih rest]
    rfl

theorem parts?_of_mem_decompose {codes : List Nat} {code : Nat} (member : code ∈ decompose codes) :
    parts? code = none := by
  obtain ⟨whole, -, inside⟩ := List.mem_flatMap.1 (mem_reorder.1 member)
  exact parts?_of_mem_decomposed inside

theorem decompose_plain {codes : List Nat} (plain : ∀ code ∈ codes, parts? code = none)
    (ordered : Ordered codes) : decompose codes = codes := by
  rw [decompose, flatMap_decomposed plain, reorder_ordered ordered]

theorem decompose_decompose (codes : List Nat) : decompose (decompose codes) = decompose codes :=
  decompose_plain (fun _ member => parts?_of_mem_decompose member) (ordered_reorder _)

theorem IsJamo.isCode {code : Nat} (jamo : IsJamo code) : IsCode code := by
  unfold IsJamo at jamo
  unfold IsCode
  omega

theorem isCode_of_mem_parts {code part : Nat} {made : List Nat} (found : parts? code = some made)
    (member : part ∈ made) : IsCode part := by
  obtain ⟨syllable, is⟩ | ⟨pair, listed, -, rfl⟩ | ⟨other, is, rfl⟩ := parts?_cases found
  · rw [is] at member
    exact (isJamo_of_mem_syllableParts syllable member).isCode
  · have isPart := pairs_parts pair listed
    obtain rfl | rfl : part = pair.2.1 ∨ part = pair.2.2 := by simpa using member
    · exact isPart.1.1
    · exact isPart.2.1
  · cases List.mem_singleton.1 member
    obtain ⟨-, run, listed, -, target⟩ := replacement?_cases is
    exact ((replacements_parts run listed).2 part target).1

theorem mem_decomposeCode {depth code part : Nat} (member : part ∈ decomposeCode depth code) :
    part = code ∨ IsCode part := by
  induction depth generalizing code with
  | zero => exact .inl (List.mem_singleton.1 member)
  | succ depth ih =>
    rw [decomposeCode] at member
    cases found : parts? code with
    | none =>
      rw [found] at member
      exact .inl (List.mem_singleton.1 member)
    | some made =>
      rw [found] at member
      obtain ⟨between, inside, member⟩ := List.mem_flatMap.1 member
      obtain rfl | isCode := ih member
      · exact .inr (isCode_of_mem_parts found inside)
      · exact .inr isCode

theorem mem_decompose {codes : List Nat} {code : Nat} (member : code ∈ decompose codes) :
    code ∈ codes ∨ IsCode code := by
  obtain ⟨whole, there, inside⟩ := List.mem_flatMap.1 (mem_reorder.1 member)
  obtain rfl | isCode := mem_decomposeCode inside
  · exact .inl there
  · exact .inr isCode

end TextQuery.Text.Canonical
