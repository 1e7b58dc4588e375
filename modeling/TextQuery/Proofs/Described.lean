import TextQuery.Proofs.Names

set_option autoImplicit false

namespace TextQuery

open Engine

namespace Text

theorem isIdentifierChar_of_mem {name : String} (known : isIdentifier name = true) :
    ∀ c ∈ dropFinalBreak name.toList, isIdentifierChar c = true := by
  simp only [isIdentifier, Bool.and_eq_true, List.all_eq_true] at known
  exact known.2

theorem isIdentifier_not_mem {name : String} {c : Char} (known : isIdentifier name = true)
    (other : isIdentifierChar c = false) (noBreak : c ≠ '\n') : c ∉ name.toList := by
  intro member
  have inside : c ∈ dropFinalBreak name.toList := by
    unfold dropFinalBreak
    split
    · rename_i final
      obtain ⟨before, text⟩ := List.getLast?_eq_some_iff.1 final
      rw [text] at member ⊢
      simpa [noBreak] using member
    · exact member
  rw [isIdentifierChar_of_mem known c inside] at other
  cases other

-- What stands behind a text without commas begins with one, or there is nothing.
theorem append_comma_inj {a b x y : List Char} (plain : ',' ∉ a) (plain' : ',' ∉ b)
    (begins : ∀ c, x.head? = some c → c = ',') (begins' : ∀ c, y.head? = some c → c = ',')
    (same : a ++ x = b ++ y) : a = b ∧ x = y := by
  have keep {text rest : List Char} (plain : ',' ∉ text) (begins : ∀ c, rest.head? = some c → c = ',') :
      (text ++ rest).takeWhile (· != ',') = text := by
    rw [List.takeWhile_append_of_pos]
    · cases rest with
      | nil => simp
      | cons c rest => simp [begins c rfl]
    · intro c member
      rw [bne_iff_ne]
      rintro rfl
      exact plain member
  have first : a = b := by
    rw [← keep plain begins, same, keep plain' begins']
  subst first
  exact ⟨rfl, List.append_cancel_left same⟩

theorem mem_intercalate {c : Char} {text : String} (inside : c ∈ text.toList) (mark : String)
    {texts : List String} (member : text ∈ texts) : c ∈ (String.intercalate mark texts).toList := by
  induction texts with
  | nil => simp at member
  | cons first rest ih =>
    cases rest with
    | nil =>
      rw [List.mem_singleton.1 member] at inside
      simpa using inside
    | cons second rest =>
      rw [String.intercalate_cons_cons, String.toList_append, String.toList_append]
      rcases List.mem_cons.1 member with rfl | member
      · exact List.mem_append_left _ (List.mem_append_left _ inside)
      · exact List.mem_append_right _ (ih member)

theorem intercalate_inj {mark : Char} {a b : List String} (plain : ∀ text ∈ a, mark ∉ text.toList)
    (plain' : ∀ text ∈ b, mark ∉ text.toList) (some : a ≠ []) (some' : b ≠ [])
    (same : String.intercalate (String.singleton mark) a = String.intercalate (String.singleton mark) b) :
    a = b := by
  have split {texts : List String} (plain : ∀ text ∈ texts, mark ∉ text.toList) (some : texts ≠ []) :
      (String.intercalate (String.singleton mark) texts).toList.splitOn mark = texts.map String.toList := by
    rw [String.toList_intercalate, String.toList_singleton]
    apply List.splitOn_intercalate
    · simpa using plain
    · simpa using some
  have lists := split plain some
  rw [same, split plain' some'] at lists
  exact ((List.map_inj_right fun _ _ => @String.toList_injective _ _).1 lists).symm

end Text

open Text

namespace Engine.TokenizerChoice

-- The arguments of a descriptor, each behind a comma.
def argumentText (arguments : List String) : List Char :=
  arguments.flatMap fun argument => ", ".toList ++ (literal argument).toList

theorem argumentText_cons (argument : String) (arguments : List String) :
    argumentText (argument :: arguments) =
      ',' :: ' ' :: ((literal argument).toList ++ argumentText arguments) := rfl

theorem toList_descriptor (choice : TokenizerChoice) :
    choice.descriptor.toList = choice.name.toList ++ argumentText choice.arguments := by
  have joined (first : String) (rest : List String) :
      (String.intercalate ", " (first :: rest)).toList =
        first.toList ++ rest.flatMap fun text => ", ".toList ++ text.toList := by
    induction rest generalizing first with
    | nil => simp
    | cons second rest ih =>
      rw [String.intercalate_cons_cons, String.toList_append, String.toList_append, ih, List.flatMap_cons]
      simp
  rw [descriptor, joined, argumentText, List.flatMap_map]

theorem argumentText_head (arguments : List String) : ∀ c, (argumentText arguments).head? = some c → c = ',' := by
  cases arguments with
  | nil => simp [argumentText]
  | cons argument arguments =>
    have comma : ", ".toList = [',', ' '] := by decide
    simp [argumentText, comma]

theorem argumentText_inj {a b : List String} (same : argumentText a = argumentText b) : a = b := by
  have comma : ", ".toList = [',', ' '] := by decide
  -- An argument is read between apostrophes, and what follows it is no apostrophe.
  have read (argument : String) (arguments : List String) :
      readEnclosed '\'' (((argumentText (argument :: arguments)).drop 3)) =
        some (argument.toList, argumentText arguments) := by
    have ends : (argumentText arguments).head? ≠ some '\'' := by
      intro mark
      exact absurd (argumentText_head arguments _ mark) (by decide)
    rw [← readEnclosed_doubled argument.toList ends]
    simp [argumentText, literal, enclosed, comma]
  induction a generalizing b with
  | nil =>
    cases b with
    | nil => rfl
    | cons second rest => simp [argumentText, comma] at same
  | cons first arguments ih =>
    cases b with
    | nil => simp [argumentText, comma] at same
    | cons second rest =>
      have pairs := read first arguments
      rw [same, read second rest] at pairs
      obtain ⟨texts, others⟩ := Prod.mk.inj (Option.some.inj pairs)
      rw [String.toList_injective texts, ih others.symm]

theorem descriptor_inj {a b : TokenizerChoice} (known : isIdentifier a.name = true)
    (known' : isIdentifier b.name = true) (same : a.descriptor = b.descriptor) : a = b := by
  have texts := congrArg String.toList same
  rw [toList_descriptor, toList_descriptor] at texts
  obtain ⟨names, arguments⟩ := append_comma_inj (isIdentifier_not_mem known rfl (by decide))
    (isIdentifier_not_mem known' rfl (by decide)) (argumentText_head _) (argumentText_head _) texts
  cases a
  cases b
  cases String.toList_injective names
  cases argumentText_inj arguments
  rfl

end Engine.TokenizerChoice

-- Letters of helper names are small, so they are the same if they are so whatever the case.
theorem helperName_inj {family a b : String} (small : folded family = family.toList)
    (same : sameName (helperName family a) (helperName family b) = true) :
    helperName family a = helperName family b := by
  rw [sameName_iff_folded, folded_helperName small, folded_helperName small] at same
  apply String.toList_injective
  rw [toList_helperName, toList_helperName, same]

end TextQuery
