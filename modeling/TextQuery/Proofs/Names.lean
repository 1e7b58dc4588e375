import TextQuery.Session

set_option autoImplicit false

namespace TextQuery

open Engine

namespace Text

theorem mem_doubled {mark c : Char} (text : List Char) :
    c ∈ doubled mark text ↔ c ∈ text := by
  induction text with
  | nil => simp [doubled]
  | cons d text ih =>
    by_cases same : d = mark <;> simp [doubled, same, ih]

theorem mem_identifier {name : String} {c : Char} (other : c ≠ '"') :
    c ∈ (identifier name).toList ↔ c ∈ name.toList := by
  simp [identifier, enclosed, mem_doubled, other]

theorem startsWith_iff {text beginning : String} :
    startsWith text beginning = true ↔ beginning.toList <+: text.toList := List.isPrefixOf_iff_prefix

theorem prefix_append {beginning : List Char} {first : String} (begins : beginning <+: first.toList)
    (rest : String) : beginning <+: (first ++ rest).toList := by
  rw [String.toList_append]
  exact begins.trans (List.prefix_append _ _)

-- The characters by which names are compared.
def folded (name : String) : List Char := name.toList.map Char.toLower

theorem sameName_iff_folded {a b : String} : sameName a b = true ↔ folded a = folded b := by
  simp [sameName, asciiFold, folded, String.ofList_inj]

theorem sameName_symm {a b : String} (same : sameName a b = true) : sameName b a = true :=
  sameName_iff_folded.2 (sameName_iff_folded.1 same).symm

theorem sameName_trans {a b c : String} (first : sameName a b = true) (second : sameName b c = true) :
    sameName a c = true :=
  sameName_iff_folded.2 ((sameName_iff_folded.1 first).trans (sameName_iff_folded.1 second))

theorem sameName_congr {a b : String} (same : sameName a b = true) (c : String) :
    sameName c a = sameName c b := by
  rw [Bool.eq_iff_iff, sameName_iff_folded, sameName_iff_folded, sameName_iff_folded.1 same]

theorem sameName_congr_left {a b : String} (same : sameName a b = true) (c : String) :
    sameName a c = sameName b c := by
  rw [Bool.eq_iff_iff, sameName_iff_folded, sameName_iff_folded, sameName_iff_folded.1 same]

theorem sameName_comm (a b : String) : sameName a b = sameName b a :=
  Bool.eq_iff_iff.2 ⟨sameName_symm, sameName_symm⟩

-- Where no two entries share a name, the entry of a name is known.
theorem eq_of_sameName {α : Type} {name : α → String} {entries : List α}
    (apart : entries.Pairwise fun a b => sameName (name a) (name b) = false) {a b : α}
    (member : a ∈ entries) (other : b ∈ entries) (same : sameName (name a) (name b) = true) : a = b := by
  refine List.Pairwise.forall_of_forall_of_flip (R := fun a b => sameName (name a) (name b) = true → a = b)
    (fun _ _ _ => rfl) ?_ ?_ member other same
  · exact apart.imp fun differ same => by simp [differ] at same
  · refine apart.imp fun differ same => ?_
    rw [sameName_comm, differ] at same
    cases same

-- Only small letters are made of other characters.
theorem eq_of_toLower {c d : Char} (before : d.val.toNat < 97) (same : c.toLower = d) : c = d := by
  unfold Char.toLower at same
  split at same
  · rename_i capital
    have value := congrArg (fun d => d.val.toNat) same
    have low := UInt32.le_iff_toNat_le.1 capital.1
    have high := UInt32.le_iff_toNat_le.1 capital.2
    simp only [UInt32.toNat_add] at value
    have small : 'A'.val.toNat = 65 ∧ 'Z'.val.toNat = 90 ∧ ('a'.val - 'A'.val).toNat = 32 := by decide
    omega
  · exact same

theorem append_underscore_inj {a b x y : List Char} (plain : '_' ∉ x) (plain' : '_' ∉ y)
    (same : a ++ '_' :: x = b ++ '_' :: y) : a = b ∧ x = y := by
  rcases List.append_eq_append_iff.1 same with ⟨between, rfl, split⟩ | ⟨between, rfl, split⟩
  · cases between with
    | nil => simpa using split
    | cons c between =>
      obtain ⟨rfl, rfl⟩ := List.cons.inj split
      simp at plain
  · cases between with
    | nil => simpa using split.symm
    | cons c between =>
      obtain ⟨rfl, rfl⟩ := List.cons.inj split
      simp at plain'

theorem mem_toDigits (number : Nat) :
    ∀ c ∈ Nat.toDigits 16 number, c ∈ "0123456789abcdef".toList := by
  induction number using Nat.strongRecOn with
  | ind number ih =>
    have digit : ∀ value < 16, Nat.digitChar value ∈ "0123456789abcdef".toList := by decide
    by_cases small : number < 16
    · simpa [Nat.toDigits_of_lt_base small] using digit number small
    · rw [Nat.toDigits_of_base_le (by omega) (by omega)]
      intro c member
      rcases List.mem_append.1 member with before | last
      · exact ih (number / 16) (by omega) c before
      · rw [List.mem_singleton.1 last]
        exact digit _ (Nat.mod_lt _ (by omega))

theorem mem_hexDigits {width number : Nat} {c : Char} (member : c ∈ hexDigits width number) :
    c ∈ "0123456789abcdef".toList := by
  rcases List.mem_append.1 member with filled | digit
  · rw [(List.mem_replicate.1 filled).2]
    decide
  · exact mem_toDigits number c digit

end Text

open Text

namespace Engine.FullText

def parts : List String := [dataPart, termsPart, contentsPart, sizesPart, settingsPart]

theorem underscore_not_mem_parts {part : String} (member : part ∈ parts) : '_' ∉ part.toList := by
  revert part
  decide

theorem folded_indexName (table : String) {part : String} (member : part ∈ parts) :
    folded (indexName table part) = folded table ++ '_' :: part.toList := by
  have small : ∀ part ∈ parts, part.toList.map Char.toLower = part.toList := by decide
  simp only [folded, indexName, String.toList_append, List.map_append, small part member]
  simp

theorem sameName_indexName {table other part : String} (same : sameName table other = true) :
    sameName (indexName table part) (indexName other part) = true := by
  rw [sameName_iff_folded] at same ⊢
  simp only [folded] at same
  simp [folded, indexName, same]

theorem sameName_of_indexName {table other part otherPart : String} (member : part ∈ parts)
    (otherMember : otherPart ∈ parts)
    (same : sameName (indexName table part) (indexName other otherPart) = true) :
    sameName table other = true ∧ part = otherPart := by
  rw [sameName_iff_folded, folded_indexName table member, folded_indexName other otherMember] at same
  obtain ⟨tables, parts⟩ := append_underscore_inj (underscore_not_mem_parts member)
    (underscore_not_mem_parts otherMember) same
  exact ⟨sameName_iff_folded.2 tables, String.toList_injective parts⟩

end Engine.FullText

-- What the name of a helper table has behind its family.
def helperDigits (described : String) : List Char :=
  ((Digest.Sha1.hexText described.toUTF8.toList).toList).take 12

theorem mem_helperDigits {described : String} {c : Char} (member : c ∈ helperDigits described) :
    c ∈ "0123456789abcdef".toList := by
  have digit := List.mem_of_mem_take member
  simp only [Digest.Sha1.hexText, String.toList_ofList, List.mem_flatMap] at digit
  obtain ⟨word, -, digit⟩ := digit
  exact mem_hexDigits digit

theorem toList_helperName (family described : String) :
    (helperName family described).toList = family.toList ++ helperDigits described := by
  simp [helperName, helperDigits]

theorem folded_helperName {family : String} (small : folded family = family.toList) (described : String) :
    folded (helperName family described) = family.toList ++ helperDigits described := by
  have digits : (helperDigits described).map Char.toLower = helperDigits described := by
    have each : "0123456789abcdef".toList.all (fun c => c.toLower == c) = true := by decide
    refine Eq.trans (List.map_congr_left ?_) (List.map_id _)
    intro c member
    simpa using List.all_eq_true.1 each c (mem_helperDigits member)
  rw [folded, toList_helperName, List.map_append, digits, ← folded, small]

theorem underscore_not_mem_helperDigits (described : String) : '_' ∉ helperDigits described := by
  intro member
  have digit := mem_helperDigits member
  revert digit
  decide

namespace Validator

theorem folded_family : folded family = family.toList := by decide

end Validator

namespace Tokenizer

theorem folded_family : folded family = family.toList := by decide

end Tokenizer

-- The last part of the name of a helper table is a number, that of a table of an index is a word.
theorem not_sameName_indexName (stem : String) (small : folded (stem ++ "_") = (stem ++ "_").toList)
    (described table : String) {part : String} (member : part ∈ FullText.parts) :
    sameName (FullText.indexName table part) (helperName (stem ++ "_") described) = false := by
  rw [Bool.eq_false_iff]
  intro same
  have mark : "_".toList = ['_'] := by decide
  rw [sameName_iff_folded, FullText.folded_indexName table member, folded_helperName small,
    String.toList_append, List.append_assoc, mark, List.singleton_append] at same
  obtain ⟨-, digits⟩ := append_underscore_inj (FullText.underscore_not_mem_parts member)
    (underscore_not_mem_helperDigits described) same
  have wordlike : ∀ part ∈ FullText.parts,
      part.toList.any (fun c => !"0123456789abcdef".toList.contains c) = true := by decide
  obtain ⟨c, found, other⟩ := List.any_eq_true.1 (wordlike part member)
  rw [digits] at found
  rw [Bool.not_eq_true', ← Bool.not_eq_true, List.contains_iff_mem] at other
  exact other (mem_helperDigits found)

theorem indexName_ne_tokens (table : String) {part : String} (member : part ∈ FullText.parts)
    (choice : TokenizerChoice) :
    sameName (FullText.indexName table part) (Tokenizer.helper choice) = false :=
  not_sameName_indexName "safematch_tokens" (by decide) _ table member

theorem indexName_ne_probe (table : String) {part : String} (member : part ∈ FullText.parts)
    (columns : List String) :
    sameName (FullText.indexName table part) (Validator.helper columns) = false :=
  not_sameName_indexName "safematch_probe" (by decide) _ table member

theorem tokens_ne_probe (choice : TokenizerChoice) (columns : List String) :
    sameName (Tokenizer.helper choice) (Validator.helper columns) = false := by
  rw [Bool.eq_false_iff]
  intro same
  rw [sameName_iff_folded, Tokenizer.helper, Validator.helper,
    folded_helperName Tokenizer.folded_family, folded_helperName Validator.folded_family] at same
  have letter := congrArg (fun text => text[10]?) same
  have tokens : Tokenizer.family.toList.length = 17 := by decide
  have probe : Validator.family.toList.length = 16 := by decide
  rw [List.getElem?_append_left (by omega), List.getElem?_append_left (by omega)] at letter
  revert letter
  decide

def IsPrivate (name : String) : Prop := Session.helperFamily.toList <+: folded name

theorem IsPrivate.congr {a b : String} (same : sameName a b = true) : IsPrivate a ↔ IsPrivate b := by
  rw [IsPrivate, IsPrivate, sameName_iff_folded.1 same]

theorem isPrivate_tokens (choice : TokenizerChoice) : IsPrivate (Tokenizer.helper choice) := by
  rw [IsPrivate, Tokenizer.helper, folded_helperName Tokenizer.folded_family]
  exact List.IsPrefix.trans (by decide) (List.prefix_append _ _)

theorem isPrivate_probe (columns : List String) : IsPrivate (Validator.helper columns) := by
  rw [IsPrivate, Validator.helper, folded_helperName Validator.folded_family]
  exact List.IsPrefix.trans (by decide) (List.prefix_append _ _)

theorem isPrivate_indexName {table : String} (isPrivate : IsPrivate table) {part : String}
    (member : part ∈ FullText.parts) : IsPrivate (FullText.indexName table part) := by
  rw [IsPrivate, FullText.folded_indexName table member]
  exact isPrivate.trans (List.prefix_append _ _)

end TextQuery
