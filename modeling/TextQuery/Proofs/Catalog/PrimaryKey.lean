import TextQuery.Proofs.Catalog.Looking
import Mathlib.Data.List.Nodup

set_option autoImplicit false

namespace TextQuery

open Engine Text

namespace Text

def firsts (names : List String) : List String := names.eraseDupsBy sameName

theorem firsts_cons (name : String) (names : List String) :
    firsts (name :: names) = name :: firsts (names.filter fun other => sameName other name = false) := by
  rw [firsts, List.eraseDupsBy_cons, firsts]

theorem firsts_induction {motive : List String → Prop} (nil : motive [])
    (cons : ∀ name names, motive (names.filter fun other => sameName other name = false) →
      motive (name :: names)) : ∀ names, motive names
  | [] => nil
  | name :: names => cons name names (firsts_induction nil cons _)
termination_by names => names.length
decreasing_by exact Nat.lt_succ_of_le (List.length_filter_le _ _)

theorem mem_of_mem_firsts {names : List String} {name : String} (member : name ∈ firsts names) :
    name ∈ names := by
  induction names using firsts_induction with
  | nil => exact member
  | cons first names ih =>
    rw [firsts_cons, List.mem_cons] at member
    rcases member with rfl | member
    · exact List.mem_cons_self
    · exact List.mem_cons_of_mem _ (List.mem_filter.1 (ih member)).1

theorem exists_first {names : List String} {name : String} (member : name ∈ names) :
    ∃ first ∈ firsts names, sameName first name = true := by
  induction names using firsts_induction with
  | nil => simp at member
  | cons first names ih =>
    rw [firsts_cons]
    by_cases same : sameName first name = true
    · exact ⟨first, List.mem_cons_self, same⟩
    · have rest : name ∈ names := (List.mem_cons.1 member).resolve_left fun equal =>
        same (by rw [equal, sameName_refl])
      obtain ⟨found, listed, named⟩ := ih (List.mem_filter.2 ⟨rest, by
        rw [sameName_comm, decide_eq_true_eq, Bool.eq_false_iff]
        exact same⟩)
      exact ⟨found, List.mem_cons_of_mem _ listed, named⟩

-- Whether one is found before another does not depend on what is neither.
theorem findIdx_lt_of_filter {α : Type} {first second keep : α → Bool} {entries : List α}
    (keepsFirst : ∀ entry, first entry = true → keep entry = true)
    (keepsSecond : ∀ entry, second entry = true → keep entry = true)
    (before : (entries.filter keep).findIdx first < (entries.filter keep).findIdx second) :
    entries.findIdx first < entries.findIdx second := by
  induction entries with
  | nil => simp at before
  | cons entry entries ih =>
    cases kept : keep entry with
    | false =>
      have noFirst : first entry = false := Bool.eq_false_iff.2 fun yes => by simp [keepsFirst _ yes] at kept
      have noSecond : second entry = false :=
        Bool.eq_false_iff.2 fun yes => by simp [keepsSecond _ yes] at kept
      rw [List.filter_cons_of_neg (by simp [kept])] at before
      simpa [List.findIdx_cons, noFirst, noSecond] using ih before
    | true =>
      rw [List.filter_cons_of_pos kept] at before
      cases isFirst : first entry <;> cases isSecond : second entry <;>
        simp only [List.findIdx_cons, isFirst, isSecond, cond_true, cond_false] at before ⊢ <;> omega

-- First mentions stand in the order in which the names are found.
theorem firsts_increasing (names : List String) :
    (firsts names).Pairwise fun a b =>
      names.findIdx (sameName · a) < names.findIdx (sameName · b) := by
  induction names using firsts_induction with
  | nil => exact List.Pairwise.nil
  | cons name names ih =>
    have apart : ∀ other ∈ firsts (names.filter fun other => sameName other name = false),
        sameName name other = false := by
      intro other member
      have kept := (List.mem_filter.1 (mem_of_mem_firsts member)).2
      rwa [decide_eq_true_eq, sameName_comm] at kept
    rw [firsts_cons, List.pairwise_cons]
    constructor
    · intro other member
      simp [List.findIdx_cons, sameName_refl, apart other member]
    · refine ih.imp_of_mem ?_
      intro a b first second before
      have keeps {kept : String} (found : sameName name kept = false) (entry : String)
          (same : sameName entry kept = true) : decide (sameName entry name = false) = true := by
        rw [decide_eq_true_eq, sameName_congr_left same, sameName_comm]
        exact found
      have later := findIdx_lt_of_filter (keeps (apart a first)) (keeps (apart b second)) before
      simpa [List.findIdx_cons, apart a first, apart b second] using later

end Text

namespace Engine.TableDeclaration

variable {declaration : TableDeclaration}

def keyNames (declaration : TableDeclaration) : List String :=
  (firsts declaration.primaryKey).map declaration.declaredName

theorem declaredName_eq {name : String} {column : Column} (found : declaration.column? name = some column) :
    declaration.declaredName name = column.name ∧ sameName column.name name = true := by
  have same := List.find?_some found
  exact ⟨by rw [declaredName, found, Option.elim_some], same⟩

-- A column has its declared name up to the case of the letters.
theorem sameName_declaredName {name : String} (known : (declaration.column? name).isSome = true) :
    sameName (declaration.declaredName name) name = true := by
  obtain ⟨column, found⟩ := Option.isSome_iff_exists.1 known
  obtain ⟨named, same⟩ := declaredName_eq found
  rwa [named]

theorem keyPosition_of_mem {name key : String} (member : key ∈ declaration.primaryKey)
    (same : sameName key name = true) :
    declaration.keyPosition name = declaration.primaryKey.findIdx (sameName · name) + 1 := by
  unfold keyPosition
  rw [List.findIdx?_eq_some_of_exists ⟨key, member, same⟩]

theorem keyPosition_ne_zero {name : String} :
    declaration.keyPosition name ≠ 0 ↔ ∃ key ∈ declaration.primaryKey, sameName key name = true := by
  constructor
  · intro positive
    unfold keyPosition at positive
    split at positive
    · rename_i index found
      obtain ⟨inside, same, -⟩ := List.findIdx?_eq_some_iff_getElem.1 found
      exact ⟨_, List.getElem_mem inside, same⟩
    · exact absurd rfl positive
  · rintro ⟨key, member, same⟩
    rw [keyPosition_of_mem member same]
    exact Nat.succ_ne_zero _

-- The columns of the key with their places, in key order.
def keyInfo (declaration : TableDeclaration) : List ColumnInfo :=
  declaration.keyNames.map fun name => ⟨name, declaration.keyPosition name⟩

theorem Sound.keyInfo_increasing (sound : declaration.Sound) :
    declaration.keyInfo.Pairwise fun a b => a.keyPosition < b.keyPosition := by
  have position : ∀ key ∈ firsts declaration.primaryKey,
      declaration.keyPosition (declaration.declaredName key) =
        declaration.primaryKey.findIdx (sameName · key) + 1 := by
    intro key member
    have listed := mem_of_mem_firsts member
    have same := sameName_declaredName (sound.primary key listed)
    rw [keyPosition_of_mem listed (sameName_symm same)]
    simp only [sameName_congr same]
  unfold keyInfo keyNames
  rw [List.map_map, List.pairwise_map]
  refine (firsts_increasing declaration.primaryKey).imp_of_mem ?_
  intro a b first second before
  dsimp only [Function.comp]
  rw [position a first, position b second]
  omega

theorem Sound.mem_keyInfo (sound : declaration.Sound) (info : ColumnInfo) :
    info ∈ declaration.keyInfo ↔
      info ∈ declaration.info.filter fun column => column.keyPosition != 0 := by
  unfold keyInfo keyNames TableDeclaration.info
  simp only [List.mem_map, List.mem_filter, exists_exists_and_eq_and, bne_iff_ne]
  constructor
  · rintro ⟨key, member, rfl⟩
    have listed := mem_of_mem_firsts member
    obtain ⟨column, found⟩ := Option.isSome_iff_exists.1 (sound.primary key listed)
    obtain ⟨named, same⟩ := declaredName_eq found
    rw [named]
    exact ⟨⟨column, List.mem_of_find?_eq_some found, rfl⟩,
      Int.natCast_ne_zero.2 (keyPosition_ne_zero.2 ⟨key, listed, sameName_symm same⟩)⟩
  · rintro ⟨⟨column, member, rfl⟩, positive⟩
    obtain ⟨key, listed, same⟩ := keyPosition_ne_zero.1 (Int.natCast_ne_zero.1 positive)
    obtain ⟨first, firstListed, named⟩ := exists_first listed
    obtain ⟨found, known⟩ :=
      Option.isSome_iff_exists.1 (sound.primary first (mem_of_mem_firsts firstListed))
    obtain ⟨declared, again⟩ := declaredName_eq known
    have unique : found = column := eq_of_sameName sound.columns (List.mem_of_find?_eq_some known) member
      (sameName_trans again (sameName_trans named same))
    exact ⟨first, firstListed, by rw [declared, unique]⟩

theorem Sound.keyInfo_perm (sound : declaration.Sound) :
    declaration.keyInfo.Perm (declaration.info.filter fun column => column.keyPosition != 0) := by
  refine (List.perm_ext_iff_of_nodup ?_ ?_).2 sound.mem_keyInfo
  · exact sound.keyInfo_increasing.imp fun before equal => by simp [equal] at before
  · refine List.Nodup.filter _ (List.pairwise_map.2 (sound.columns.imp ?_))
    intro a b apart equal
    rw [(ColumnInfo.mk.inj equal).1, sameName_refl] at apart
    cases apart

end Engine.TableDeclaration

namespace Catalog

theorem beforeInKey_iff {a b : ColumnInfo} :
    beforeInKey a b = true ↔
      a.keyPosition < b.keyPosition ∨ a.keyPosition = b.keyPosition ∧ a.name ≤ b.name := by
  simp [beforeInKey]

theorem beforeInKey_trans (a b c : ColumnInfo) (first : beforeInKey a b = true)
    (second : beforeInKey b c = true) : beforeInKey a c = true := by
  rw [beforeInKey_iff] at first second ⊢
  rcases first with first | ⟨first, below⟩ <;> rcases second with second | ⟨second, above⟩
  · omega
  · omega
  · omega
  · exact .inr ⟨first.trans second, String.le_trans below above⟩

theorem beforeInKey_total (a b : ColumnInfo) : (beforeInKey a b || beforeInKey b a) = true := by
  rw [Bool.or_eq_true, beforeInKey_iff, beforeInKey_iff]
  rcases Int.lt_trichotomy a.keyPosition b.keyPosition with before | same | after
  · exact .inl (.inl before)
  · rcases String.le_total (a := a.name) (b := b.name) with below | above
    · exact .inl (.inr ⟨same, below⟩)
    · exact .inr (.inr ⟨same.symm, above⟩)
  · exact .inr (.inl after)

theorem beforeInKey_antisymm {a b : ColumnInfo} (first : beforeInKey a b = true)
    (second : beforeInKey b a = true) : a = b := by
  rw [beforeInKey_iff] at first second
  obtain ⟨name, position⟩ := a
  obtain ⟨otherName, otherPosition⟩ := b
  dsimp only at first second
  have positions : position = otherPosition := by omega
  have names : name = otherName := String.le_antisymm
    (first.resolve_left (by omega)).2 (second.resolve_left (by omega)).2
  rw [positions, names]

theorem keyColumns_of_unkeyed {columns : List ColumnInfo}
    (unkeyed : ∀ column ∈ columns, column.keyPosition = 0) : keyColumns columns = [rowNumber] := by
  have none : (columns.filter fun column => column.keyPosition != 0) = [] := by
    rw [List.filter_eq_nil_iff]
    intro column member
    simp [unkeyed column member]
  rw [keyColumns, none]

theorem keyColumns_info {declaration : TableDeclaration} (sound : declaration.Sound) :
    keyColumns declaration.info =
      if declaration.primaryKey = [] then [rowNumber] else declaration.keyNames := by
  have perm := sound.keyInfo_perm
  have names : declaration.keyInfo.map ColumnInfo.name = declaration.keyNames := by
    rw [TableDeclaration.keyInfo, List.map_map]
    exact List.map_id _
  unfold keyColumns
  split
  · rename_i none
    rw [none] at perm
    rw [if_pos]
    have empty : declaration.keyNames = [] := by rw [← names, List.Perm.eq_nil perm, List.map_nil]
    cases key : declaration.primaryKey with
    | nil => rfl
    | cons name rest => simp [TableDeclaration.keyNames, key, firsts_cons] at empty
  · rename_i keyed some
    rw [if_neg]
    · rw [← names]
      congr 1
      refine List.Perm.eq_of_pairwise (fun _ _ _ _ => beforeInKey_antisymm)
        (List.pairwise_mergeSort beforeInKey_trans beforeInKey_total _) ?_
        ((List.mergeSort_perm _ _).trans perm.symm)
      exact sound.keyInfo_increasing.imp fun before => beforeInKey_iff.2 (.inl before)
    · intro empty
      rw [TableDeclaration.keyInfo, TableDeclaration.keyNames, empty] at perm
      exact some (List.Perm.nil_eq perm).symm

end Catalog

end TextQuery
