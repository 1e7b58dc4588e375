import TextQuery.Proofs.Catalog.PrimaryKey

set_option autoImplicit false

namespace TextQuery

open Engine

namespace Engine.Reference

variable {declaration : TableDeclaration} {reference : Reference}

def origins (declaration : TableDeclaration) (reference : Reference) : List String :=
  reference.columns.map declaration.declaredName

-- The columns that a key points at, column by column, where they are named.
def named (reference : Reference) : List (Option String) :=
  match reference.destinations with
  | some names => names.map some
  | none => reference.columns.map fun _ => none

namespace Sound

variable (sound : reference.Sound declaration) (id : Nat)
include sound

theorem length_named : reference.named.length = reference.columns.length := by
  unfold named
  split
  · rename_i names destinations
    rw [List.length_map, sound.width names destinations]
  · rw [List.length_map]

theorem placed_fst : reference.placed.map Prod.fst = List.range reference.columns.length := by
  have placed : reference.placed =
      (List.range reference.columns.length).zip (reference.columns.zip reference.named) := rfl
  rw [placed, List.map_fst_zip]
  simp [sound.length_named]

omit sound in
theorem placed_snd : reference.placed.map Prod.snd = reference.columns.zip reference.named := by
  have placed : reference.placed =
      (List.range reference.columns.length).zip (reference.columns.zip reference.named) := rfl
  rw [placed, List.map_snd_zip]
  rw [List.length_zip, List.length_range]
  exact Nat.min_le_left _ _

theorem listed_origins : (reference.listed declaration id).map KeyColumn.origin =
    reference.origins declaration := by
  have columns : (reference.placed.map Prod.snd).map Prod.fst = reference.columns := by
    rw [placed_snd]
    exact List.map_fst_zip (Nat.le_of_eq sound.length_named.symm)
  rw [origins, ← columns, listed]
  simp only [List.map_map]
  rfl

theorem listed_destinations : (reference.listed declaration id).map KeyColumn.destination =
    reference.named := by
  have destinations : (reference.placed.map Prod.snd).map Prod.snd = reference.named := by
    rw [placed_snd]
    exact List.map_snd_zip (Nat.le_of_eq sound.length_named)
  rw [← destinations, listed]
  simp only [List.map_map]
  rfl

theorem listed_increasing : (reference.listed declaration id).Pairwise fun a b =>
    a.sequence < b.sequence := by
  have places : reference.placed.Pairwise fun a b => a.1 < b.1 := by
    rw [← List.pairwise_map (f := Prod.fst) (R := fun a b : Nat => a < b), sound.placed_fst]
    exact List.pairwise_lt_range
  exact List.pairwise_map.2 (places.imp fun before => Int.ofNat_lt.2 before)

theorem listed_ne_nil : reference.listed declaration id ≠ [] := by
  intro empty
  have origins := sound.listed_origins id
  rw [empty] at origins
  exact sound.columns (List.map_eq_nil_iff.1 origins.symm)

end Sound

-- What the columns of a key have in common.
theorem mem_listed {id : Nat} {column : KeyColumn} (member : column ∈ reference.listed declaration id) :
    column.id = id ∧ column.table = reference.table ∧ column.onUpdate = action reference.onUpdate ∧
      column.onDelete = action reference.onDelete ∧ column.matching = "NONE" := by
  obtain ⟨entry, -, rfl⟩ := List.mem_map.1 member
  exact ⟨rfl, rfl, rfl, rfl, rfl⟩

end Engine.Reference

namespace ForeignKey

open Reference

variable {declaration : TableDeclaration} {pairs : List (Nat × Reference)}

def listing (declaration : TableDeclaration) (pairs : List (Nat × Reference)) : List KeyColumn :=
  pairs.flatMap fun (id, reference) => reference.listed declaration id

theorem listing_cons (id : Nat) (reference : Reference) (pairs : List (Nat × Reference)) :
    listing declaration ((id, reference) :: pairs) =
      reference.listed declaration id ++ listing declaration pairs := rfl

theorem mem_listing {column : KeyColumn} (member : column ∈ listing declaration pairs) :
    ∃ pair ∈ pairs, column ∈ pair.2.listed declaration pair.1 := by
  obtain ⟨⟨id, reference⟩, listed, inside⟩ := List.mem_flatMap.1 member
  exact ⟨(id, reference), listed, inside⟩

theorem listedIds_listing (apart : pairs.Pairwise fun a b => a.1 ≠ b.1)
    (sound : ∀ pair ∈ pairs, pair.2.Sound declaration) :
    listedIds (listing declaration pairs) = pairs.map fun pair => (pair.1 : Int) := by
  induction pairs with
  | nil => rfl
  | cons pair pairs ih =>
    obtain ⟨id, reference⟩ := pair
    obtain ⟨first, apart⟩ := List.pairwise_cons.1 apart
    obtain ⟨here, sound⟩ := List.forall_mem_cons.1 sound
    have rest := ih apart sound
    cases block : reference.listed declaration id with
    | nil => exact absurd block (here.listed_ne_nil id)
    | cons head tail =>
      have ids : ∀ column ∈ head :: tail, column.id = id := fun column member =>
        (mem_listed (block ▸ member)).1
      have gone : (tail.map KeyColumn.id).filter (fun other => !(other == (id : Int))) = [] := by
        simp only [List.filter_eq_nil_iff, List.mem_map, forall_exists_index, and_imp,
          forall_apply_eq_imp_iff₂]
        intro column member
        simp [ids column (List.mem_cons_of_mem _ member)]
      have kept : ((listing declaration pairs).map KeyColumn.id).filter
          (fun other => !(other == (id : Int))) = (listing declaration pairs).map KeyColumn.id := by
        rw [List.filter_eq_self]
        intro other member
        obtain ⟨column, inside, rfl⟩ := List.mem_map.1 member
        obtain ⟨pair, listed, column⟩ := mem_listing inside
        rw [(mem_listed column).1]
        have different := first pair listed
        have other : (pair.1 : Int) ≠ id := fun same => different (Int.ofNat_inj.1 same).symm
        simpa using other
      unfold listedIds at rest ⊢
      rw [listing_cons, block, List.cons_append, List.map_cons, List.map_append,
        ids head List.mem_cons_self, List.eraseDups_cons, List.filter_append, gone, List.nil_append, kept,
        rest, List.map_cons]

theorem filter_listing (apart : pairs.Pairwise fun a b => a.1 ≠ b.1) {id : Nat} {reference : Reference}
    (member : (id, reference) ∈ pairs) :
    (listing declaration pairs).filter (fun column => column.id == (id : Int)) =
      reference.listed declaration id := by
  have own (pair : Nat × Reference) (same : pair.1 = id) :
      (pair.2.listed declaration pair.1).filter (fun column => column.id == (id : Int)) =
        pair.2.listed declaration pair.1 := by
    rw [List.filter_eq_self]
    intro column inside
    simp [(mem_listed inside).1, same]
  have none (pair : Nat × Reference) (different : pair.1 ≠ id) :
      (pair.2.listed declaration pair.1).filter (fun column => column.id == (id : Int)) = [] := by
    rw [List.filter_eq_nil_iff]
    intro column inside
    have other : (pair.1 : Int) ≠ id := fun same => different (Int.ofNat_inj.1 same)
    simp [(mem_listed inside).1, other]
  induction pairs with
  | nil => simp at member
  | cons pair pairs ih =>
    obtain ⟨first, apart⟩ := List.pairwise_cons.1 apart
    rw [listing, List.flatMap_cons, List.filter_append]
    rcases List.mem_cons.1 member with rfl | member
    · have others : (pairs.flatMap fun pair =>
          (pair.2.listed declaration pair.1).filter fun column => column.id == (id : Int)) = [] := by
        rw [List.flatMap_eq_nil_iff]
        exact fun pair listed => none pair (first pair listed).symm
      rw [own (id, reference) rfl, List.filter_flatMap, others, List.append_nil]
    · rw [none pair (first _ member), List.nil_append]
      exact ih apart member

theorem columnsOf_listing (apart : pairs.Pairwise fun a b => a.1 ≠ b.1) {id : Nat} {reference : Reference}
    (member : (id, reference) ∈ pairs) (sound : reference.Sound declaration) :
    columnsOf (listing declaration pairs) id = reference.listed declaration id := by
  unfold columnsOf
  rw [filter_listing apart member]
  apply List.mergeSort_of_pairwise
  refine (sound.listed_increasing id).imp ?_
  intro a b before
  exact decide_eq_true (Int.le_of_lt before)

theorem named?_listed {reference : Reference} (sound : reference.Sound declaration) (id : Nat) :
    named? (reference.listed declaration id) = reference.destinations := by
  have destinations : named? (reference.listed declaration id) = reference.named.mapM fun name => name := by
    rw [← sound.listed_destinations id, List.mapM_map]
    rfl
  rw [destinations, named]
  split
  · rename_i names given
    rw [List.mapM_map, given]
    have all : names.mapM some = some names := by
      simpa using List.mapM_pure (m := Option) (f := fun name : String => name) (l := names)
    exact all
  · rename_i implicit
    cases columns : reference.columns with
    | nil => exact absurd columns sound.columns
    | cons column columns =>
      rw [List.map_cons, List.mapM_cons, implicit]
      rfl

end ForeignKey

end TextQuery
