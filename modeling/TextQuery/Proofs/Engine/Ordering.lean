import TextQuery.Proofs.Engine.Declaring

set_option autoImplicit false

namespace TextQuery.Engine

open Text

namespace NameOrder

theorem place_perm (slots : Nat) (names : List String) (name : String) :
    (place slots names name).Perm (name :: names) := by
  unfold place
  split
  · exact .refl _
  · extract_lets isApart
    split
    · exact .refl _
    · refine List.perm_middle.trans ?_
      rw [List.takeWhile_append_dropWhile]

-- Names that are put in their places one after the other, whatever else is kept of them.
theorem foldl_perm {σ : Type} (read : σ → List String) {put : σ → String → σ}
    (one : ∀ state name, (read (put state name)).Perm (name :: read state)) (names : List String)
    (state : σ) : (read (names.foldl put state)).Perm (names ++ read state) := by
  induction names generalizing state with
  | nil => exact .refl _
  | cons name names ih =>
    rw [List.foldl_cons, List.cons_append]
    exact (ih _).trans (((one state name).append_left names).trans List.perm_middle)

theorem insert_perm (order : NameOrder) (name : String) :
    (order.insert name).names.Perm (name :: order.names) := by
  unfold insert
  extract_lets slots names
  refine (place_perm slots names name).trans (.cons name ?_)
  dsimp only [names]
  split
  · exact .refl _
  · have placed := foldl_perm id (place_perm slots) order.names []
    rwa [id_eq, id_eq, List.append_nil] at placed

theorem ofNames_perm (names : List String) : (ofNames names).names.Perm names := by
  simpa [ofNames] using foldl_perm NameOrder.names insert_perm names {}

theorem follow_perm {order : NameOrder} {names : List String} (before : order.names.Nodup)
    (after : names.Nodup) : (order.follow names).names.Perm names := by
  unfold follow
  extract_lets kept
  refine (foldl_perm NameOrder.names insert_perm _ kept).trans ?_
  have distinct : (names.filter (fun name => !order.names.contains name) ++ kept.names).Nodup := by
    refine List.nodup_append.2 ⟨after.filter _, before.filter _, ?_⟩
    rintro name new other old rfl
    have new := (List.mem_filter.1 new).2
    simp [(List.mem_filter.1 old).1] at new
  rw [List.perm_ext_iff_of_nodup distinct after]
  intro name
  by_cases known : name ∈ order.names <;> simp [kept, known]

end NameOrder

/-- A schema that goes through each of its tables once, none of which takes the place of its catalog. -/
structure Schema.Orderly (schema : Schema) : Prop where
  ordered : schema.order.names.Perm (orderedNames schema.name schema.tables)
  unlisted : ∀ table ∈ schema.tables, (catalogNames schema.name).any (sameName table.name) = false
  stored : ∀ table ∈ schema.tables, table.Stored

namespace Schema

variable {schema : Schema} {tables : List Table} {name : String}

theorem catalog_mem (name : String) : (catalog name).name ∈ catalogNames name := by
  unfold catalog catalogNames
  split <;> simp

theorem orderedNames_nodup (distinct : tables.Pairwise fun a b => sameName a.name b.name = false)
    (unlisted : ∀ table ∈ tables, (catalogNames name).any (sameName table.name) = false) :
    (orderedNames name tables).Nodup := by
  refine List.nodup_cons.2 ⟨?_, ?_⟩
  · intro taken
    obtain ⟨table, member, same⟩ := List.mem_map.1 taken
    have apart := List.any_eq_false.1 (unlisted table member) _ (catalog_mem name)
    rw [same] at apart
    exact apart (sameName_refl _)
  · refine List.pairwise_map.2 (distinct.imp ?_)
    intro a b apart same
    rw [same, sameName_refl] at apart
    cases apart

theorem orderly_ofTables (unlisted : ∀ table ∈ tables, (catalogNames name).any (sameName table.name) = false)
    (stored : ∀ table ∈ tables, table.Stored) : (ofTables name tables).Orderly :=
  ⟨NameOrder.ofNames_perm _, unlisted, stored⟩

theorem Orderly.change (orderly : schema.Orderly) {edit : List Table → List Table}
    (before : schema.tables.Pairwise fun a b => sameName a.name b.name = false)
    (after : (edit schema.tables).Pairwise fun a b => sameName a.name b.name = false)
    (unlisted : ∀ table ∈ edit schema.tables, (catalogNames schema.name).any (sameName table.name) = false)
    (stored : ∀ table ∈ edit schema.tables, table.Stored) : (schema.change edit).Orderly where
  ordered := NameOrder.follow_perm
    (orderly.ordered.nodup_iff.2 (orderedNames_nodup before orderly.unlisted))
    (orderedNames_nodup after unlisted)
  unlisted := unlisted
  stored := stored

-- Of tables with names of their own, each is found by its name.
theorem find?_name (distinct : tables.Pairwise fun a b => sameName a.name b.name = false) {table : Table}
    (member : table ∈ tables) : Table.find? tables table.name = some table := by
  cases found : Table.find? tables table.name with
  | none => exact absurd (sameName_refl _) (List.find?_eq_none.1 found table member)
  | some other =>
    have same : sameName other.name table.name = true := by simpa using List.find?_some found
    rw [eq_of_sameName distinct (List.mem_of_find?_eq_some found) member same]

theorem Orderly.inOrder_perm (orderly : schema.Orderly)
    (distinct : schema.tables.Pairwise fun a b => sameName a.name b.name = false) :
    schema.inOrder.Perm schema.tables := by
  have missing : Table.find? schema.tables (catalog schema.name).name = none := by
    refine List.find?_eq_none.2 fun table member same => ?_
    exact List.any_eq_false.1 (orderly.unlisted table member) _ (catalog_mem schema.name) same
  have each (tables : List Table) (inside : ∀ table ∈ tables, table ∈ schema.tables) :
      (tables.map Table.name).filterMap (Table.find? schema.tables) = tables := by
    induction tables with
    | nil => rfl
    | cons table tables ih =>
      obtain ⟨here, inside⟩ := List.forall_mem_cons.1 inside
      rw [List.map_cons, List.filterMap_cons_some (find?_name distinct here), ih inside]
  have all : (orderedNames schema.name schema.tables).filterMap (Table.find? schema.tables) =
      schema.tables := by
    rw [orderedNames, List.filterMap_cons_none missing, each schema.tables fun _ => id]
  exact (orderly.ordered.filterMap _).trans (.of_eq all)

end Schema

end TextQuery.Engine
