import TextQuery.Engine.Script
import TextQuery.Proofs.Catalog.PrimaryKey
import TextQuery.ForeignKey.Lookup

set_option autoImplicit false

namespace TextQuery.ForeignKey

open Engine

variable {rows other : List KeyColumn} {row : KeyColumn} {id : Int}

def Apart (a b : KeyColumn) : Prop := ¬(a.id = b.id ∧ a.sequence = b.sequence)

theorem Apart.symm {a b : KeyColumn} (apart : Apart a b) : Apart b a :=
  fun same => apart ⟨same.1.symm, same.2.symm⟩

/-- Rows in groups: every row is in one of them, once, and each is in key order. -/
structure Grouped (rows : List KeyColumn) (groups : List (List KeyColumn)) : Prop where
  whole : groups.flatten.Perm rows
  increasing : ∀ group ∈ groups, group.Pairwise fun a b => a.sequence < b.sequence

theorem listedIds_cons (row : KeyColumn) (rows : List KeyColumn) :
    listedIds (row :: rows) = row.id :: listedIds (rows.filter fun other => other.id != row.id) := by
  rw [listedIds, List.map_cons, List.eraseDups_cons, List.filter_map]
  rfl

theorem listedIds_induction {motive : List KeyColumn → Prop} (nil : motive [])
    (cons : ∀ row rows, motive (rows.filter fun other => other.id != row.id) → motive (row :: rows)) :
    ∀ rows, motive rows
  | [] => nil
  | row :: rows => cons row rows (listedIds_induction nil cons _)
termination_by rows => rows.length
decreasing_by exact Nat.lt_succ_of_le (List.length_filter_le _ _)

theorem mem_listedIds : id ∈ listedIds rows ↔ ∃ row ∈ rows, row.id = id := by
  rw [listedIds, List.mem_eraseDups, List.mem_map]

theorem listedIds_increasing (rows : List KeyColumn) :
    (listedIds rows).Pairwise fun a b => rows.findIdx (·.id == a) < rows.findIdx (·.id == b) := by
  induction rows using listedIds_induction with
  | nil => exact List.Pairwise.nil
  | cons row rows ih =>
    have different : ∀ id ∈ listedIds (rows.filter fun other => other.id != row.id), row.id ≠ id := by
      intro id member same
      obtain ⟨found, kept, rfl⟩ := mem_listedIds.1 member
      simp [same] at kept
    rw [listedIds_cons, List.pairwise_cons]
    constructor
    · intro id member
      simp [List.findIdx_cons, beq_eq_false_iff_ne.2 (different id member)]
    · refine ih.imp_of_mem ?_
      intro a b first second before
      have keeps {id : Int} (apart : row.id ≠ id) (other : KeyColumn) (found : (other.id == id) = true) :
          (other.id != row.id) = true := by
        rw [eq_of_beq found]
        simpa using apart.symm
      have later := Text.findIdx_lt_of_filter (keeps (different a first)) (keeps (different b second)) before
      simpa [List.findIdx_cons, beq_eq_false_iff_ne.2 (different a first),
        beq_eq_false_iff_ne.2 (different b second)] using later

theorem listedIds_nodup (rows : List KeyColumn) : (listedIds rows).Nodup :=
  (listedIds_increasing rows).imp fun before same => by simp [same] at before

theorem columnsOf_perm (rows : List KeyColumn) (id : Int) :
    (columnsOf rows id).Perm (rows.filter fun row => row.id == id) := List.mergeSort_perm _ _

theorem mem_columnsOf : row ∈ columnsOf rows id ↔ row ∈ rows ∧ row.id = id := by
  rw [(columnsOf_perm rows id).mem_iff, List.mem_filter, beq_iff_eq]

theorem columnsOf_increasing (apart : rows.Pairwise Apart) (id : Int) :
    (columnsOf rows id).Pairwise fun a b => a.sequence < b.sequence := by
  have sorted : (columnsOf rows id).Pairwise fun a b => decide (a.sequence ≤ b.sequence) = true :=
    List.pairwise_mergeSort
      (fun a b c first second => by simpa using Int.le_trans (by simpa using first) (by simpa using second))
      (fun a b => by simpa using Int.le_total a.sequence b.sequence) _
  have different : (columnsOf rows id).Pairwise Apart :=
    ((columnsOf_perm rows id).pairwise_iff Apart.symm).2 (apart.filter _)
  refine (sorted.and different).imp_of_mem ?_
  intro a b first second ⟨below, apart⟩
  have same : a.id = b.id := (mem_columnsOf.1 first).2.trans (mem_columnsOf.1 second).2.symm
  have unequal : a.sequence ≠ b.sequence := fun equal => apart ⟨same, equal⟩
  have below : a.sequence ≤ b.sequence := by simpa using below
  omega

-- Rows with one number are put in front of the others, which are parted further.
theorem columnsOf_whole (rows : List KeyColumn) : ((listedIds rows).flatMap (columnsOf rows)).Perm rows := by
  induction rows using listedIds_induction with
  | nil => exact .nil
  | cons row rows ih =>
    have rest : (listedIds (rows.filter fun other => other.id != row.id)).flatMap (columnsOf (row :: rows)) =
        (listedIds (rows.filter fun other => other.id != row.id)).flatMap
          (columnsOf (rows.filter fun other => other.id != row.id)) := by
      refine List.flatMap_congr fun id member => ?_
      obtain ⟨found, kept, rfl⟩ := mem_listedIds.1 member
      have different : found.id ≠ row.id := by simpa using (List.mem_filter.1 kept).2
      unfold columnsOf
      rw [List.filter_cons_of_neg (by simpa using different.symm), List.filter_filter]
      congr 1
      refine List.filter_congr fun other _ => ?_
      by_cases same : other.id = found.id
      · simp [same, different]
      · simp [same]
    rw [listedIds_cons, List.flatMap_cons, rest]
    refine ((columnsOf_perm _ _).append ih).trans ?_
    rw [List.filter_cons_of_pos (by simp), List.cons_append]
    exact (List.filter_append_perm (fun other => other.id == row.id) rows).cons row

theorem grouped_columnsOf (apart : rows.Pairwise Apart) :
    Grouped rows ((listedIds rows).map (columnsOf rows)) := by
  refine ⟨columnsOf_whole rows, ?_⟩
  rintro _ member
  obtain ⟨id, -, rfl⟩ := List.mem_map.1 member
  exact columnsOf_increasing apart id

theorem listedIds_perm (perm : other.Perm rows) : (listedIds other).Perm (listedIds rows) := by
  refine (List.perm_ext_iff_of_nodup (listedIds_nodup _) (listedIds_nodup _)).2 fun id => ?_
  simp only [mem_listedIds, perm.mem_iff]

theorem columnsOf_congr (apart : rows.Pairwise Apart) (perm : other.Perm rows) (id : Int) :
    columnsOf other id = columnsOf rows id := by
  have alsoApart : other.Pairwise Apart := (perm.pairwise_iff Apart.symm).2 apart
  refine List.Perm.eq_of_pairwise ?_ (columnsOf_increasing alsoApart id) (columnsOf_increasing apart id) ?_
  · intro a b _ _ before after
    omega
  · exact (columnsOf_perm other id).trans ((perm.filter _).trans (columnsOf_perm rows id).symm)

/-- What a table is keyed by, told from the list of its columns: those of its primary key by their places in it,
or the row number. -/
def KeyedBy (columns : List ColumnInfo) (names : List String) : Prop :=
  (∀ column ∈ columns, column.keyPosition = 0) ∧ names = ["rowid"] ∨
    ∃ keyed, keyed ≠ [] ∧ keyed.Perm (columns.filter fun column => column.keyPosition != 0) ∧
      (keyed.Pairwise fun a b =>
        a.keyPosition < b.keyPosition ∨ a.keyPosition = b.keyPosition ∧ a.name ≤ b.name) ∧
      names = keyed.map ColumnInfo.name

theorem keyedBy_keyColumns (columns : List ColumnInfo) : KeyedBy columns (Catalog.keyColumns columns) := by
  unfold Catalog.keyColumns
  split
  · rename_i none
    exact .inl ⟨fun column member => by simpa using List.filter_eq_nil_iff.1 none column member, rfl⟩
  · rename_i some
    have perm := List.mergeSort_perm (columns.filter fun column => column.keyPosition != 0) Catalog.beforeInKey
    refine .inr ⟨_, fun nothing => some ?_, perm, ?_, rfl⟩
    · exact (nothing ▸ perm).nil_eq.symm
    · exact (List.pairwise_mergeSort Catalog.beforeInKey_trans Catalog.beforeInKey_total _).imp
        Catalog.beforeInKey_iff.1

/-- The key that the rows of a group make up, given what is listed of the columns of other tables. -/
structure Assembled (info : String → List ColumnInfo) (group : List KeyColumn) (key : ForeignKey) : Prop where
  numbered : ∀ row ∈ group, row.id = key.id
  first : ∃ first rest, group = first :: rest ∧ key.destinationTable = first.table ∧
    key.onUpdate = first.onUpdate ∧ key.onDelete = first.onDelete ∧ key.matching = first.matching
  origins : key.originColumns <+: group.map KeyColumn.origin
  given : (∀ row ∈ group, row.destination ≠ none) →
    key.mapping.map (fun pair => (pair.origin, some pair.destination)) =
      group.map fun row => (row.origin, row.destination)
  implied : (∃ row ∈ group, row.destination = none) → ∃ names, KeyedBy (info key.destinationTable) names ∧
    key.mapping = (group.map KeyColumn.origin).zipWith ColumnPair.mk names

theorem named?_cases (columns : List KeyColumn) :
    (∃ names, named? columns = some names ∧ columns.map KeyColumn.destination = names.map some) ∨
      named? columns = none ∧ ∃ column ∈ columns, column.destination = none := by
  induction columns with
  | nil => exact .inl ⟨[], rfl, rfl⟩
  | cons column columns ih =>
    unfold named? at ih ⊢
    rw [List.mapM_cons]
    cases given : column.destination with
    | none => exact .inr ⟨rfl, column, List.mem_cons_self, given⟩
    | some name =>
      obtain ⟨names, all, same⟩ | ⟨none, missing, member, nowhere⟩ := ih
      · exact .inl ⟨name :: names, by rw [all]; rfl, by rw [List.map_cons, given, same]; rfl⟩
      · exact .inr ⟨by rw [none]; rfl, missing, List.mem_cons_of_mem _ member, nowhere⟩

-- The key of a group, where all that is asked of the engine is what columns other tables have.
def keyOf? (info : String → List ColumnInfo) (id : Int) : List KeyColumn → Option ForeignKey
  | [] => none
  | first :: rest => some {
      id
      destinationTable := first.table
      mapping := pairUp (first :: rest)
        ((named? (first :: rest)).getD (Catalog.keyColumns (info first.table)))
      onUpdate := first.onUpdate
      onDelete := first.onDelete
      matching := first.matching }

theorem pairUp_eq (columns : List KeyColumn) (names : List String) :
    pairUp columns names = (columns.map KeyColumn.origin).zipWith ColumnPair.mk names := by
  rw [pairUp, List.zipWith_map_left]

theorem origins_pairUp (columns : List KeyColumn) (names : List String) :
    (pairUp columns names).map ColumnPair.origin <+: columns.map KeyColumn.origin := by
  induction columns generalizing names with
  | nil => exact List.nil_prefix
  | cons column columns ih =>
    cases names with
    | nil => exact List.nil_prefix
    | cons name names => exact List.cons_prefix_cons.2 ⟨rfl, ih names⟩

theorem pairUp_named {columns : List KeyColumn} {names : List String}
    (same : columns.map KeyColumn.destination = names.map some) :
    (pairUp columns names).map (fun pair => (pair.origin, some pair.destination)) =
      columns.map fun row => (row.origin, row.destination) := by
  induction columns generalizing names with
  | nil => rfl
  | cons column columns ih =>
    cases names with
    | nil => cases same
    | cons name names =>
      obtain ⟨here, later⟩ := List.cons.inj same
      have rest := ih later
      rw [pairUp, List.zipWith_cons_cons, List.map_cons, List.map_cons, here]
      exact congrArg _ rest

theorem exists_assembled (info : String → List ColumnInfo) {group : List KeyColumn} (some : group ≠ [])
    (numbered : ∀ row ∈ group, row.id = id) : ∃ key, keyOf? info id group = .some key ∧
      key.id = id ∧ Assembled info group key := by
  cases group with
  | nil => exact absurd rfl some
  | cons first rest =>
    refine ⟨_, rfl, rfl, numbered, ⟨first, rest, rfl, rfl, rfl, rfl, rfl⟩, origins_pairUp _ _, fun given => ?_,
      fun missing => ?_⟩
    · obtain ⟨names, all, same⟩ | ⟨-, row, member, nowhere⟩ := named?_cases (first :: rest)
      · rw [all]
        exact pairUp_named same
      · exact absurd nowhere (given row member)
    · obtain ⟨names, -, same⟩ | ⟨none, -⟩ := named?_cases (first :: rest)
      · obtain ⟨row, member, nowhere⟩ := missing
        have listed := List.mem_map_of_mem (f := KeyColumn.destination) member
        rw [same, nowhere] at listed
        obtain ⟨name, -, impossible⟩ := List.mem_map.1 listed
        cases impossible
      · refine ⟨_, keyedBy_keyColumns _, ?_⟩
        rw [none, pairUp_eq]
        rfl

theorem assembled_keys (info : String → List ColumnInfo) (rows : List KeyColumn) {ids : List Int}
    (listed : ∀ id ∈ ids, ∃ row ∈ rows, row.id = id) :
    (ids.filterMap fun id => keyOf? info id (columnsOf rows id)).map ForeignKey.id = ids ∧
      List.Forall₂ (Assembled info) (ids.map (columnsOf rows))
        (ids.filterMap fun id => keyOf? info id (columnsOf rows id)) := by
  induction ids with
  | nil => exact ⟨rfl, .nil⟩
  | cons id ids ih =>
    obtain ⟨⟨row, inside, same⟩, later⟩ := List.forall_mem_cons.1 listed
    obtain ⟨key, made, named, assembled⟩ := exists_assembled info
      (List.ne_nil_of_mem (mem_columnsOf.2 ⟨inside, same⟩)) fun row member => (mem_columnsOf.1 member).2
    obtain ⟨names, keys⟩ := ih later
    rw [List.filterMap_cons_some (f := fun id => keyOf? info id (columnsOf rows id)) made, List.map_cons, List.map_cons, names, named]
    exact ⟨rfl, .cons assembled keys⟩

def info (listing : Listing) (table : String) : List ColumnInfo := (listing.columns.lookup table).getD []

def withRows (listing : Listing) (table : String) (rows : List KeyColumn) : Listing :=
  { listing with keyColumns := (table, rows) :: listing.keyColumns }

/-- An attempt comes to the same whatever the rows of keys are, and leaves no record. -/
def Blind {α : Type} (listing : Listing) (attempt : Attempt Listing α) (answer : Except Failure α) : Prop :=
  ∀ keyColumns journal, attempt.run { engine := { listing with keyColumns }, journal } =
    (answer, { engine := { listing with keyColumns }, journal })

section

variable {α β : Type} {listing : Listing} {answer : Except Failure α} {table resolved : String}

theorem blind_bind {first : Attempt Listing α} {next : α → Attempt Listing β}
    (blind : Blind listing first answer) (blindNext : ∀ value, ∃ answer, Blind listing (next value) answer) :
    ∃ answer, Blind listing (first >>= next) answer := by
  cases answer with
  | ok value =>
    obtain ⟨answer, blindNext⟩ := blindNext value
    exact ⟨answer, fun keyColumns journal =>
      (Attempt.run_bind_ok next (blind keyColumns journal)).trans (blindNext keyColumns journal)⟩
  | error failure =>
    exact ⟨.error failure, fun keyColumns journal => Attempt.run_bind_error next (blind keyColumns journal)⟩

theorem blind_tableExists (listing : Listing) (table schema : String) :
    Blind listing (Catalog.tableExists table schema) (.ok (listing.answer (.tableExists schema table))) :=
  fun _ _ => rfl

theorem blind_firstHolding (listing : Listing) (table : String) (names : List String) :
    ∃ answer, Blind listing (Catalog.firstHolding table names) answer := by
  induction names with
  | nil => exact ⟨.ok none, fun _ _ => rfl⟩
  | cons name names ih =>
    refine blind_bind (blind_tableExists listing table name) fun held => ?_
    cases held with
    | true => exact ⟨.ok (some name), fun _ _ => rfl⟩
    | false => exact ih

theorem blind_resolve (listing : Listing) (table : String) (schema : Option String) :
    ∃ answer, Blind listing (Catalog.resolve table schema) answer := by
  have names : Blind listing Catalog.schemaNames (.ok (Catalog.lookupOrder listing.databases)) := fun _ _ => rfl
  cases schema with
  | none =>
    refine blind_bind names fun names => ?_
    obtain ⟨answer, held⟩ := blind_firstHolding listing table names
    refine blind_bind held fun found => ?_
    cases found with
    | some name => exact ⟨.ok name, fun _ _ => rfl⟩
    | none => exact ⟨_, fun _ _ => rfl⟩
  | some schema =>
    have ensured : ∃ answer, Blind listing (Catalog.ensureSchema schema) answer := by
      refine blind_bind names fun names => ?_
      cases Catalog.canonical? names schema with
      | some name => exact ⟨.ok name, fun _ _ => rfl⟩
      | none => exact ⟨_, fun _ _ => rfl⟩
    obtain ⟨answer, ensured⟩ := ensured
    refine blind_bind ensured fun name => ?_
    refine blind_bind (blind_tableExists listing table name) fun held => ?_
    cases held with
    | true => exact ⟨.ok name, fun _ _ => rfl⟩
    | false => exact ⟨_, fun _ _ => rfl⟩

theorem ofColumns_run (listing : Listing) (journal : List Record) (schema : String) (id : Int)
    (columns : List KeyColumn) : (ofColumns schema id columns).run { engine := listing, journal } =
      (.ok (keyOf? (info listing) id columns), { engine := listing, journal }) := by
  cases columns with
  | nil => rfl
  | cons first rest =>
    simp only [ofColumns, keyOf?, destinationsOf]
    cases named? (first :: rest) <;> rfl

theorem ofListing_run (listing : Listing) (journal : List Record) (schema : String) (rows : List KeyColumn)
    (ids : List Int) : (ofListing schema rows ids).run { engine := listing, journal } =
      (.ok (ids.filterMap fun id => keyOf? (info listing) id (columnsOf rows id)), { engine := listing, journal }) := by
  induction ids with
  | nil => rfl
  | cons id ids ih =>
    rw [ofListing, Attempt.run_bind_ok _ (ofColumns_run listing journal schema id _), Attempt.run_bind_ok _ ih,
      List.filterMap_cons]
    cases keyOf? (info listing) id (columnsOf rows id) <;> rfl

def foundRecord (count : Nat) (resolved table : String) : Record :=
  ⟨Level.debug, "Found " ++ toString count ++ " foreign keys on " ++ resolved ++ "." ++ table⟩

theorem declared_run (journal : List Record) {schema : Option String}
    (found : Blind listing (Catalog.resolve table schema) (.ok resolved)) (rows : List KeyColumn) :
    let keys := (listedIds rows).filterMap fun id => keyOf? (info listing) id (columnsOf rows id)
    (declared table schema).run { engine := withRows listing table rows, journal } =
      (.ok keys, { engine := withRows listing table rows
                   journal := journal ++ [foundRecord keys.length resolved table] }) := by
  intro keys
  have looked : (Catalog.resolve table schema).run { engine := withRows listing table rows, journal } =
      (.ok resolved, { engine := withRows listing table rows, journal }) := found _ journal
  have listed : (Attempt.ask (.foreignKeyList resolved table)).run
      { engine := withRows listing table rows, journal } =
        (.ok rows, { engine := withRows listing table rows, journal }) := by
    rw [Attempt.run_ask]
    change (Except.ok ((List.lookup table ((table, rows) :: listing.keyColumns)).getD []), _) = _
    rw [List.lookup_cons_self]
    rfl
  unfold declared
  rw [Attempt.run_bind_ok _ looked, Attempt.run_bind_ok _ listed,
    Attempt.run_bind_ok _ (ofListing_run (withRows listing table rows) journal resolved rows (listedIds rows))]
  rfl

end

/-- The keys of any rows that no two of are at one place of one key. There is one key for each number, in the order
in which the numbers first occur. The rows are parted into groups, none is lost or in two of them, each in key
order, and each group makes up its key: the table and the actions are those of its first row; where all rows name
destinations the pairs are those of the rows, and where some row does not the columns are paired with what the
destination is keyed by. If the rows are listed in another order the keys are the same, in the order of the
numbers then. -/
theorem declared_gathered (listing : Listing) (journal : List Record) {table resolved : String}
    {schema : Option String}
    (found : ((Catalog.resolve table schema).run { engine := listing, journal }).1 = .ok resolved)
    {rows : List KeyColumn} (apart : rows.Pairwise Apart) :
    ∃ keys groups,
      (declared table schema).run { engine := withRows listing table rows, journal } =
        (.ok keys, { engine := withRows listing table rows
                     journal := journal ++ [foundRecord keys.length resolved table] }) ∧
      (∀ id, id ∈ keys.map ForeignKey.id ↔ ∃ row ∈ rows, row.id = id) ∧
      ((keys.map ForeignKey.id).Pairwise fun a b => rows.findIdx (·.id == a) < rows.findIdx (·.id == b)) ∧
      Grouped rows groups ∧ List.Forall₂ (Assembled (info listing)) groups keys ∧
      ∀ other, other.Perm rows → ∃ again, again.Perm keys ∧
        (declared table schema).run { engine := withRows listing table other, journal } =
          (.ok again, { engine := withRows listing table other
                        journal := journal ++ [foundRecord keys.length resolved table] }) := by
  obtain ⟨answer, blind⟩ := blind_resolve listing table schema
  obtain rfl : answer = .ok resolved := by
    rw [← found]
    exact (congrArg Prod.fst (blind listing.keyColumns journal)).symm
  obtain ⟨ids, assembled⟩ := assembled_keys (info listing) rows fun id member => mem_listedIds.1 member
  refine ⟨_, _, declared_run journal blind rows, ?_, ?_, grouped_columnsOf apart, assembled, fun other perm => ?_⟩
  · intro id
    rw [ids, mem_listedIds]
  · rw [ids]
    exact listedIds_increasing rows
  · have again := (listedIds_perm perm).filterMap fun id => keyOf? (info listing) id (columnsOf rows id)
    have ran := declared_run journal blind other
    simp only [columnsOf_congr apart perm, again.length_eq] at ran
    exact ⟨_, again, ran⟩

-- The columns of two keys mixed, one of which is paired with the primary key, and the same rows backwards.
theorem declared_gathered_mixed :
    let listing : Listing := {
      databases := ["main"], tables := [("main", ["t"])], keyColumns := []
      columns := [("p", [⟨"x", 2⟩, ⟨"y", 1⟩])], violations := [], rows := [] }
    let column (id sequence : Int) (table origin : String) (destination : Option String) : KeyColumn :=
      ⟨id, sequence, table, origin, destination, "NO ACTION", "CASCADE", "NONE"⟩
    let rows := [column 1 1 "q" "d" (some "z"), column 0 1 "p" "b" none, column 1 0 "q" "c" (some "w"),
      column 0 0 "p" "a" none]
    ((Catalog.resolve "t" none).run { engine := listing }).1 = .ok "main" ∧ rows.Pairwise Apart ∧
    ∃ keys groups,
      (declared "t" none).run { engine := withRows listing "t" rows } =
        (.ok keys, { engine := withRows listing "t" rows, journal := [foundRecord keys.length "main" "t"] }) ∧
      (keys.map ForeignKey.id).Pairwise (fun a b => rows.findIdx (·.id == a) < rows.findIdx (·.id == b)) ∧
      Grouped rows groups ∧ List.Forall₂ (Assembled (info listing)) groups keys ∧
      ∃ again, again.Perm keys ∧ (declared "t" none).run { engine := withRows listing "t" rows.reverse } =
        (.ok again, { engine := withRows listing "t" rows.reverse
                      journal := [foundRecord keys.length "main" "t"] }) := by
  intro listing column rows
  have found : ((Catalog.resolve "t" none).run { engine := listing }).1 = .ok "main" := by rfl
  have apart : rows.Pairwise Apart := by simp [rows, column, Apart]
  obtain ⟨keys, groups, ran, -, order, grouped, assembled, reordered⟩ := declared_gathered listing [] found apart
  exact ⟨found, apart, keys, groups, ran, order, grouped, assembled, reordered _ rows.reverse_perm⟩

end TextQuery.ForeignKey
