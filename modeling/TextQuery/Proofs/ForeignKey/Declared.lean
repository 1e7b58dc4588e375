import TextQuery.Proofs.Catalog.Picking
import TextQuery.Proofs.ForeignKey.Grouping
import Mathlib.Data.List.TakeDrop

set_option autoImplicit false

namespace TextQuery

open Engine Text

namespace Engine

def Schema.keyOf (home : Schema) (table : String) : List String :=
  match (home.find? table).map Table.body with
  | some (.ordinary declaration _) =>
    if declaration.primaryKey = [] then [Catalog.rowNumber] else declaration.keyNames
  | _ => [Catalog.rowNumber]

def Schema.HasRows (home : Schema) (table : String) : Prop :=
  ∃ held declaration rows, home.find? table = some held ∧ held.body = .ordinary declaration rows

-- A table that the catalog tells the key of, be it that there is none.
def Schema.Lists (home : Schema) (table : String) : Prop :=
  home.HasRows table ∨ home.find? table = none ∧ Writable table

namespace Reference

def aims (home : Schema) (reference : Reference) : List String :=
  reference.destinations.getD (home.keyOf reference.table)

def key (home : Schema) (declaration : TableDeclaration) (id : Nat) (reference : Reference) : ForeignKey where
  id
  destinationTable := reference.table
  mapping := (reference.origins declaration).zipWith ColumnPair.mk (reference.aims home)
  onUpdate := action reference.onUpdate
  onDelete := action reference.onDelete
  matching := "NONE"

-- Whether it is certain that the columns which a key points at are found.
def Certain (home : Schema) (reference : Reference) : Prop :=
  reference.destinations = none → home.HasRows reference.table

def Settled (home : Schema) (reference : Reference) : Prop :=
  reference.destinations = none → home.Lists reference.table

end Reference

def Table.foreignKeys (home : Schema) (table : Table) : List ForeignKey :=
  match table.body with
  | .ordinary declaration _ =>
    declaration.numberedReferences.map fun (id, reference) => reference.key home declaration id
  | _ => []

def Table.Certain (home : Schema) (table : Table) : Prop :=
  ∀ declaration rows, table.body = .ordinary declaration rows →
    ∀ reference ∈ declaration.references, reference.Certain home

def Table.Settled (home : Schema) (table : Table) : Prop :=
  ∀ declaration rows, table.body = .ordinary declaration rows →
    ∀ reference ∈ declaration.references, reference.Settled home

theorem Table.Certain.settled {home : Schema} {table : Table} (certain : table.Certain home) :
    table.Settled home :=
  fun declaration rows body reference member implicit =>
    .inl (certain declaration rows body reference member implicit)

namespace TableDeclaration

theorem numberedReferences_apart (declaration : TableDeclaration) :
    declaration.numberedReferences.Pairwise fun a b => a.1 ≠ b.1 := by
  have numbers : (declaration.numberedReferences.map Prod.fst).Nodup := by
    rw [numberedReferences, List.map_fst_zip (by simp)]
    exact List.nodup_range
  exact List.pairwise_map.1 numbers

theorem reference_mem {declaration : TableDeclaration} {pair : Nat × Reference}
    (member : pair ∈ declaration.numberedReferences) : pair.2 ∈ declaration.references :=
  List.mem_reverse.1 (List.of_mem_zip member).2

end TableDeclaration

namespace Database

structure Shows (database : Database) (home : Schema) : Prop where
  regular : database.Regular
  found : database.schema? home.name = some home
  ready : database.access home.name = .ok ()

variable {database after : Database} {home : Schema}

theorem Shows.later (shows : database.Shows home) (sees : database.Sees after) : after.Shows home :=
  ⟨sees.regular, (sees.schema? _).trans shows.found, sees.access shows.ready⟩

theorem Sees.trans {last : Database} (first : database.Sees after) (second : after.Sees last) :
    database.Sees last := ⟨first.toFollows.trans second.toFollows, second.regular⟩

theorem Sees.refl (regular : database.Regular) : database.Sees database := ⟨.refl database, regular⟩

theorem Shows.sound (shows : database.Shows home) {table : String} {held : Table}
    (there : home.find? table = some held) : held.Sound := by
  rcases Schema.find?_cases there with ⟨-, member, -⟩ | ⟨catalog, -⟩
  · exact shows.regular.declared home (List.mem_of_find?_eq_some shows.found) held member
  · rw [catalog]
    rintro declaration rows ⟨⟩

theorem keyColumns_tableInfo (found : database.schema? home.name = some home) {table : String}
    (sound : ∀ held, home.find? table = some held → held.Sound) {columns : List ColumnInfo}
    (listed : database.tableInfo home.name table = .ok columns) :
    Catalog.keyColumns columns = home.keyOf table := by
  have described : database.described home.name = .ok home := schemaOr_eq_ok.2 found
  have returned {columns found : List ColumnInfo}
      (done : (do database.touch home.name; return columns : Except Fault (List ColumnInfo)) = .ok found) :
      found = columns := by
    obtain ⟨-, -, done⟩ := exists_of_bind_eq_ok done
    exact (Except.ok.inj done).symm
  unfold tableInfo at listed
  rw [described] at listed
  unfold Schema.keyOf
  cases there : home.find? table with
  | none =>
    simp only [bind, Except.bind, there] at listed
    rw [returned listed]
    rfl
  | some held =>
    cases body : held.body with
    | ordinary declaration rows =>
      simp only [bind, Except.bind, there, body] at listed
      rw [returned listed, Option.map_some, body]
      exact Catalog.keyColumns_info (sound held there declaration rows body)
    | fullText | splitter | view | catalog =>
      simp only [bind, Except.bind, there, body] at listed
      split at listed
      · cases listed
      · rw [returned listed, Option.map_some, body]
        apply Catalog.keyColumns_of_unkeyed
        simp

end Database

end Engine

def Attempt.Yields {α : Type} (certain : Prop) (value : α) (attempt : Attempt Database α)
    (world : World Database) : Prop :=
  ∃ result after, attempt.run world = (result, after) ∧ world.engine.Sees after.engine ∧
    (result = .ok value ∨ ¬certain ∧ ∃ failure, result = .error failure)

namespace Attempt.Yields

variable {α β : Type} {certain : Prop} {value : α} {result : β} {world : World Database}

theorem pure (regular : world.engine.Regular) : Yields certain value (Pure.pure value) world :=
  ⟨_, world, rfl, .refl regular, .inl rfl⟩

theorem debug (regular : world.engine.Regular) (message : String) :
    Yields certain () (Attempt.debug message) world := ⟨_, _, rfl, .refl regular, .inl rfl⟩

theorem bind {first : Attempt Database α} {next : α → Attempt Database β}
    (found : Yields certain value first world)
    (rest : ∀ after, world.engine.Sees after.engine → Yields certain result (next value) after) :
    Yields certain result (first >>= next) world := by
  obtain ⟨_, middle, ran, sees, rfl | ⟨uncertain, failure, rfl⟩⟩ := found
  · obtain ⟨answer, after, ranNext, seesNext, comes⟩ := rest middle sees
    exact ⟨answer, after, (run_bind_ok next ran).trans ranNext, sees.trans seesNext, comes⟩
  · exact ⟨_, middle, run_bind_error next ran, sees, .inr ⟨uncertain, failure, rfl⟩⟩

theorem mono {sure : Prop} {attempt : Attempt Database α} (found : Yields certain value attempt world)
    (weaker : sure → certain) : Yields sure value attempt world := by
  obtain ⟨result, after, ran, sees, comes⟩ := found
  exact ⟨result, after, ran, sees, comes.imp_right fun ⟨uncertain, failed⟩ => ⟨mt weaker uncertain, failed⟩⟩

-- What an attempt came to is the value.
theorem eq_of_ok {attempt : Attempt Database α} (found : Yields certain value attempt world) {other : α}
    {after : World Database} (done : attempt.run world = (.ok other, after)) :
    other = value ∧ world.engine.Sees after.engine := by
  obtain ⟨answer, later, ran, sees, comes⟩ := found
  rw [done] at ran
  obtain ⟨rfl, rfl⟩ := Prod.mk.inj ran
  rcases comes with same | ⟨-, failure, same⟩
  · exact ⟨Except.ok.inj same, sees⟩
  · cases same

theorem run_eq {attempt : Attempt Database α} (found : Yields certain value attempt world)
    (sure : certain) : ∃ after, attempt.run world = (.ok value, after) ∧ world.engine.Sees after.engine := by
  obtain ⟨answer, after, ran, sees, rfl | ⟨uncertain, -⟩⟩ := found
  · exact ⟨after, ran, sees⟩
  · exact absurd sure uncertain

end Attempt.Yields

namespace ForeignKey

open Attempt Reference

variable {world : World Database} {home : Schema} {declaration : TableDeclaration}

theorem yields_primaryKey (shows : world.engine.Shows home) (table : String) :
    Yields (home.Lists table) (home.keyOf table) (Catalog.primaryKeyColumns table home.name) world := by
  cases answered : Engine.answer (.tableInfo home.name table) world.engine with
  | mk answer after =>
    have sees : world.engine.Sees after := Change.sees_of_answer rfl shows.regular answered
    have asked : (ask (.tableInfo home.name table)).run world =
        (answer.mapError .engine, { world with engine := after }) := run_ask_of answered
    unfold Catalog.primaryKeyColumns
    cases answer with
    | ok columns =>
      obtain ⟨ready, first, responded⟩ := Change.answer_responds answered
      have listed : ready.tableInfo home.name table = .ok columns := (Prod.mk.inj responded).1
      have key := Database.keyColumns_tableInfo ((first.schema? _).trans shows.found)
        (fun held there => shows.sound there) listed
      exact ⟨_, _, run_bind_ok _ asked, sees, .inl (congrArg Except.ok key)⟩
    | error fault =>
      refine ⟨_, _, run_bind_error _ asked, sees, .inr ⟨?_, _, rfl⟩⟩
      rintro (⟨held, declaration, rows, there, body⟩ | ⟨missing, writable⟩)
      · obtain ⟨later, found, -⟩ :=
          Change.answer_tableInfo shows.regular shows.found shows.ready there body
        cases answered.symm.trans found
      · obtain ⟨later, found, -⟩ :=
          Change.answer_tableInfo_missing shows.regular shows.found shows.ready missing writable
        cases answered.symm.trans found

theorem yields_destinations (shows : world.engine.Shows home) {reference : Reference}
    (sound : reference.Sound declaration) (id : Nat) :
    Yields (reference.Settled home) (reference.aims home)
      (destinationsOf (reference.listed declaration id) reference.table home.name) world := by
  unfold destinationsOf aims
  rw [named?_listed sound]
  cases given : reference.destinations with
  | some names => exact .pure shows.regular
  | none => exact (yields_primaryKey shows reference.table).mono fun settled => settled given

theorem yields_ofColumns (shows : world.engine.Shows home) {reference : Reference}
    (sound : reference.Sound declaration) (id : Nat) :
    Yields (reference.Settled home) (some (reference.key home declaration id))
      (ofColumns home.name id (reference.listed declaration id)) world := by
  have found := yields_destinations shows sound id
  have origins := sound.listed_origins id
  cases columns : reference.listed declaration id with
  | nil => exact absurd columns (sound.listed_ne_nil id)
  | cons first rest =>
    have member : first ∈ reference.listed declaration id := by rw [columns]; exact List.mem_cons_self
    obtain ⟨-, table, onUpdate, onDelete, matching⟩ := mem_listed member
    rw [columns] at found origins
    have pairs (destinations : List String) : pairUp (first :: rest) destinations =
        (reference.origins declaration).zipWith ColumnPair.mk destinations := by
      rw [pairUp, ← origins, List.zipWith_map_left]
    simp only [ofColumns, table, onUpdate, onDelete, matching]
    refine found.bind fun after sees => ?_
    rw [pairs]
    exact .pure sees.regular

theorem yields_ofListing {all pairs : List (Nat × Reference)}
    (apart : all.Pairwise fun a b => a.1 ≠ b.1) (sound : ∀ pair ∈ all, pair.2.Sound declaration)
    (inside : ∀ pair ∈ pairs, pair ∈ all) (shows : world.engine.Shows home) :
    Yields (∀ pair ∈ pairs, pair.2.Settled home) (pairs.map fun (id, reference) => reference.key home declaration id)
      (ofListing home.name (listing declaration all) (pairs.map fun pair => (pair.1 : Int))) world := by
  induction pairs generalizing world with
  | nil => exact .pure shows.regular
  | cons pair pairs ih =>
    obtain ⟨id, reference⟩ := pair
    obtain ⟨here, inside⟩ := List.forall_mem_cons.1 inside
    have first := yields_ofColumns shows (sound _ here) id
    simp only [List.map_cons, ofListing, columnsOf_listing apart here (sound _ here)]
    refine (first.mono fun settled => settled _ List.mem_cons_self).bind fun middle sees => ?_
    have rest := ih inside (shows.later sees)
    refine (rest.mono fun settled pair member => settled pair (List.mem_cons_of_mem _ member)).bind
      fun after later => ?_
    exact .pure later.regular

-- What is done about a table once its schema has been found.
def declaredIn (table resolved : String) : Attempt Database (List ForeignKey) := do
  let columns ← Attempt.ask (.foreignKeyList resolved table)
  let keys ← ofListing resolved columns (listedIds columns)
  Attempt.debug ("Found " ++ toString keys.length ++ " foreign keys on " ++ resolved ++ "." ++ table)
  return keys

theorem declared_eq (table : String) (schema : Option String) :
    (declared table schema : Attempt Database _) = Catalog.resolve table schema >>= declaredIn table := rfl

theorem keyColumns_eq {held : Table} {rows : List StoredRow} (body : held.body = .ordinary declaration rows) :
    held.keyColumns = listing declaration declaration.numberedReferences := by
  rw [Table.keyColumns, body]
  rfl

theorem yields_declaredIn (shows : world.engine.Shows home) {table : String} {held : Table}
    (there : home.find? table = some held) :
    Yields (held.Settled home) (held.foreignKeys home) (declaredIn table home.name) world := by
  obtain ⟨after, answered, follows⟩ := Change.answer_foreignKeyList shows.regular shows.found shows.ready there
  have sees : world.engine.Sees after := Change.sees_of_answer rfl shows.regular answered
  have asked : Yields (held.Settled home) held.keyColumns
      (ask (.foreignKeyList home.name table) : Attempt Database _) world :=
    ⟨_, _, run_ask_of answered, sees, .inl rfl⟩
  refine asked.bind fun middle sees => ?_
  have listed : Yields (held.Settled home) (held.foreignKeys home)
      (ofListing home.name held.keyColumns (listedIds held.keyColumns)) middle := by
    cases body : held.body with
    | ordinary declaration rows =>
      have apart := declaration.numberedReferences_apart
      have sound := shows.sound there declaration rows body
      have references : ∀ pair ∈ declaration.numberedReferences, pair.2.Sound declaration :=
        fun pair member => sound.references _ (TableDeclaration.reference_mem member)
      rw [keyColumns_eq body, listedIds_listing apart references, Table.foreignKeys, body]
      refine (yields_ofListing apart references (fun _ member => member) (shows.later sees)).mono ?_
      exact fun settled pair member =>
        settled declaration rows body _ (TableDeclaration.reference_mem member)
    | fullText | splitter | view | catalog =>
      rw [Table.keyColumns, Table.foreignKeys, body]
      exact .pure sees.regular
  refine listed.bind fun after sees => ?_
  refine (Yields.debug sees.regular _).bind fun _ sees => ?_
  exact .pure sees.regular

theorem find?_of_tables {table : String} {held : Table} (there : Table.find? home.tables table = some held) :
    home.find? table = some held := by
  unfold Schema.find?
  rw [there]

section

variable {schema table : String} (regular : world.engine.Regular)
  (picked : Catalog.canonical? (Catalog.namesOf world.engine) schema = some home.name)
  (found : world.engine.schema? home.name = some home)
include regular picked found

theorem yields_settled (ready : world.engine.access home.name = .ok ()) {held : Table}
    (there : Table.find? home.tables table = some held) :
    Yields (held.Settled home) (held.foreignKeys home) (declared table (some schema)) world := by
  obtain ⟨after, resolved, sees⟩ := Catalog.resolve_run regular picked found table
  rw [ready, there] at resolved
  have shows : world.engine.Shows home := ⟨regular, found, ready⟩
  have named : Yields (held.Settled home) home.name (Catalog.resolve table (some schema)) world :=
    ⟨_, after, resolved, sees, .inl rfl⟩
  rw [declared_eq]
  exact named.bind fun _ sees => yields_declaredIn (shows.later sees) (find?_of_tables there)

theorem yields_declared (ready : world.engine.access home.name = .ok ()) {held : Table}
    (there : Table.find? home.tables table = some held) :
    Yields (held.Certain home) (held.foreignKeys home) (declared table (some schema)) world :=
  (yields_settled regular picked found ready there).mono Table.Certain.settled

theorem tells_declared : Catalog.TellsOf world.engine schema home table
    (fun held answer => answer = .ok (held.foreignKeys home) ∨
      ¬held.Settled home ∧ ∃ failure, answer = .error failure)
    ((declared table (some schema) : Attempt Database _).run world).1 := by
  rw [declared_eq]
  refine Catalog.tellsOf_resolve regular picked found fun held after there ready sees => ?_
  have shows : world.engine.Shows home := ⟨regular, found, ready⟩
  obtain ⟨result, last, ran, -, comes⟩ := yields_declaredIn (shows.later sees) (find?_of_tables there)
  rw [ran]
  exact comes

theorem declared_missing (ready : world.engine.access home.name = .ok ())
    (missing : Table.find? home.tables table = none) :
    ((declared table (some schema) : Attempt Database _).run world).1 =
      .error (.diagnostic (.noSuchTableIn schema table)) :=
  (tells_declared regular picked found).missing ready missing

theorem declared_fault {fault : Fault} (unready : world.engine.access home.name = .error fault) :
    ((declared table (some schema) : Attempt Database _).run world).1 = .error (.engine fault) :=
  (tells_declared regular picked found).fault unready

end

theorem declared_ok (regular : world.engine.Regular) {table : String} {schema : Option String}
    {keys : List ForeignKey} {after : World Database}
    (done : (declared table schema : Attempt Database _).run world = (.ok keys, after)) :
    ∃ (home : Schema) (held : Table), world.engine.schema? home.name = some home ∧
      Table.find? home.tables table = some held ∧ held.Sound ∧ keys = held.foreignKeys home := by
  rw [declared_eq] at done
  cases resolved : (Catalog.resolve table schema : Attempt Database _).run world with
  | mk answer middle =>
    cases answer with
    | error failure =>
      rw [run_bind_error _ resolved] at done
      cases done
    | ok name =>
      obtain ⟨home, rfl, holds⟩ := Catalog.resolve_ok regular resolved
      obtain ⟨held, there⟩ := Option.isSome_iff_exists.1 holds.there
      rw [run_bind_ok _ resolved] at done
      have shows : middle.engine.Shows home :=
        ⟨holds.regular, (holds.toFollows.schema? _).trans holds.found, holds.ready⟩
      have entry := find?_of_tables there
      obtain ⟨same, -⟩ := (yields_declaredIn shows entry).eq_of_ok done
      exact ⟨home, held, holds.found, there, shows.sound entry, same⟩

end ForeignKey

namespace Engine

/-- A key that says what was declared. -/
structure Reference.Declares (home : Schema) (declaration : TableDeclaration) (reference : Reference)
    (key : ForeignKey) : Prop where
  destinationTable : key.destinationTable = reference.table
  onUpdate : key.onUpdate = Reference.action reference.onUpdate
  onDelete : key.onDelete = Reference.action reference.onDelete
  matching : key.matching = "NONE"
  origins : key.originColumns = reference.origins declaration
  destinations : key.destinationColumns = reference.aims home
  names : List.Forall₂ (fun found declared => sameName found declared = true)
    key.originColumns reference.columns

/-- A reference with as many columns on either side. Where no destinations are named, those are the
columns of the primary key of a table that is there. -/
def Reference.Complete (home : Schema) (reference : Reference) : Prop :=
  reference.destinations = none → ∃ held declaration rows, home.find? reference.table = some held ∧
    held.body = .ordinary declaration rows ∧
    (firsts declaration.primaryKey).length = reference.columns.length

namespace Reference

variable {home : Schema} {declaration : TableDeclaration} {reference : Reference}

theorem Complete.certain (complete : reference.Complete home) : reference.Certain home := by
  intro implicit
  obtain ⟨held, declaration, rows, there, body, -⟩ := complete implicit
  exact ⟨held, declaration, rows, there, body⟩

theorem Complete.length_aims (sound : reference.Sound declaration) (complete : reference.Complete home) :
    (reference.aims home).length = reference.columns.length := by
  unfold aims
  cases given : reference.destinations with
  | some names => exact sound.width names given
  | none =>
    obtain ⟨held, parent, rows, there, body, width⟩ := complete given
    have keyed : parent.primaryKey ≠ [] := by
      intro empty
      rw [empty] at width
      exact sound.columns (List.eq_nil_of_length_eq_zero width.symm)
    rw [Option.getD_none, Schema.keyOf, there, Option.map_some, body]
    dsimp only
    rw [if_neg keyed, TableDeclaration.keyNames, List.length_map, width]

theorem length_origins (declaration : TableDeclaration) (reference : Reference) :
    (reference.origins declaration).length = reference.columns.length :=
  List.length_map _

theorem zipWith_origin (origins destinations : List String) :
    (origins.zipWith ColumnPair.mk destinations).map ColumnPair.origin = origins.take destinations.length := by
  induction origins generalizing destinations with
  | nil => simp
  | cons origin origins ih => cases destinations <;> simp [ih]

theorem zipWith_destination (origins destinations : List String) :
    (origins.zipWith ColumnPair.mk destinations).map ColumnPair.destination =
      destinations.take origins.length := by
  induction origins generalizing destinations with
  | nil => simp
  | cons origin origins ih => cases destinations <;> simp [ih]

theorem key_originColumns (id : Nat) : (reference.key home declaration id).originColumns =
    (reference.origins declaration).take (reference.aims home).length := zipWith_origin _ _

theorem Sound.key_origins_iff (sound : reference.Sound declaration) (id : Nat) :
    (reference.key home declaration id).originColumns = reference.origins declaration ↔
      reference.destinations = none → reference.columns.length ≤ (home.keyOf reference.table).length := by
  have wide : (reference.key home declaration id).originColumns = reference.origins declaration ↔
      reference.columns.length ≤ (reference.aims home).length := by
    rw [key_originColumns, List.take_eq_self_iff, length_origins]
  rw [wide, aims]
  cases given : reference.destinations with
  | some names => simp [sound.width names given]
  | none => simp

theorem Sound.declares (sound : reference.Sound declaration) (complete : reference.Complete home) (id : Nat) :
    reference.Declares home declaration (reference.key home declaration id) := by
  have width := complete.length_aims sound
  have origins : (reference.key home declaration id).originColumns = reference.origins declaration := by
    rw [key_originColumns, width, ← length_origins declaration, List.take_length]
  refine ⟨rfl, rfl, rfl, rfl, origins, ?_, ?_⟩
  · have all : (reference.aims home).take (reference.origins declaration).length = reference.aims home := by
      rw [length_origins, ← width, List.take_length]
    exact (zipWith_destination _ _).trans all
  · rw [origins, Reference.origins, List.forall₂_map_left_iff, List.forall₂_same]
    exact fun name member => TableDeclaration.sameName_declaredName (sound.declared name member)

end Reference

namespace Table

variable {home : Schema} {held : Table} {declaration : TableDeclaration} {rows : List StoredRow}

theorem foreignKeys_eq (body : held.body = .ordinary declaration rows) : held.foreignKeys home =
    declaration.numberedReferences.map fun numbered => numbered.2.key home declaration numbered.1 := by
  rw [foreignKeys, body]

theorem certain_of_complete (body : held.body = .ordinary declaration rows)
    (complete : ∀ reference ∈ declaration.references, reference.Complete home) : held.Certain home := by
  intro other stored same reference member
  obtain ⟨rfl, -⟩ := Body.ordinary.inj (body.symm.trans same)
  exact (complete reference member).certain

theorem foreignKeys_declare (body : held.body = .ordinary declaration rows) (sound : declaration.Sound)
    (complete : ∀ reference ∈ declaration.references, reference.Complete home) :
    List.Forall₂ (fun numbered key =>
      key.id = numbered.1 ∧ numbered.2.Declares home declaration key)
      declaration.numberedReferences (held.foreignKeys home) := by
  rw [foreignKeys_eq body, List.forall₂_map_right_iff, List.forall₂_same]
  intro numbered member
  have listed := TableDeclaration.reference_mem member
  exact ⟨rfl, (sound.references _ listed).declares (complete _ listed) numbered.1⟩

end Table

end Engine

end TextQuery
