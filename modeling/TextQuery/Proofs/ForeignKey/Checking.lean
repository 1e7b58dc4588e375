import TextQuery.Proofs.ForeignKey.Violating
import TextQuery.Proofs.Validator.Afresh

set_option autoImplicit false

namespace TextQuery

open Engine Engine.Change Text

-- Why a lookup in the catalog fails: because of the engine, or because something is not there.
def Failure.OfLookup (failure : Failure) : Prop := (∃ fault, failure = .engine fault) ∨ failure.IsSchema

namespace Attempt

variable {α β : Type} {P : Failure → Prop}

def FailsAs (P : Failure → Prop) (attempt : Attempt Database α) : Prop :=
  ∀ world failure after, attempt.run world = (.error failure, after) → P failure

theorem failsAs_pure (value : α) : FailsAs P (pure value) := by
  intro world failure after failed
  have answer : Except.ok value = Except.error failure := congrArg Prod.fst failed
  cases answer

theorem failsAs_bind {first : Attempt Database α} {next : α → Attempt Database β}
    (fails : FailsAs P first) (failsNext : ∀ value, FailsAs P (next value)) : FailsAs P (first >>= next) := by
  intro world failure after failed
  cases ran : first.run world with
  | mk answer middle =>
    cases answer with
    | ok value =>
      rw [run_bind_ok _ ran] at failed
      exact failsNext value middle failure after failed
    | error other =>
      rw [run_bind_error _ ran] at failed
      cases failed
      exact fails world failure after ran

theorem failsAs_ask {statement : Statement α} : FailsAs Failure.OfLookup (ask statement) := by
  intro world failure after failed
  rw [run_ask] at failed
  cases answer : (Engine.answer statement world.engine).1 with
  | ok value =>
    rw [answer] at failed
    cases failed
  | error fault =>
    rw [answer] at failed
    cases failed
    exact .inl ⟨fault, rfl⟩

theorem failsAs_schema (message : String) : FailsAs Failure.OfLookup (fail (.schema message) : Attempt Database α) := by
  rintro world failure after ⟨⟩
  exact .inr ⟨_, rfl, rfl⟩

end Attempt

namespace Catalog

open Attempt

theorem failsAs_ensureSchema (schema : String) :
    FailsAs Failure.OfLookup (ensureSchema schema : Attempt Database String) := by
  refine failsAs_bind (failsAs_bind failsAs_ask fun _ => failsAs_pure _) ?_
  intro names
  split
  · exact failsAs_pure _
  · exact failsAs_schema _

theorem failsAs_firstHolding (table : String) (names : List String) :
    FailsAs Failure.OfLookup (firstHolding table names : Attempt Database (Option String)) := by
  induction names with
  | nil => exact failsAs_pure _
  | cons name names ih =>
    refine failsAs_bind failsAs_ask ?_
    intro there
    split
    · exact failsAs_pure _
    · exact ih

theorem failsAs_resolve (table : String) (schema : Option String) :
    FailsAs Failure.OfLookup (resolve table schema : Attempt Database String) := by
  cases schema with
  | some schema =>
    refine failsAs_bind (failsAs_ensureSchema schema) fun name => failsAs_bind failsAs_ask ?_
    intro there
    split
    · exact failsAs_pure _
    · exact failsAs_schema _
  | none =>
    refine failsAs_bind (failsAs_bind failsAs_ask fun _ => failsAs_pure _) fun names =>
      failsAs_bind (failsAs_firstHolding table names) ?_
    intro found
    split
    · exact failsAs_pure _
    · exact failsAs_schema _

end Catalog

namespace ForeignKey

open Attempt

variable {world : World Database}

-- The first schema that has a table of a name.
def holder? (database : Database) (table : String) : Option String :=
  (Catalog.namesOf database).find? fun name =>
    (database.schema? name).any fun home => (Table.find? home.tables table).isSome

def lookedAt? (database : Database) (table schema : Option String) : Option String :=
  match table, schema with
  | _, some schema => Catalog.canonical? (Catalog.namesOf database) schema
  | some table, none => holder? database table
  | none, none => some "main"

/-- A check passes over the schema that it looks at if its name is taken for another one. -/
def PassesOver (database : Database) (table schema : Option String) : Prop :=
  ∃ name, lookedAt? database table schema = some name ∧
    Catalog.canonical? (Catalog.namesOf database) name ≠ some name

-- A name that was picked is picked for itself.
theorem canonical?_idem {names : List String} {schema name : String}
    (picked : Catalog.canonical? names schema = some name) : Catalog.canonical? names name = some name := by
  have same : lower name = lower schema := by simpa using List.find?_some picked
  unfold Catalog.canonical? at picked ⊢
  rw [same, picked]

theorem canonical?_main (database : Database) :
    Catalog.canonical? (Catalog.namesOf database) "main" = some "main" := by
  have apart : (lower "temp" == lower "main") = false := by decide
  unfold Catalog.canonical? Catalog.namesOf Catalog.lookupOrder Catalog.standing
  simp [apart]

theorem PassesOver.bare {database : Database} {table schema : Option String}
    (passed : PassesOver database table schema) : schema = none ∧ table.isSome = true := by
  obtain ⟨name, looked, taken⟩ := passed
  cases schema with
  | some schema => exact absurd (canonical?_idem looked) taken
  | none =>
    cases table with
    | some table => exact ⟨rfl, rfl⟩
    | none =>
      cases looked
      exact absurd (canonical?_main database) taken

-- What a computation comes to whose faults are reported in another way.
theorem exists_of_map_mapError {ε ε' α β : Type} {computation : Except ε α} {report : ε → ε'} {f : α → β}
    {value : β} (done : (computation.mapError report).map f = .ok value) :
    ∃ found, computation = .ok found ∧ f found = value := by
  cases computation with
  | ok found => exact ⟨found, rfl, Except.ok.inj done⟩
  | error fault => cases done

def resolution (table schema : Option String) : Attempt Database String :=
  match table, schema with
  | some table, schema => Catalog.resolve table schema
  | none, some schema => Catalog.ensureSchema schema
  | none, none => pure "main"

theorem check_eq (table schema : Option String) : (check table schema : Attempt Database _) =
    resolution table schema >>= fun resolved =>
      ask (.foreignKeyCheck resolved table) >>= fun found => pure (resolved, found) := by
  cases table <;> cases schema <;> rfl

theorem violations_run (table schema : Option String) (world : World Database) :
    ((violations table schema : Attempt Database _).run world).1 =
      ((check table schema : Attempt Database _).run world).1.map Prod.snd := congrArg Prod.fst (run_map _ _ _)

-- A check fails as the lookup of its schema does, or as the engine does.
theorem failsAs_check (table schema : Option String) :
    FailsAs Failure.OfLookup (check table schema : Attempt Database _) := by
  rw [check_eq]
  refine failsAs_bind ?_ fun resolved => failsAs_bind failsAs_ask fun _ => failsAs_pure _
  unfold resolution
  split
  · exact Catalog.failsAs_resolve _ _
  · exact Catalog.failsAs_ensureSchema _
  · exact failsAs_pure _

/-- What is known of the schema that a check looks at. -/
structure LooksAt (database : Database) (table schema : Option String) (home : Schema) : Prop where
  looked : lookedAt? database table schema = some home.name
  found : database.schema? home.name = some home
  there : ∀ name, table = some name → (Table.find? home.tables name).isSome = true
  passed : PassesOver database table schema → ∃ name picked, table = some name ∧
    Catalog.canonical? (Catalog.namesOf database) home.name = some picked ∧
    Catalog.Lacks database name picked

theorem looksAt_first {table : String} {home : Schema}
    {before later : List String} (found : world.engine.schema? home.name = some home)
    (there : (Table.find? home.tables table).isSome = true)
    (split : Catalog.namesOf world.engine = before ++ home.name :: later)
    (lacking : ∀ other ∈ before, Catalog.Lacks world.engine table other) :
    LooksAt world.engine (some table) none home := by
  have looked : lookedAt? world.engine (some table) none = some home.name := by
    have others : (before.find? fun name => (world.engine.schema? name).any fun home =>
        (Table.find? home.tables table).isSome) = none := by
      rw [List.find?_eq_none]
      intro other member
      obtain ⟨held, known, -, missing⟩ := lacking other member
      simp [known, missing]
    rw [lookedAt?, holder?, split, List.find?_append, others, Option.none_or,
      List.find?_cons_of_pos (by simp [found, there])]
  refine ⟨looked, found, fun name same => Option.some.inj same ▸ there, ?_⟩
  rintro ⟨name, same, taken⟩
  obtain rfl : home.name = name := Option.some.inj (looked.symm.trans same)
  -- The name itself would be picked if none before it had the same lower-case form.
  have first : ∃ picked ∈ before, Catalog.canonical? (Catalog.namesOf world.engine) home.name = some picked := by
    unfold Catalog.canonical? at taken ⊢
    rw [split, List.find?_append, List.find?_cons_of_pos (by simp)] at taken ⊢
    cases earlier : before.find? fun name => lower name == lower home.name with
    | none => simp [earlier] at taken
    | some picked => exact ⟨picked, List.mem_of_find?_eq_some earlier, rfl⟩
  obtain ⟨picked, member, known⟩ := first
  exact ⟨table, picked, rfl, known, lacking picked member⟩

theorem resolution_ok (regular : world.engine.Regular) {table schema : Option String} {name : String}
    {after : World Database} (done : (resolution table schema).run world = (.ok name, after)) :
    ∃ home : Schema, home.name = name ∧ LooksAt world.engine table schema home ∧
      world.engine.Sees after.engine := by
  cases schema with
  | some schema =>
    cases table with
    | some table =>
      obtain ⟨picked, home, rfl, holds⟩ := Catalog.picked_of_resolve regular done
      refine ⟨home, rfl, ⟨picked, holds.found, ?_, ?_⟩, ⟨holds.toFollows, holds.regular⟩⟩
      · exact fun name same => Option.some.inj same ▸ holds.there
      · intro passed
        cases passed.bare.1
    | none =>
      change (Catalog.ensureSchema schema).run world = _ at done
      rw [Catalog.ensureSchema_run regular] at done
      cases picked : Catalog.canonical? (Catalog.namesOf world.engine) schema with
      | none =>
        rw [picked] at done
        cases done
      | some found =>
        rw [picked] at done
        cases done
        obtain ⟨home, rfl, known⟩ :=
          Catalog.schema?_of_namesOf regular (List.mem_of_find?_eq_some picked)
        refine ⟨home, rfl, ⟨picked, known, by simp, fun passed => ?_⟩, .refl regular⟩
        cases passed.bare.1
  | none =>
    cases table with
    | some table =>
      have first := Catalog.firstHolding_of_resolve regular done
      obtain ⟨⟨home, rfl, holds⟩, before, later, split, lacking⟩ :=
        Catalog.firstHolding_some regular (fun _ listed => listed) first
      exact ⟨home, rfl, looksAt_first holds.found holds.there split lacking, ⟨holds.toFollows, holds.regular⟩⟩
    | none =>
      cases done
      have named := regular.main
      have known : world.engine.schema? world.engine.main.name = some world.engine.main :=
        regular.schema?_eq (by simp [Database.schemas])
      refine ⟨world.engine.main, named, ⟨?_, known, by simp, fun passed => ?_⟩, .refl regular⟩
      · rw [named]
        rfl
      · cases passed.bare.2

section

variable {table : Option String} {home : Schema} {middle : World Database}
  (sees : world.engine.Sees middle.engine) (found : world.engine.schema? home.name = some home)
  (there : ∀ name, table = some name → (Table.find? home.tables name).isSome = true)
include sees found there

theorem foreignKeyCheck_run :
    ∃ after, (ask (.foreignKeyCheck home.name table) : Attempt Database _).run middle =
        ((middle.engine.reading >>= fun _ => world.engine.foreignKeyCheck home.name table).mapError
          .engine, after) ∧ middle.engine.Sees after.engine := by
  have known := (sees.schema? _).trans found
  have named : ∀ name, table = some name → Writable name := by
    intro name same
    obtain ⟨held, listed⟩ := Option.isSome_iff_exists.1 (there name same)
    exact writable_table sees.regular known (find?_of_tables listed)
  obtain ⟨later, answered, -⟩ := answer_foreignKeyCheck sees.regular known named
  rw [sees.foreignKeyCheck] at answered
  have engine : Engine.answer (.foreignKeyCheck home.name table) middle.engine = _ := answered
  exact ⟨{ middle with engine := later }, run_ask_of engine,
    Change.sees_of_answer rfl sees.regular answered⟩

theorem check_resolved {schema : Option String}
    (resolved : (resolution table schema).run world = (.ok home.name, middle)) :
    ∃ after, (check table schema : Attempt Database _).run world =
        (((middle.engine.reading >>= fun _ => world.engine.foreignKeyCheck home.name table).mapError
          .engine).map fun found => (home.name, found), after) ∧ middle.engine.Sees after.engine := by
  obtain ⟨after, asked, last⟩ := foreignKeyCheck_run sees found there
  refine ⟨after, ?_, last⟩
  rw [check_eq, run_bind_ok _ resolved, run_map, asked]

end

theorem check_ok (regular : world.engine.Regular) {table schema : Option String} {name : String}
    {found : List Violation} {after : World Database}
    (done : (check table schema : Attempt Database _).run world = (.ok (name, found), after)) :
    ∃ home : Schema, home.name = name ∧ LooksAt world.engine table schema home ∧
      world.engine.foreignKeyCheck home.name table = .ok found ∧ world.engine.Sees after.engine ∧
      after.engine.reading = .ok () := by
  cases resolved : (resolution table schema).run world with
  | mk answer middle =>
    cases answer with
    | error failure =>
      rw [check_eq, run_bind_error _ resolved] at done
      cases done
    | ok other =>
      obtain ⟨home, rfl, looks, sees⟩ := resolution_ok regular resolved
      obtain ⟨later, checked, last⟩ := check_resolved sees looks.found looks.there resolved
      obtain ⟨answer, rfl⟩ := Prod.mk.inj (checked.symm.trans done)
      obtain ⟨violations, comes, same⟩ := exists_of_map_mapError answer
      obtain ⟨_, read, violated⟩ := exists_of_bind_eq_ok comes
      cases same
      refine ⟨home, rfl, looks, violated, sees.trans last, ?_⟩
      exact Database.reading_of_readable ((Database.readable_of_reading read).follows last.toFollows)

-- The tables that a check goes through are tables of the schema, if they have rows.
theorem mem_checked? {home : Schema} (orderly : home.Orderly)
    (distinct : home.tables.Pairwise fun a b => sameName a.name b.name = false) {table : Option String}
    {tables : List Table} (checked : home.checked? table = some tables) {held : Table}
    (member : held ∈ tables) {declaration : TableDeclaration} {rows : List StoredRow}
    (body : held.body = .ordinary declaration rows) :
    held ∈ home.tables ∧ ∀ name, table = some name → sameName held.name name = true := by
  cases table with
  | none =>
    cases checked
    exact ⟨(orderly.inOrder_perm distinct).subset member, nofun⟩
  | some name =>
    obtain ⟨other, there, rfl⟩ := Option.map_eq_some_iff.1 checked
    cases List.mem_singleton.1 member
    rcases Schema.find?_cases there with ⟨-, inside, same⟩ | ⟨rfl, -⟩
    · exact ⟨inside, fun _ given => Option.some.inj given ▸ same⟩
    · cases body

theorem violates_of_foreignKeyCheck {database : Database} (orderly : database.Orderly) {home : Schema}
    (known : database.schema? home.name = some home) {table : Option String} {found : List Violation}
    (checked : database.foreignKeyCheck home.name table = .ok found) {violation : Violation}
    (member : violation ∈ found) :
    database.touch home.name = .ok () ∧ ∃ held ∈ home.tables,
      (∀ name, table = some name → sameName held.name name = true) ∧
      ∃ declaration rows row numbered, held.Violates home.find? declaration rows row numbered violation := by
  obtain ⟨tables, lists, through, each, rfl, touched⟩ := Database.foreignKeyCheck_ok known checked
  obtain ⟨violations, listed, member⟩ := List.mem_flatten.1 member
  have answered : Except.ok violations ∈ lists.map (Except.ok (ε := Fault)) := List.mem_map_of_mem listed
  rw [← map_of_mapM each] at answered
  obtain ⟨held, inside, violated⟩ := List.mem_map.1 answered
  obtain ⟨declaration, rows, row, numbered, violates⟩ := Table.violates_of_violations violated member
  have schema : home ∈ database.schemas := List.mem_of_find?_eq_some known
  obtain ⟨there, same⟩ := mem_checked? (orderly.orderly home schema) (orderly.distinct home schema) through
    inside violates.body
  have keys : tables.any Table.hasReferences = true := List.any_eq_true.2 ⟨held, inside, violates.hasReferences⟩
  exact ⟨touched keys, held, there, same, declaration, rows, row, numbered, violates⟩

/-- Where a violation was found: the schema that the check looks at, and there the table and the row. -/
structure Offends (database : Database) (table schema : Option String) (home : Schema) (held : Table)
    (declaration : TableDeclaration) (rows : List StoredRow) (row : StoredRow) (numbered : Nat × Reference)
    (violation : Violation) : Prop
    extends held.Violates home.find? declaration rows row numbered violation where
  looks : LooksAt database table schema home
  there : Table.find? home.tables held.name = some held
  named : ∀ name, table = some name → sameName held.name name = true
  sound : declaration.Sound
  stored : held.Stored

theorem offends_of_check (orderly : world.engine.Orderly) {table schema : Option String} {name : String}
    {first : Violation} {rest : List Violation} {after : World Database}
    (done : (check table schema : Attempt Database _).run world = (.ok (name, first :: rest), after)) :
    ∃ home held declaration rows row numbered, home.name = name ∧
      Offends world.engine table schema home held declaration rows row numbered first ∧
      after.engine.Shows home ∧ world.engine.Sees after.engine := by
  obtain ⟨home, rfl, looks, checked, sees, reading⟩ := check_ok orderly.toRegular done
  obtain ⟨touched, held, listed, same, declaration, rows, row, numbered, violates⟩ :=
    violates_of_foreignKeyCheck orderly looks.found checked List.mem_cons_self
  have schema : home ∈ world.engine.schemas := List.mem_of_find?_eq_some looks.found
  have ready : after.engine.access home.name = .ok () := by
    rw [Database.access_eq_ok, sees.touch]
    exact ⟨reading, touched⟩
  exact ⟨home, held, declaration, rows, row, numbered, rfl,
    ⟨violates, looks, Schema.find?_name (orderly.distinct home schema) listed, same,
      orderly.declared home schema held listed declaration rows violates.body,
      (orderly.orderly home schema).stored held listed⟩,
    ⟨sees.regular, (sees.schema? _).trans looks.found, ready⟩, sees⟩

end ForeignKey

end TextQuery
