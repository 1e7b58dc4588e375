import TextQuery.Proofs.ForeignKey.Checking
import TextQuery.Proofs.Session.ForeignKeys

set_option autoImplicit false

namespace TextQuery

open Engine Text

namespace ForeignKey

open Attempt

section

variable (world : World Database) {schema : String} {home : Schema} (regular : world.engine.Regular)
  (picked : Catalog.canonical? (Catalog.namesOf world.engine) schema = some home.name)
  (found : world.engine.schema? home.name = some home)
include regular picked found

theorem violations_table (table : String) :
    Catalog.TellsOf world.engine schema home table
      (fun held answer => answer = (held.violations home.find?).mapError .engine)
      ((violations (some table) (some schema) : Attempt Database _).run world).1 := by
  have checked : Catalog.TellsOf world.engine schema home table
      (fun held answer => answer =
        ((held.violations home.find?).mapError .engine).map fun found => (home.name, found))
      ((check (some table) (some schema) : Attempt Database _).run world).1 := by
    rw [check_eq]
    refine Catalog.tellsOf_resolve regular picked found fun held after there ready sees => ?_
    have listed : ∀ name, some table = some name → (Table.find? home.tables name).isSome = true := by
      rintro name ⟨⟩
      rw [there, Option.isSome_some]
    obtain ⟨later, asked, -⟩ := foreignKeyCheck_run sees found listed
    have touched := (Database.access_eq_ok.1 ready).2
    have reading := (Database.access_eq_ok.1 (sees.access ready)).1
    rw [run_map, asked, reading, Database.foreignKeyCheck_table found (find?_of_tables there) touched]
    rfl
  rw [violations_run]
  refine checked.map fun held answer told => ?_
  rw [told]
  cases held.violations home.find? <;> rfl

theorem violations_schema :
    ((violations none (some schema) : Attempt Database _).run world).1 =
      (world.engine.reading >>= fun _ => world.engine.foreignKeyCheck home.name none).mapError .engine := by
  have ensured : (resolution none (some schema) : Attempt Database _).run world = (.ok home.name, world) := by
    change (Catalog.ensureSchema schema).run world = _
    rw [Catalog.ensureSchema_run regular, picked]
  have listed : ∀ name, none = some name → (Table.find? home.tables name).isSome = true := nofun
  obtain ⟨after, checked, -⟩ := check_resolved (.refl regular) found listed ensured
  rw [violations_run, checked]
  cases (world.engine.reading >>= fun _ => world.engine.foreignKeyCheck home.name none) <;> rfl

end

end ForeignKey

namespace Session

variable {session : Session}

theorem step_violations (isOpen : session.isClosed = false) (table schema : Option String) :
    (session.step (.lookup (.violations table schema))).1 =
      ((ForeignKey.violations table schema : Attempt Database _).run { engine := session.database }).1.map
        .violations := by
  rw [step_lookup isOpen, Lookup.run, Attempt.run_map]

theorem violations_part (regular : session.database.Regular) (isOpen : session.isClosed = false)
    {schema : String} {home : Schema}
    (picked : Catalog.canonical? (Catalog.namesOf session.database) schema = some home.name)
    (found : session.database.schema? home.name = some home) (table : String) :
    Catalog.TellsOf session.database schema home table
      (fun held answer => answer = ((held.violations home.find?).mapError .engine).map .violations)
      (session.step (.lookup (.violations (some table) (some schema)))).1 := by
  rw [step_violations isOpen]
  refine (ForeignKey.violations_table ⟨session.database, []⟩ regular picked found table).map ?_
  exact fun held answer told => congrArg (Except.map Answer.violations) told

/-- In a whole schema the violations of its tables are found, each as often as in its table, if it is the
schema that is picked by its name. Where another schema has a name with the same lower-case form, the tables of
that one may be gone through. A check that comes to anything in a schema that cannot be looked at finds nothing. -/
theorem violations_gathered (reachable : Reachable (fun _ => True) session)
    (isOpen : session.isClosed = false) {schema : String} {home : Schema}
    (found : session.database.schema? schema = some home) :
    let whole := (session.step (.lookup (.violations none (some schema)))).1
    let part (table : String) := (session.step (.lookup (.violations (some table) (some schema)))).1
    ∃ picked ∈ session.database.schemas,
      Catalog.canonical? (Catalog.namesOf session.database) schema = some picked.name ∧
      lower picked.name = lower schema ∧
      (picked ≠ home → sameName picked.name schema = false) ∧
      ∀ all, whole = .ok (.violations all) →
        match session.database.access picked.name with
        | .error fault => all = [] ∧ ∀ table, part table = .error (.engine fault)
        | .ok _ =>
          (∀ table, Table.find? picked.tables table = none →
            part table = .error (.diagnostic (.noSuchTableIn schema table))) ∧
          ∃ parts, all.Perm parts.flatten ∧
            List.Forall₂ (fun (held : Table) violations => part held.name = .ok (.violations violations) ∧
              ∀ violation ∈ violations, ∃ declaration rows row numbered,
                held.Violates picked.find? declaration rows row numbered violation) picked.tables parts := by
  intro whole part
  have orderly := (reachable.has Database.Orderly.outlasting).database
  obtain ⟨picked, member, name, same⟩ := Catalog.exists_picked orderly.toRegular found
  have known := orderly.schema?_eq member
  have wholeOf : whole = _ := step_violations isOpen none (some schema)
  have partOf (table : String) : Catalog.TellsOf session.database schema picked table
      (fun held answer => answer = ((held.violations picked.find?).mapError .engine).map .violations)
      (part table) := violations_part orderly.toRegular isOpen name known table
  rw [ForeignKey.violations_schema ⟨session.database, []⟩ orderly.toRegular name known] at wholeOf
  refine ⟨picked, member, name, same, ?_, ?_⟩
  · intro different
    rw [Bool.eq_false_iff]
    exact fun named => different (orderly.home_eq found member named)
  intro all given
  obtain ⟨found, comes, same⟩ := ForeignKey.exists_of_map_mapError (wholeOf.symm.trans given)
  obtain ⟨_, reading, checked⟩ := exists_of_bind_eq_ok comes
  cases same
  have comes {violation : Violation} (listed : violation ∈ all) :=
    ForeignKey.violates_of_foreignKeyCheck orderly known checked listed
  cases ready : session.database.access picked.name with
  | error fault =>
    refine ⟨List.eq_nil_iff_forall_not_mem.2 fun violation listed => ?_, fun table => ?_⟩
    · -- A schema with keys is looked at where a check comes to anything.
      have looked := Database.access_eq_ok.2 ⟨reading, (comes listed).1⟩
      rw [ready] at looked
      cases looked
    · exact (partOf table).fault ready
  | ok _ =>
    refine ⟨fun table missing => ?_, ?_⟩
    · exact (partOf table).missing ready missing
    · obtain ⟨tables, lists, through, each, rfl, -⟩ := Database.foreignKeyCheck_ok known checked
      cases through
      have distinct := orderly.distinct picked member
      have perm := (orderly.orderly picked member).inOrder_perm distinct
      obtain ⟨parts, found, same⟩ := List.perm_comp_forall₂ perm.symm (forall₂_of_mapM each)
      refine ⟨parts, same.symm.flatten, ?_⟩
      have listed := (List.forall₂_and_left (p := fun held => held ∈ picked.tables) _ _).2 ⟨fun _ => id, found⟩
      refine listed.imp fun held violations ⟨inside, violated⟩ => ⟨?_, ?_⟩
      · have told := (partOf held.name).there ready (Schema.find?_name distinct inside)
        rw [told, violated]
        rfl
      · exact fun violation member => Table.violates_of_violations violated member

-- Two schemas whose names are the same in lower case: what is found in the first one is reported of the second,
-- which has no keys.
theorem violations_gathered_elsewhere :
    let child : TableDeclaration := { columns := [⟨"a", ""⟩], references := [{ columns := ["a"], table := "p" }] }
    let keyless : TableDeclaration := { columns := [⟨"a", ""⟩] }
    let session := fresh.after [.build (.attach "é"), .build (.attach "É"), .build (.createTable "é" "t" child),
      .build (.createTable "É" "t" keyless), .build (.insert "é" "t" [[.int 1]])]
    let violation : Violation := ⟨"t", some 1, "p", 0⟩
    Reachable (fun _ => True) session ∧ session.isClosed = false ∧
    (∃ home, session.database.schema? "É" = some home ∧ home.tables = [⟨"t", keyless.sql "t", .ordinary keyless []⟩]) ∧
    (session.step (.lookup (.violations none (some "É")))).1 = .ok (.violations [violation]) ∧
    (session.step (.lookup (.violations (some "t") (some "É")))).1 = .ok (.violations [violation]) := by
  intro child keyless session violation
  have reachable : Reachable (fun _ => True) session := (Reachable.opened _).after fun _ _ => trivial
  let home := session.database.attached.getLastD session.database.main
  let other := session.database.attached.headD session.database.main
  obtain ⟨isOpen, found, tables, whole, known, first, ready, held⟩ : session.isClosed = false ∧
      session.database.schema? "É" = some home ∧
      home.tables = [⟨"t", keyless.sql "t", .ordinary keyless []⟩] ∧
      (session.step (.lookup (.violations none (some "É")))).1 = .ok (.violations [violation]) ∧
      session.database.schema? "é" = some other ∧
      Catalog.canonical? (Catalog.namesOf session.database) "É" = some "é" ∧
      session.database.access other.name = .ok () ∧
      other.tables = [⟨"t", child.sql "t", .ordinary child [⟨1, [.int 1]⟩]⟩] := by
    decide +kernel
  clear_value home other session
  refine ⟨reachable, isOpen, ⟨home, found, tables⟩, whole, ?_⟩
  obtain ⟨picked, member, name, -, -, gathered⟩ := violations_gathered reachable isOpen found
  have regular := (reachable.has Database.Regular.outlasting).database
  have named : picked.name = "é" := Option.some.inj (name.symm.trans first)
  have same : picked = other := regular.home_eq known member (by rw [named, sameName_refl])
  rw [same, ready] at gathered
  obtain ⟨-, parts, perm, each⟩ := gathered [violation] whole
  rw [held, List.forall₂_cons_left_iff] at each
  obtain ⟨violations, none, ⟨part, -⟩, rest, rfl⟩ := each
  cases rest
  have alone : [violation] = violations := by simpa using perm
  rw [alone]
  exact part

end Session

end TextQuery
