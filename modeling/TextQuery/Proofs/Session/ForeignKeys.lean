import TextQuery.Proofs.ForeignKey.Declared

set_option autoImplicit false

namespace TextQuery

open Engine Text

namespace Session

variable {session : Session}

theorem find?_tables {home : Schema} {table : String} {held : Table} {declaration : TableDeclaration}
    {rows : List StoredRow} (there : home.find? table = some held)
    (body : held.body = .ordinary declaration rows) : Table.find? home.tables table = some held := by
  unfold Schema.find? at there
  split at there
  · rename_i listed
    rw [listed, there]
  · split at there
    · cases there
      cases body
    · cases there

theorem step_foreignKeys (isOpen : session.isClosed = false) (table : String) (schema : Option String) :
    (session.step (.lookup (.foreignKeys table schema))).1 =
      ((ForeignKey.declared table schema : Attempt Database _).run { engine := session.database }).1.map
        .keys := by
  rw [step_lookup isOpen, Lookup.run, Attempt.run_map]

/-- The keys of a table are reported as they were declared, the last one first, if its schema is the one that
is picked by its name. Where another schema has a name with the same lower-case form, that one may be picked,
and then nothing is said of the table. -/
theorem foreignKeys_declared (reachable : Reachable (fun _ => True) session)
    (isOpen : session.isClosed = false) {schema table : String} {home : Schema} {held : Table}
    {declaration : TableDeclaration} {rows : List StoredRow}
    (found : session.database.schema? schema = some home) (there : home.find? table = some held)
    (body : held.body = .ordinary declaration rows)
    (complete : ∀ reference ∈ declaration.references, reference.Complete home) :
    let answer := (session.step (.lookup (.foreignKeys table (some schema)))).1
    ∃ picked ∈ session.database.schemas,
      Catalog.canonical? (Catalog.namesOf session.database) schema = some picked.name ∧
      lower picked.name = lower schema ∧
      (picked = home →
        match session.database.access home.name with
        | .error fault => answer = .error (.engine fault)
        | .ok _ => ∃ keys, answer = .ok (.keys keys) ∧
          List.Forall₂ (fun numbered key =>
            key.id = numbered.1 ∧ numbered.2.Declares home declaration key)
              declaration.numberedReferences keys) ∧
      (picked ≠ home → sameName picked.name schema = false ∧
        match session.database.access picked.name, Table.find? picked.tables table with
        | .error fault, _ => answer = .error (.engine fault)
        | .ok _, none => answer = .error (.diagnostic (.noSuchTableIn schema table))
        | .ok _, some other => ∀ keys, answer = .ok (.keys keys) → keys = other.foreignKeys picked) := by
  intro answer
  have regular := (reachable.has Database.Regular.outlasting).database
  obtain ⟨world, engine, answered⟩ : ∃ world : World Database, session.database = world.engine ∧
      answer = ((ForeignKey.declared table (some schema) : Attempt Database _).run world).1.map .keys :=
    ⟨_, rfl, step_foreignKeys isOpen table (some schema)⟩
  rw [engine] at regular found ⊢
  obtain ⟨picked, member, name, same⟩ := Catalog.exists_picked regular found
  have known := regular.schema?_eq member
  refine ⟨picked, member, name, same, ?_, ?_⟩
  · rintro rfl
    have there : Table.find? picked.tables table = some held := find?_tables there body
    cases ready : world.engine.access picked.name with
    | error fault =>
      dsimp only
      rw [answered, ForeignKey.declared_fault regular name known ready]
      rfl
    | ok _ =>
      have yields := ForeignKey.yields_declared regular name known ready there
      obtain ⟨after, ran, -⟩ := yields.run_eq (Table.certain_of_complete body complete)
      have sound := regular.declared picked member held (List.mem_of_find?_eq_some there) declaration rows body
      refine ⟨held.foreignKeys picked, ?_, Table.foreignKeys_declare body sound complete⟩
      rw [answered, ran]
      rfl
  · intro different
    constructor
    · rw [Bool.eq_false_iff]
      exact fun named => different (regular.home_eq found member named)
    · cases ready : world.engine.access picked.name with
      | error fault =>
        dsimp only
        rw [answered, ForeignKey.declared_fault regular name known ready]
        rfl
      | ok _ =>
        cases other : Table.find? picked.tables table with
        | none =>
          dsimp only
          rw [answered, ForeignKey.declared_missing regular name known ready other]
          rfl
        | some held =>
          intro keys given
          have yields := ForeignKey.yields_declared regular name known ready other
          rw [answered] at given
          cases ran : (ForeignKey.declared table (some schema) : Attempt Database _).run world with
          | mk result after =>
            rw [ran] at given
            cases result with
            | error failure => cases given
            | ok found =>
              cases given
              exact (yields.eq_of_ok ran).1

-- Two schemas whose names are the same in lower case: the first one is taken for the second.
theorem foreignKeys_declared_passed_over :
    let parent : TableDeclaration := { columns := [⟨"x", ""⟩], primaryKey := ["x"] }
    let child : TableDeclaration := { columns := [⟨"a", ""⟩], references := [{ columns := ["a"], table := "p" }] }
    let session := fresh.after [.build (.attach "é"), .build (.attach "É"),
      .build (.createTable "É" "p" parent), .build (.createTable "É" "t" child)]
    Reachable (fun _ => True) session ∧ session.isClosed = false ∧
    (∃ home rows, session.database.schema? "É" = some home ∧
      home.find? "t" = some ⟨"t", child.sql "t", .ordinary child rows⟩ ∧
      ∀ reference ∈ child.references, reference.Complete home) ∧
    (session.step (.lookup (.foreignKeys "t" (some "É")))).1 =
      .error (.diagnostic (.noSuchTableIn "É" "t")) := by
  intro parent child session
  have reachable : Reachable (fun _ => True) session := (Reachable.opened _).after fun _ _ => trivial
  obtain ⟨home, other, isOpen, found, there, parentThere, known, first, ready, missing, different⟩ :
      ∃ home other, session.isClosed = false ∧ session.database.schema? "É" = some home ∧
        home.find? "t" = some ⟨"t", child.sql "t", .ordinary child []⟩ ∧
        home.find? "p" = some ⟨"p", parent.sql "p", .ordinary parent []⟩ ∧
        session.database.schema? "é" = some other ∧
        Catalog.canonical? (Catalog.namesOf session.database) "É" = some "é" ∧
        session.database.access other.name = .ok () ∧ Table.find? other.tables "t" = none ∧
        other ≠ home := by
    refine ⟨session.database.attached.getLastD session.database.main,
      session.database.attached.headD session.database.main, ?_⟩
    decide +kernel
  clear_value session
  have complete : ∀ reference ∈ child.references, reference.Complete home := by
    intro reference member implicit
    rw [List.mem_singleton.1 member]
    exact ⟨_, parent, [], parentThere, rfl, rfl⟩
  refine ⟨reachable, isOpen, ⟨home, [], found, there, complete⟩, ?_⟩
  obtain ⟨picked, member, name, -, -, passed⟩ :=
    foreignKeys_declared reachable isOpen found there rfl complete
  have regular := (reachable.has Database.Regular.outlasting).database
  have named : picked.name = "é" := Option.some.inj (name.symm.trans first)
  have same : picked = other := regular.home_eq known member (by rw [named, sameName_refl])
  rw [same] at passed
  have answered := (passed different).2
  rw [ready, missing] at answered
  exact answered

/-- Of the columns of a reported key, in key order, as many are listed as it has destinations: all of them
where the destinations are named or where the destination has a primary key that is no shorter, and one at
most where the destination is missing or has no primary key. -/
theorem foreignKeys_origins (reachable : Reachable (fun _ => True) session) {table : String}
    {schema : Option String} {keys : List ForeignKey}
    (answered : (session.step (.lookup (.foreignKeys table schema))).1 = .ok (.keys keys)) :
    ∃ home ∈ session.database.schemas, ∃ held ∈ home.tables, sameName held.name table = true ∧
      keys = held.foreignKeys home ∧
      ∀ declaration rows, held.body = .ordinary declaration rows →
        List.Forall₂ (fun (numbered : Nat × Reference) (key : ForeignKey) =>
          key.id = numbered.1 ∧
          key.originColumns =
            (numbered.2.origins declaration).take (numbered.2.aims home).length ∧
          (key.originColumns = numbered.2.origins declaration ↔
            numbered.2.destinations = none →
              numbered.2.columns.length ≤ (home.keyOf numbered.2.table).length))
          declaration.numberedReferences keys := by
  have isOpen : session.isClosed = false := by
    by_contra closed
    rw [Bool.not_eq_false] at closed
    simp [Session.step, closed, Step.isClose] at answered
  rw [step_foreignKeys isOpen] at answered
  cases ran : (ForeignKey.declared table schema : Attempt Database _).run { engine := session.database } with
  | mk result after =>
    rw [ran] at answered
    cases result with
    | error failure => cases answered
    | ok found =>
      cases answered
      have regular := (reachable.has Database.Regular.outlasting).database
      obtain ⟨home, held, known, there, sound, rfl⟩ := ForeignKey.declared_ok regular ran
      refine ⟨home, List.mem_of_find?_eq_some known, held, List.mem_of_find?_eq_some there,
        by simpa using List.find?_some there, rfl, ?_⟩
      intro declaration rows body
      rw [Table.foreignKeys_eq body, List.forall₂_map_right_iff, List.forall₂_same]
      intro numbered member
      have listed := (sound declaration rows body).references _ (TableDeclaration.reference_mem member)
      exact ⟨rfl, Reference.key_originColumns numbered.1, listed.key_origins_iff numbered.1⟩

-- A key of two columns points at a primary key of one, and its second column is not listed.
theorem foreignKeys_origins_shorter :
    let parent : TableDeclaration := { columns := [⟨"x", ""⟩], primaryKey := ["x"] }
    let child : TableDeclaration :=
      { columns := [⟨"a", ""⟩, ⟨"b", ""⟩], references := [{ columns := ["a", "b"], table := "p" }] }
    let session := fresh.after
      [.build (.createTable "main" "p" parent), .build (.createTable "main" "t" child)]
    let key : ForeignKey := { id := 0, destinationTable := "p", mapping := [⟨"a", "x"⟩] }
    Reachable (fun _ => True) session ∧
    (session.step (.lookup (.foreignKeys "t" (some "main")))).1 = .ok (.keys [key]) ∧
    ∃ home ∈ session.database.schemas, ∃ held ∈ home.tables, sameName held.name "t" = true ∧
      [key] = held.foreignKeys home ∧ key.originColumns = ["a"] := by
  intro parent child session key
  have reachable : Reachable (fun _ => True) session := (Reachable.opened _).after fun _ _ => trivial
  obtain ⟨home, held, isOpen, picked, found, ready, there, body, parentThere, keys⟩ :
      ∃ home held, session.isClosed = false ∧
        Catalog.canonical? (Catalog.namesOf session.database) "main" = some home.name ∧
        session.database.schema? home.name = some home ∧ session.database.access home.name = .ok () ∧
        Table.find? home.tables "t" = some held ∧ held.body = .ordinary child [] ∧
        home.find? "p" = some ⟨"p", parent.sql "p", .ordinary parent []⟩ ∧
        held.foreignKeys home = [key] := by
    refine ⟨session.database.main, ⟨"t", child.sql "t", .ordinary child []⟩, ?_⟩
    decide +kernel
  clear_value session
  let world : World Database := { engine := session.database }
  have regular : world.engine.Regular := (reachable.has Database.Regular.outlasting).database
  have certain : held.Certain home := by
    intro declaration rows declared reference member implicit
    obtain ⟨rfl, rfl⟩ := Body.ordinary.inj (declared.symm.trans body)
    rw [List.mem_singleton.1 member]
    exact ⟨_, parent, [], parentThere, rfl⟩
  have answered : (session.step (.lookup (.foreignKeys "t" (some "main")))).1 = .ok (.keys [key]) := by
    obtain ⟨after, ran, -⟩ := (ForeignKey.yields_declared regular picked found ready there).run_eq certain
    rw [step_foreignKeys isOpen, ran, keys]
    rfl
  obtain ⟨home, member, held, listed, named, same, -⟩ := foreignKeys_origins reachable answered
  exact ⟨reachable, answered, home, member, held, listed, named, same, rfl⟩

end Session

end TextQuery
