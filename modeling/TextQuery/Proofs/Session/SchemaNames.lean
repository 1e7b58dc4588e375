import TextQuery.Proofs.Session.Checks

set_option autoImplicit false

namespace TextQuery

open Engine Text

namespace Catalog

theorem namesOf_nodup {database : Database} (regular : database.Regular) : (namesOf database).Nodup := by
  have standingNames : standing.Nodup ∧ ∀ name ∈ standing, lower name = name := by decide
  have apart : (database.schemas.map Schema.name).Nodup := by
    refine List.pairwise_map.2 (regular.apart.imp ?_)
    intro one other different same
    rw [same, sameName_refl] at different
    cases different
  refine List.nodup_append.2 ⟨standingNames.1, apart.filter _, ?_⟩
  rintro name always other listed rfl
  have attached := (List.mem_filter.1 listed).2
  rw [standingNames.2 name always] at attached
  simp [always] at attached

theorem canonical?_split {before later : List String} {name : String}
    (distinct : (before ++ name :: later).Nodup) :
    ∃ picked, canonical? (before ++ name :: later) name = some picked ∧ lower picked = lower name ∧
      (picked = name ↔ ∀ other ∈ before, lower other ≠ lower name) := by
  unfold canonical?
  rw [List.find?_append, List.find?_cons_of_pos (by simp)]
  cases earlier : before.find? fun other => lower other == lower name with
  | none =>
    refine ⟨name, rfl, rfl, iff_of_true rfl fun other member => ?_⟩
    simpa using List.find?_eq_none.1 earlier other member
  | some picked =>
    have same : lower picked = lower name := by simpa using List.find?_some earlier
    have member := List.mem_of_find?_eq_some earlier
    have other : picked ≠ name := (List.nodup_append.1 distinct).2.2 picked member name List.mem_cons_self
    exact ⟨picked, rfl, same, iff_of_false other fun apart => apart picked member same⟩

theorem exists_canonical? {names : List String} {name : String} (listed : name ∈ names) :
    ∃ picked, canonical? names name = some picked :=
  Option.isSome_iff_exists.1 (List.find?_isSome.2 ⟨name, listed, beq_self_eq_true _⟩)

theorem canonical?_eq_iff {names : List String} {one other : String} (listed : one ∈ names) :
    canonical? names one = canonical? names other ↔ lower one = lower other := by
  constructor
  · intro same
    obtain ⟨picked, known⟩ := exists_canonical? listed
    have here : lower picked = lower one := by simpa using List.find?_some known
    have there : lower picked = lower other := by simpa using List.find?_some (same.symm.trans known)
    exact here.symm.trans there
  · intro same
    unfold canonical?
    rw [same]

end Catalog

-- Whether a table is taken is seen from its declaration, which views do not have.
theorem Validator.taken_held {world : World Database} {home : Schema} {table : String} {held : Table}
    (regular : world.engine.Regular) (found : world.engine.schema? home.name = some home)
    (ready : world.engine.access home.name = .ok ()) (there : Table.find? home.tables table = some held) :
    ((do
      if Declaration.isFullText (← Catalog.tableSql table home.name) then return .located home.name table
      else Attempt.fail (.notFullText home.name table) : Attempt Database Target).run world).1 =
      if !held.isView && Declaration.isFullText held.sql then .ok (.located home.name table)
      else .error (.diagnostic (.notFullText home.name table)) := by
  obtain ⟨later, told, -⟩ := Change.answer_tableSql regular found table
  rw [ready, there] at told
  have asked : (Catalog.tableSql table home.name : Attempt Database String).run world =
      (.ok (if held.isView then "" else held.sql), { world with engine := later }) := by
    have told : Engine.answer (.tableSql home.name table) world.engine = _ := told
    unfold Catalog.tableSql
    rw [Attempt.run_map, Attempt.run_ask_of told, Option.filter_some]
    cases held.isView <;> rfl
  rw [Attempt.run_bind_ok _ asked]
  cases held.isView with
  | true => rfl
  | false =>
    simp only [Bool.false_eq_true, if_false, Bool.not_false, Bool.true_and]
    cases Declaration.isFullText held.sql <;> rfl

theorem Validator.tells_findTarget {world : World Database} {schema : String} {home : Schema}
    (regular : world.engine.Regular)
    (picked : Catalog.canonical? (Catalog.namesOf world.engine) schema = some home.name)
    (found : world.engine.schema? home.name = some home) (table : String) :
    Catalog.TellsOf world.engine schema home table
      (fun held answer => answer = if !held.isView && Declaration.isFullText held.sql
        then .ok (.located home.name table) else .error (.diagnostic (.notFullText home.name table)))
      ((findTarget { probe := .table table (some schema) }).run world).1 := by
  refine Catalog.tellsOf_resolve regular picked found fun held after there ready sees => ?_
  exact taken_held sees.regular ((sees.schema? home.name).trans found) (sees.access ready) there

namespace Session

variable {session : Session} {schema : String} {picked : Schema}

/-- Whatever is asked by the name of a schema is answered about the schema that it stands for. -/
structure Regards (session : Session) (schema : String) (picked : Schema) : Prop where
  ensured : (session.step (.lookup (.ensureSchema schema))).1 = .ok (.text picked.name)
  resolved : ∀ table, Catalog.TellsOf session.database schema picked table
    (fun _ answer => answer = .ok (.text picked.name))
    (session.step (.lookup (.resolve table (some schema)))).1
  keys : ∀ table, Catalog.TellsOf session.database schema picked table
    (fun held answer => answer = .ok (.keys (held.foreignKeys picked)) ∨
      ¬held.Settled picked ∧ ∃ failure, answer = .error failure)
    (session.step (.lookup (.foreignKeys table (some schema)))).1
  part : ∀ table, Catalog.TellsOf session.database schema picked table
    (fun held answer => answer = ((held.violations picked.find?).mapError .engine).map .violations)
    (session.step (.lookup (.violations (some table) (some schema)))).1
  whole : (session.step (.lookup (.violations none (some schema)))).1 =
    ((session.database.reading >>= fun _ =>
      session.database.foreignKeyCheck picked.name none).mapError .engine).map .violations
  checked : ∀ table,
    let listed := (session.step (.lookup (.violations table (some schema)))).1
    let checked := (session.step (.lookup (.ensureNone table (some schema)))).1
    (listed = .ok (.violations []) → checked = .ok .nothing) ∧
    (∀ failure, listed = .error failure → checked = .error failure) ∧
    ∀ first rest, listed = .ok (.violations (first :: rest)) → ∃ held declaration rows row numbered message,
      ForeignKey.Offends session.database table (some schema) picked held declaration rows row numbered
        first ∧
      ForeignKey.Describes picked declaration rows row numbered first message ∧
      checked = .error (.diagnostic (.violated message first))
  probed : ∀ table, Catalog.TellsOf session.database schema picked table
    (fun held answer => answer = if !held.isView && Declaration.isFullText held.sql
      then .ok (.located picked.name table) else .error (.diagnostic (.notFullText picked.name table)))
    ((Validator.findTarget { probe := .table table (some schema) }).run { engine := session.database }).1

theorem step_ensureSchema (isOpen : session.isClosed = false) (regular : session.database.Regular)
    {name : String} (picked : Catalog.canonical? (Catalog.namesOf session.database) schema = some name) :
    (session.step (.lookup (.ensureSchema schema))).1 = .ok (.text name) := by
  have ensured : (Catalog.ensureSchema schema : Attempt Database _).run { engine := session.database } = _ :=
    Catalog.ensureSchema_run regular schema
  rw [picked] at ensured
  rw [step_lookup isOpen, Lookup.run, Attempt.run_map, ensured]
  rfl

theorem regards_picked (reachable : Reachable (fun _ => True) session) (isOpen : session.isClosed = false)
    (member : picked ∈ session.database.schemas)
    (name : Catalog.canonical? (Catalog.namesOf session.database) schema = some picked.name) :
    session.Regards schema picked := by
  let world : World Database := { engine := session.database }
  have regular : world.engine.Regular := (reachable.has Database.Regular.outlasting).database
  have name : Catalog.canonical? (Catalog.namesOf world.engine) schema = some picked.name := name
  have known : world.engine.schema? picked.name = some picked := regular.schema?_eq member
  refine ⟨step_ensureSchema isOpen regular name, fun table => ?_, fun table => ?_,
    violations_part regular isOpen name known, ?_, fun table => ?_,
    fun table => Validator.tells_findTarget regular name known table⟩
  · rw [step_lookup isOpen]
    exact Catalog.tellsOf_resolve regular name known fun _ _ _ _ _ => rfl
  · rw [step_foreignKeys isOpen]
    refine (ForeignKey.tells_declared regular name known).map ?_
    rintro held answer (rfl | ⟨unsettled, failure, rfl⟩)
    · exact .inl rfl
    · exact .inr ⟨unsettled, failure, rfl⟩
  · rw [step_violations isOpen, ForeignKey.violations_schema world regular name known]
  · intro listed checked
    rcases ensureNone_cases reachable isOpen table (some schema) with
      ⟨found, done⟩ | ⟨failure, -, found, failed⟩ | ⟨first, rest, found, violated | ⟨taken, -⟩⟩
    · rw [show listed = _ from found, show checked = _ from done]
      exact ⟨fun _ => rfl, nofun, nofun⟩
    · rw [show listed = _ from found, show checked = _ from failed]
      exact ⟨nofun, fun _ => id, nofun⟩
    · rw [show listed = _ from found]
      refine ⟨nofun, nofun, ?_⟩
      rintro _ _ ⟨⟩
      obtain ⟨-, home, held, declaration, rows, row, numbered, message, offends, describes, failed⟩ := violated
      have same : home = picked := by
        have named : home.name = picked.name := Option.some.inj (offends.looks.looked.symm.trans name)
        have there := offends.looks.found
        rw [named, show session.database.schema? picked.name = some picked from known] at there
        exact (Option.some.inj there).symm
      subst same
      exact ⟨held, declaration, rows, row, numbered, message, offends, describes, failed⟩
    · cases taken.bare.1

/-- Each name that is listed stands for the first one with the same lower-case form, and whatever is asked by the
name is answered about the schema of that one. A name stands for its own schema just where no earlier one has the
same lower-case form. -/
theorem schema_named (reachable : Reachable (fun _ => True) session) (isOpen : session.isClosed = false) :
    let names := Catalog.namesOf session.database
    (session.step (.lookup .schemaNames)).1 = .ok (.names names) ∧ names.Nodup ∧
    (∀ before name later, names = before ++ name :: later → ∃ picked ∈ session.database.schemas,
      session.Regards name picked ∧ lower picked.name = lower name ∧
      (picked.name = name ↔ ∀ other ∈ before, lower other ≠ lower name)) ∧
    ∀ one ∈ names, ∀ other ∈ names,
      (session.step (.lookup (.ensureSchema one))).1 = (session.step (.lookup (.ensureSchema other))).1 ↔
        lower one = lower other := by
  intro names
  have regular := (reachable.has Database.Regular.outlasting).database
  have distinct : names.Nodup := Catalog.namesOf_nodup regular
  have schemaNames : (Catalog.schemaNames : Attempt Database _).run { engine := session.database } = _ :=
    Catalog.schemaNames_run regular
  refine ⟨?_, distinct, ?_, ?_⟩
  · rw [step_lookup isOpen, Lookup.run, Attempt.run_map, schemaNames]
    rfl
  · intro before name later split
    obtain ⟨first, picked, same, alone⟩ := Catalog.canonical?_split (split ▸ distinct)
    rw [← split] at picked
    obtain ⟨home, member, rfl⟩ := Catalog.mem_namesOf regular (List.mem_of_find?_eq_some picked)
    exact ⟨home, member, regards_picked reachable isOpen member picked, same, alone⟩
  · intro one first other second
    obtain ⟨here, picked⟩ := Catalog.exists_canonical? first
    obtain ⟨there, taken⟩ := Catalog.exists_canonical? second
    rw [step_ensureSchema isOpen regular picked, step_ensureSchema isOpen regular taken,
      ← Catalog.canonical?_eq_iff first, picked, taken]
    simp

-- Of two names with the same lower-case form, the second one is taken for the first.
theorem schema_named_alike :
    let session := fresh.after [.build (.attach "é"), .build (.attach "É")]
    Reachable (fun _ => True) session ∧ session.isClosed = false ∧
    (session.step (.lookup .schemaNames)).1 = .ok (.names ["temp", "main", "é", "É"]) ∧
    (session.step (.lookup (.ensureSchema "É"))).1 = .ok (.text "é") := by
  intro session
  have reachable : Reachable (fun _ => True) session := (Reachable.opened _).after fun _ _ => trivial
  obtain ⟨isOpen, names⟩ : session.isClosed = false ∧
      Catalog.namesOf session.database = ["temp", "main", "é", "É"] := by decide
  have apart : (∀ other ∈ ["temp", "main"], lower other ≠ lower "é") ∧ lower "É" = lower "é" := by decide
  obtain ⟨listed, -, stands, alike⟩ := schema_named reachable isOpen
  rw [names] at listed stands alike
  refine ⟨reachable, isOpen, listed, ?_⟩
  obtain ⟨picked, -, regards, -, own⟩ := stands ["temp", "main"] "é" ["É"] rfl
  have same := (alike "É" (by simp) "é" (by simp)).2 apart.2
  rw [same, regards.ensured, own.2 apart.1]

end Session

end TextQuery
