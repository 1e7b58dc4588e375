import TextQuery.Proofs.ForeignKey.Checking

set_option autoImplicit false

namespace TextQuery.ForeignKey

open Engine Engine.Change Text Attempt

variable {world : World Database}

def beginning (violation : Violation) (key : ForeignKey) : String :=
  "FOREIGN KEY constraint violation" ++ describeKey violation key

/-- What the message of a violation says: its key and, where rows have numbers, the row that is found by the
number. -/
structure Describes (home : Schema) (declaration : TableDeclaration) (rows : List StoredRow) (row : StoredRow)
    (numbered : Nat × Reference) (violation : Violation) (message : String) : Prop where
  bare : declaration.withoutRowid = true →
    message = beginning violation (numbered.2.key home declaration numbered.1)
  showing : declaration.withoutRowid = false → ∃ found : List StoredRow,
    found.Perm (rows.filter (declaration.selects row.rowid)) ∧
    message = beginning violation (numbered.2.key home declaration numbered.1) ++
      describeRow (found.head?.map declaration.named)

theorem describe_run {home : Schema} (shows : world.engine.Shows home)
    (picked : Catalog.canonical? (Catalog.namesOf world.engine) home.name = some home.name) {held : Table}
    (there : Table.find? home.tables held.name = some held) (stored : held.Stored)
    {declaration : TableDeclaration} {rows : List StoredRow} {row : StoredRow} {numbered : Nat × Reference}
    {violation : Violation} (violates : held.Violates home.find? declaration rows row numbered violation) :
    ∃ message after, (describe violation home.name : Attempt Database String).run world = (.ok message, after) ∧
      Describes home declaration rows row numbered violation message := by
  have regular := shows.regular
  have body := violates.body
  obtain ⟨middle, keys, sees⟩ := (yields_settled regular picked shows.found shows.ready there).run_eq
    (violates.settled stored)
  have key : (held.foreignKeys home).find? (fun key => key.id == (numbered.1 : Int)) =
      some (numbered.2.key home declaration numbered.1) := Table.find?_foreignKeys body violates.listed
  have later := shows.later sees
  have sound := shows.sound (find?_of_tables there) declaration rows body
  have told := violates.told
  have origin : violation.originTable = held.name := by rw [told]
  have number : violation.foreignKeyId = (numbered.1 : Int) := by rw [told]
  unfold describe
  rw [origin, run_bind_ok _ keys, number, key]
  dsimp only
  cases numbers : declaration.withoutRowid with
  | true =>
    have rowid : violation.originRowid = none := by rw [told, numbers, if_pos rfl]
    rw [rowid]
    refine ⟨_, middle, rfl, ⟨fun _ => String.append_empty, fun showing => ?_⟩⟩
    cases numbers.symm.trans showing
  | false =>
    have rowid : violation.originRowid = some row.rowid := by rw [told, numbers, if_neg nofun]
    rw [rowid]
    obtain ⟨found, after, answered, perm, follows⟩ := answer_selectRow later.regular later.found later.ready
      (find?_of_tables there) body sound (stored.rows declaration rows body) numbers
      ((stored.rows declaration rows body).fits row violates.stands)
    have asked : (ask (.selectRow home.name held.name row.rowid) : Attempt Database (Option Row)).run middle =
        (.ok (found.head?.map declaration.named), { middle with engine := after }) := by
      have engine : Engine.answer (.selectRow home.name held.name row.rowid) middle.engine =
          (.ok (found.head?.map declaration.named), after) := answered
      rw [run_ask_of engine]
      rfl
    refine ⟨_, _, run_bind_ok _ asked, ⟨fun bare => ?_, fun _ => ⟨found, perm, rfl⟩⟩⟩
    cases numbers.symm.trans bare

section

variable {database : Database} {table schema : Option String} {home : Schema} {held : Table}
  {declaration : TableDeclaration} {rows : List StoredRow} {row other : StoredRow}
  {numbered : Nat × Reference} {violation : Violation} {message : String}
  (offends : Offends database table schema home held declaration rows row numbered violation)
include offends

theorem Offends.width (member : other ∈ rows) : other.cells.length = declaration.columns.length :=
  (offends.stored.rows declaration rows offends.body).width other member

theorem Offends.unzip_named (member : other ∈ rows) :
    (declaration.named other).unzip = (declaration.columns.map Column.name, other.cells) :=
  List.unzip_zip (by rw [List.length_map, offends.width member])

-- A table with keys has columns, so its rows are shown.
theorem Offends.shown (member : other ∈ rows) :
    describeRow (some (declaration.named other)) = ", in [" ++ (declaration.named other).describe ++ "]" := by
  have columns : declaration.columns ≠ [] := by
    have listed := offends.sound.references _ (TableDeclaration.reference_mem offends.listed)
    obtain ⟨name, inside⟩ := List.exists_mem_of_ne_nil _ listed.columns
    obtain ⟨column, found⟩ := Option.isSome_iff_exists.1 (listed.declared name inside)
    exact List.ne_nil_of_mem (List.mem_of_find?_eq_some found)
  have width := offends.width member
  unfold TableDeclaration.named
  obtain ⟨rowid, cells⟩ := other
  dsimp only at width ⊢
  cases known : declaration.columns with
  | nil => exact absurd known columns
  | cons first others =>
    cases cells with
    | nil =>
      rw [known] at width
      cases width
    | cons cell cells => rfl

theorem Offends.described (describes : Describes home declaration rows row numbered violation message) :
    let begins := beginning violation (numbered.2.key home declaration numbered.1)
    (violation.originRowid = none → message = begins) ∧
    ∀ rowid, violation.originRowid = some rowid →
      rows.filter (fun other => other.rowid == rowid) = [row] ∧
      (declaration.named row).unzip = (declaration.columns.map Column.name, row.cells) ∧
      (declaration.TellsRowid → message = begins ++ (", in [" ++ (declaration.named row).describe ++ "]")) ∧
      ((∃ other ∈ rows, declaration.selects rowid other = true ∧
          message = begins ++ (", in [" ++ (declaration.named other).describe ++ "]")) ∨
        (∀ other ∈ rows, declaration.selects rowid other = false) ∧ message = begins) := by
  intro begins
  have stored := offends.stored.rows declaration rows offends.body
  have told := offends.told
  cases numbers : declaration.withoutRowid with
  | true =>
    rw [numbers] at told
    cases told
    exact ⟨fun _ => describes.bare numbers, nofun⟩
  | false =>
    rw [numbers] at told
    cases told
    refine ⟨nofun, ?_⟩
    rintro rowid ⟨⟩
    obtain ⟨found, perm, said⟩ := describes.showing numbers
    have alone := TableDeclaration.filter_rowid (stored.ordered numbers) offends.stands
    refine ⟨alone, offends.unzip_named offends.stands, fun tells => ?_, ?_⟩
    · have same : rows.filter (declaration.selects row.rowid) = [row] := by
        rw [← alone]
        exact List.filter_congr fun other member => TableDeclaration.selects_eq tells stored member
      rw [same, List.perm_singleton] at perm
      rw [said, perm]
      exact congrArg _ (offends.shown offends.stands)
    · cases found with
      | nil =>
        refine .inr ⟨fun other member => ?_, said.trans String.append_empty⟩
        rw [List.nil_perm] at perm
        exact Bool.eq_false_iff.2 (List.filter_eq_nil_iff.1 perm other member)
      | cons other others =>
        obtain ⟨member, selected⟩ := List.mem_filter.1 (perm.subset List.mem_cons_self)
        exact .inl ⟨other, member, selected, said.trans (congrArg _ (offends.shown member))⟩

end

section

variable {table schema : Option String} {name : String} {after : World Database}

theorem ensureNone_nothing
    (done : (check table schema : Attempt Database _).run world = (.ok (name, []), after)) :
    (ensureNone table schema : Attempt Database Unit).run world = (.ok (), after) := run_bind_ok _ done

theorem ensureNone_failed {failure : Failure}
    (failed : (check table schema : Attempt Database _).run world = (.error failure, after)) :
    (ensureNone table schema : Attempt Database Unit).run world = (.error failure, after) :=
  run_bind_error _ failed

variable {first : Violation} {rest : List Violation}
  (done : (check table schema : Attempt Database _).run world = (.ok (name, first :: rest), after))
include done

theorem ensureNone_first : ((ensureNone table schema : Attempt Database Unit).run world).1 =
    ((describe first name : Attempt Database String).run after).1 >>= fun message =>
      .error (.diagnostic (.violated message first)) := by
  have ran : (ensureNone table schema : Attempt Database Unit).run world =
      (describe first name >>= fun message => do
        Attempt.debug ("Foreign key check failed: " ++ message)
        Attempt.fail (.violated message first)).run after := run_bind_ok _ done
  rw [ran]
  cases described : (describe first name : Attempt Database String).run after with
  | mk answer last =>
    cases answer with
    | ok message => exact congrArg Prod.fst (run_bind_ok _ described)
    | error failure => exact congrArg Prod.fst (run_bind_error _ described)

variable (orderly : world.engine.Orderly)
include orderly

theorem ensureNone_violated (kept : ¬PassesOver world.engine table schema) :
    ∃ home held declaration rows row numbered message,
      Offends world.engine table schema home held declaration rows row numbered first ∧
      Describes home declaration rows row numbered first message ∧
      ((ensureNone table schema : Attempt Database Unit).run world).1 =
        .error (.diagnostic (.violated message first)) := by
  obtain ⟨home, held, declaration, rows, row, numbered, rfl, offends, shows, sees⟩ :=
    offends_of_check orderly done
  have picked : Catalog.canonical? (Catalog.namesOf after.engine) home.name = some home.name := by
    rw [Catalog.namesOf_follows sees.toFollows]
    by_contra taken
    exact kept ⟨home.name, offends.looks.looked, taken⟩
  obtain ⟨message, last, described, describes⟩ :=
    describe_run shows picked offends.there offends.stored offends.toViolates
  refine ⟨home, held, declaration, rows, row, numbered, message, offends, describes, ?_⟩
  rw [ensureNone_first done, described]
  rfl

theorem ensureNone_passed (passed : PassesOver world.engine table schema) :
    ((ensureNone table schema : Attempt Database Unit).run world).1 =
      .error (.diagnostic (.noSuchTableIn name first.originTable)) := by
  obtain ⟨home, held, declaration, rows, row, numbered, rfl, offends, shows, sees⟩ :=
    offends_of_check orderly done
  obtain ⟨table, picked, rfl, taken, other, found, ready, missing⟩ := offends.looks.passed passed
  have named : other.name = picked := by
    obtain ⟨known, same, there⟩ :=
      Catalog.schema?_of_namesOf orderly.toRegular (List.mem_of_find?_eq_some taken)
    cases found.symm.trans there
    exact same
  subst named
  have lost : Table.find? other.tables first.originTable = none := by
    rw [offends.told, Table.find?_congr (offends.named table rfl), missing]
  rw [← Catalog.namesOf_follows sees.toFollows] at taken
  have failed := declared_missing shows.regular taken ((sees.schema? _).trans found) (sees.access ready) lost
  obtain ⟨last, keys⟩ : ∃ last, (declared first.originTable (some home.name) : Attempt Database _).run after =
      (.error (.diagnostic (.noSuchTableIn home.name first.originTable)), last) := ⟨_, Prod.ext failed rfl⟩
  have described : (describe first home.name : Attempt Database String).run after = _ := run_bind_error _ keys
  rw [ensureNone_first done, described]
  rfl

end

end TextQuery.ForeignKey
