import TextQuery.Proofs.ForeignKey.Describing
import TextQuery.Proofs.Session.Violations

set_option autoImplicit false

namespace TextQuery

open Engine Text

namespace ForeignKey

theorem not_ofLookup (message : String) (violation : Violation) :
    ¬Failure.OfLookup (.diagnostic (.violated message violation)) := by
  rintro (⟨fault, same⟩ | ⟨found, same, subject⟩)
  · cases same
  · cases same
    cases subject

end ForeignKey

namespace Session

variable {session : Session}

theorem step_ensureNone (isOpen : session.isClosed = false) (table schema : Option String) :
    (session.step (.lookup (.ensureNone table schema))).1 =
      ((ForeignKey.ensureNone table schema : Attempt Database _).run { engine := session.database }).1.map
        fun _ => .nothing := by
  rw [step_lookup isOpen, Lookup.run, Attempt.run_map]

theorem ensureNone_cases (reachable : Reachable (fun _ => True) session) (isOpen : session.isClosed = false)
    (table schema : Option String) :
    let listed := (session.step (.lookup (.violations table schema))).1
    let checked := (session.step (.lookup (.ensureNone table schema))).1
    (listed = .ok (.violations []) ∧ checked = .ok .nothing) ∨
    (∃ failure, failure.OfLookup ∧ listed = .error failure ∧ checked = .error failure) ∨
    ∃ first rest, listed = .ok (.violations (first :: rest)) ∧
      ((¬ForeignKey.PassesOver session.database table schema ∧
          ∃ home held declaration rows row numbered message,
            ForeignKey.Offends session.database table schema home held declaration rows row numbered first ∧
            ForeignKey.Describes home declaration rows row numbered first message ∧
            checked = .error (.diagnostic (.violated message first))) ∨
        (ForeignKey.PassesOver session.database table schema ∧
          ∃ name, ForeignKey.lookedAt? session.database table schema = some name ∧
            checked = .error (.diagnostic (.noSuchTableIn name first.originTable)))) := by
  let world : World Database := { engine := session.database }
  have orderly : world.engine.Orderly := (reachable.has Database.Orderly.outlasting).database
  intro listed checked
  have listedAs : listed = ((ForeignKey.check table schema : Attempt Database _).run world).1.map
      fun checked => .violations checked.2 := by
    refine (step_violations isOpen table schema).trans ?_
    rw [ForeignKey.violations_run]
    cases ((ForeignKey.check table schema : Attempt Database _).run { engine := session.database }).1 <;> rfl
  have checkedAs : checked = ((ForeignKey.ensureNone table schema : Attempt Database _).run world).1.map
      fun _ => .nothing := step_ensureNone isOpen table schema
  rw [listedAs, checkedAs]
  cases ran : (ForeignKey.check table schema : Attempt Database _).run world with
  | mk answer after =>
    cases answer with
    | error failure =>
      refine .inr (.inl ⟨failure, ForeignKey.failsAs_check table schema world failure after ran, rfl, ?_⟩)
      rw [ForeignKey.ensureNone_failed ran]
      rfl
    | ok found =>
      obtain ⟨name, _ | ⟨first, rest⟩⟩ := found
      · refine .inl ⟨rfl, ?_⟩
        rw [ForeignKey.ensureNone_nothing ran]
        rfl
      · refine .inr (.inr ⟨first, rest, rfl, ?_⟩)
        by_cases passed : ForeignKey.PassesOver session.database table schema
        · obtain ⟨home, rfl, looks, -⟩ := ForeignKey.check_ok orderly.toRegular ran
          refine .inr ⟨passed, home.name, looks.looked, ?_⟩
          rw [ForeignKey.ensureNone_passed ran orderly passed]
          rfl
        · obtain ⟨home, held, declaration, rows, row, numbered, message, offends, describes, failed⟩ :=
            ForeignKey.ensureNone_violated ran orderly passed
          refine .inl ⟨passed, home, held, declaration, rows, row, numbered, message, offends, describes, ?_⟩
          rw [failed]
          rfl

/-- A check comes to nothing where no violation is reported, it fails with the first one where some are, and it
fails as the report does where that one fails. Only a table that is named without a schema, and found in one whose
own name is taken for that of another, is said not to be there. -/
theorem ensureNone_settled (reachable : Reachable (fun _ => True) session)
    (isOpen : session.isClosed = false) (table schema : Option String) :
    let listed := (session.step (.lookup (.violations table schema))).1
    let checked := (session.step (.lookup (.ensureNone table schema))).1
    let passed := ForeignKey.PassesOver session.database table schema
    (checked = .ok .nothing ↔ listed = .ok (.violations [])) ∧
    (∀ violation, (∃ message, checked =
        .error (.diagnostic ⟨.foreignKey violation, message, some 19, some 787⟩)) ↔
      ¬passed ∧ ∃ rest, listed = .ok (.violations (violation :: rest))) ∧
    (∀ failure, checked = .error failure ∧ failure.OfLookup ↔ listed = .error failure ∨
      passed ∧ ∃ name violation rest,
        ForeignKey.lookedAt? session.database table schema = some name ∧
        listed = .ok (.violations (violation :: rest)) ∧
        failure = .diagnostic (.noSuchTableIn name violation.originTable)) := by
  intro listed checked passed
  rcases ensureNone_cases reachable isOpen table schema with
    ⟨found, done⟩ | ⟨failure, lookup, found, failed⟩ |
      ⟨first, rest, found, ⟨kept, -, -, -, -, -, -, message, -, -, failed⟩ | ⟨taken, name, looked, failed⟩⟩
  · simp [listed, checked, found, done]
  · rw [show listed = _ from found, show checked = _ from failed]
    refine ⟨by simp, fun violation => ⟨?_, ?_⟩, fun other => ⟨?_, ?_⟩⟩
    · rintro ⟨message, same⟩
      cases same
      exact absurd lookup (ForeignKey.not_ofLookup message violation)
    · rintro ⟨-, rest, same⟩
      cases same
    · rintro ⟨same, -⟩
      cases same
      exact .inl rfl
    · rintro (same | ⟨-, name, violation, rest, -, same, -⟩) <;> cases same
      exact ⟨rfl, lookup⟩
  · rw [show listed = _ from found, show checked = _ from failed]
    refine ⟨by simp, fun violation => ⟨?_, ?_⟩, fun failure => ⟨?_, ?_⟩⟩
    · rintro ⟨text, same⟩
      cases same
      exact ⟨kept, rest, rfl⟩
    · rintro ⟨-, others, same⟩
      cases same
      exact ⟨message, rfl⟩
    · rintro ⟨same, lookup⟩
      cases same
      exact absurd lookup (ForeignKey.not_ofLookup message first)
    · rintro (same | ⟨taken, -⟩)
      · cases same
      · exact absurd taken kept
  · rw [show listed = _ from found, show checked = _ from failed]
    refine ⟨by simp, fun violation => ⟨?_, ?_⟩, fun failure => ⟨?_, ?_⟩⟩
    · rintro ⟨text, same⟩
      cases same
    · rintro ⟨kept, -⟩
      exact absurd taken kept
    · rintro ⟨same, -⟩
      cases same
      exact .inr ⟨taken, name, first, rest, looked, rfl, rfl⟩
    · rintro (same | ⟨-, other, violation, others, known, same, rfl⟩) <;> cases same
      cases looked.symm.trans known
      exact ⟨rfl, .inr ⟨_, rfl, rfl⟩⟩

-- The table of a bare name is found in a schema whose own name is taken for that of an earlier one, and what is
-- wrong with it is not said.
theorem ensureNone_settled_passed_over :
    let parent : TableDeclaration := { columns := [⟨"x", ""⟩], primaryKey := ["x"] }
    let child : TableDeclaration := { columns := [⟨"a", ""⟩], references := [{ columns := ["a"], table := "p" }] }
    let session := fresh.after [.build (.attach "é"), .build (.attach "É"),
      .build (.createTable "É" "p" parent), .build (.createTable "É" "t" child), .build (.insert "É" "t" [[.int 1]])]
    Reachable (fun _ => True) session ∧ session.isClosed = false ∧
    (session.step (.lookup (.violations (some "t") none))).1 = .ok (.violations [⟨"t", some 1, "p", 0⟩]) ∧
    (session.step (.lookup (.ensureNone (some "t") none))).1 =
      .error (.diagnostic (.noSuchTableIn "É" "t")) := by
  intro parent child session
  have reachable : Reachable (fun _ => True) session := (Reachable.opened _).after fun _ _ => trivial
  obtain ⟨isOpen, listed, looked, taken⟩ : session.isClosed = false ∧
      (session.step (.lookup (.violations (some "t") none))).1 = .ok (.violations [⟨"t", some 1, "p", 0⟩]) ∧
      ForeignKey.lookedAt? session.database (some "t") none = some "É" ∧
      Catalog.canonical? (Catalog.namesOf session.database) "É" ≠ some "É" := by decide +kernel
  refine ⟨reachable, isOpen, listed, ?_⟩
  obtain ⟨-, -, failed⟩ := ensureNone_settled reachable isOpen (some "t") none
  exact ((failed _).2 (.inr ⟨⟨_, looked, taken⟩, _, _, _, looked, listed, rfl⟩)).1

/-- The message of a check that fails with a violation tells its key and shows the row of its number, all columns
in the order of their declaration, unless there are no numbers. Where a column has the name of the numbers but
does not hold them, the row is looked for in that column instead, and another row may be shown, or none. -/
theorem ensureNone_message (reachable : Reachable (fun _ => True) session)
    (isOpen : session.isClosed = false) {table schema : Option String} {first : Violation}
    {rest : List Violation}
    (listed : (session.step (.lookup (.violations table schema))).1 = .ok (.violations (first :: rest)))
    (kept : ¬ForeignKey.PassesOver session.database table schema) :
    ∃ home held declaration rows row numbered message,
      ForeignKey.Offends session.database table schema home held declaration rows row numbered first ∧
      (session.step (.lookup (.ensureNone table schema))).1 =
        .error (.diagnostic (.violated message first)) ∧
      let begins := ForeignKey.beginning first (numbered.2.key home declaration numbered.1)
      (first.originRowid = none → message = begins) ∧
      ∀ rowid, first.originRowid = some rowid →
        rows.filter (fun other => other.rowid == rowid) = [row] ∧
        (declaration.named row).unzip = (declaration.columns.map Column.name, row.cells) ∧
        (declaration.TellsRowid → message = begins ++ (", in [" ++ (declaration.named row).describe ++ "]")) ∧
        ((∃ other ∈ rows, declaration.selects rowid other = true ∧
            message = begins ++ (", in [" ++ (declaration.named other).describe ++ "]")) ∨
          (∀ other ∈ rows, declaration.selects rowid other = false) ∧ message = begins) := by
  rcases ensureNone_cases reachable isOpen table schema with
    ⟨found, -⟩ | ⟨failure, -, found, -⟩ | ⟨other, others, found, violated | ⟨taken, -⟩⟩
  · cases found.symm.trans listed
  · cases found.symm.trans listed
  · cases found.symm.trans listed
    obtain ⟨-, home, held, declaration, rows, row, numbered, message, offends, describes, failed⟩ := violated
    exact ⟨home, held, declaration, rows, row, numbered, message, offends, failed, offends.described describes⟩
  · exact absurd taken kept

-- A column of the name of the numbers: the row is looked for in it, and none is found.
theorem ensureNone_message_hidden :
    let declaration : TableDeclaration :=
      { columns := [⟨"rowid", ""⟩, ⟨"a", ""⟩], references := [{ columns := ["a"], table := "p" }] }
    let session := fresh.after
      [.build (.createTable "main" "t" declaration), .build (.insert "main" "t" [[.int 7, .int 1]])]
    let violation : Violation := ⟨"t", some 1, "p", 0⟩
    Reachable (fun _ => True) session ∧ session.isClosed = false ∧
    (session.step (.lookup (.violations (some "t") none))).1 = .ok (.violations [violation]) ∧
    ¬ForeignKey.PassesOver session.database (some "t") none ∧
    (session.step (.lookup (.ensureNone (some "t") none))).1 =
      .error (.diagnostic (.violated "FOREIGN KEY constraint violation - from t(a) to p(rowid)" violation)) := by
  intro declaration session violation
  have reachable : Reachable (fun _ => True) session := (Reachable.opened _).after fun _ _ => trivial
  let held : Table := ⟨"t", declaration.sql "t", .ordinary declaration [⟨1, [.int 7, .int 1]⟩]⟩
  obtain ⟨isOpen, listed, looked, known, there⟩ : session.isClosed = false ∧
      (session.step (.lookup (.violations (some "t") none))).1 = .ok (.violations [violation]) ∧
      ForeignKey.lookedAt? session.database (some "t") none = some "main" ∧
      session.database.schema? "main" = some session.database.main ∧
      Table.find? session.database.main.tables "t" = some held := by decide +kernel
  have kept : ¬ForeignKey.PassesOver session.database (some "t") none := by
    rintro ⟨name, same, taken⟩
    cases looked.symm.trans same
    exact taken (ForeignKey.canonical?_main _)
  refine ⟨reachable, isOpen, listed, kept, ?_⟩
  obtain ⟨home, other, written, rows, row, numbered, message, offends, failed, -, shown⟩ :=
    ensureNone_message reachable isOpen listed kept
  rw [failed]
  have main : home = session.database.main := by
    have named : home.name = "main" := Option.some.inj (offends.looks.looked.symm.trans looked)
    exact Option.some.inj ((named ▸ offends.looks.found).symm.trans known)
  have same : other = held := by
    have named : other.name = "t" := (congrArg Violation.originTable offends.told).symm
    have found := offends.there
    rw [main, named, there] at found
    exact (Option.some.inj found).symm
  have body := offends.body
  rw [same] at body
  obtain ⟨rfl, rfl⟩ := Body.ordinary.inj body
  have key : numbered = (0, { columns := ["a"], table := "p" }) := List.mem_singleton.1 offends.listed
  have hidden : declaration.selects 1 ⟨1, [.int 7, .int 1]⟩ = false := by decide
  obtain ⟨-, -, -, ⟨other, member, selected, -⟩ | ⟨-, said⟩⟩ := shown 1 rfl
  · rw [List.mem_singleton.1 member, hidden] at selected
    cases selected
  · have begins : ForeignKey.beginning violation (Reference.key session.database.main declaration 0
        { columns := ["a"], table := "p" }) =
        "FOREIGN KEY constraint violation - from t(a) to p(rowid)" := by decide +kernel
    rw [said, main, key, begins]

end Session

end TextQuery
