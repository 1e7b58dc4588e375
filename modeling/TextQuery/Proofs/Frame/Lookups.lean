import TextQuery.Proofs.Frame.Answering

set_option autoImplicit false

namespace TextQuery

open Engine Engine.Change Engine.Database Attempt Text

variable {base : Database} {veiled : String → Prop}

def Engine.Database.Both (base : Database) (veiled : String → Prop) (one other : Database) : Prop :=
  base.Resembles veiled one ∧ base.Resembles veiled other

theorem Engine.Database.Resembles.refl (regular : base.Regular) : base.Resembles veiled base where
  grown := ⟨[], .refl base, fun _ _ _ => rfl⟩
  condition := rfl
  reading := rfl
  opens _ _ := rfl
  regular := regular

-- What is told of all of them is told of the one that they come from.
theorem agreed_of_told {α : Type} {statement : Statement α} {Q : α → Prop} (regular : base.Regular)
    (told : Told (base.Resembles veiled) (Change.answer statement))
    (holds : ∀ value after, Change.answer statement base = (.ok value, after) → Q value) :
    Agreed (base.Both veiled) statement Q := by
  obtain ⟨result, same⟩ := told
  rintro one other ⟨resembles, resembles'⟩
  obtain ⟨answer, after⟩ := same one resembles
  obtain ⟨answer', after'⟩ := same other resembles'
  refine ⟨answer.trans answer'.symm, fun value given => ?_, after, after'⟩
  refine holds value _ (Prod.ext ?_ rfl)
  exact ((same base (.refl regular)).1.trans answer.symm).trans given

-- Foreign keys are listed of a table that is there.
theorem listed_of_answer {schema table : String} {columns : List KeyColumn} {after : Database}
    (answered : Change.answer (.foreignKeyList schema table) base = (.ok columns, after)) :
    ∀ column ∈ columns, ∃ home held, base.schema? schema = some home ∧ home.find? table = some held ∧
      column ∈ held.keyColumns := by
  obtain ⟨ready, follows, responds⟩ := answer_responds answered
  have found : ready.foreignKeyList schema table = .ok columns := congrArg Prod.fst responds
  unfold Database.foreignKeyList Database.described at found
  obtain ⟨home, looked, found⟩ := exists_of_bind_eq_ok found
  rw [schemaOr_eq_ok, follows.schema?] at looked
  intro column member
  cases there : home.find? table with
  | none =>
    rw [there] at found
    cases found
    cases member
  | some held =>
    refine ⟨home, held, looked, there, ?_⟩
    rw [there, Option.map_some] at found
    cases keys : held.keyColumns with
    | nil =>
      rw [keys] at found
      cases found
      cases member
    | cons first rest =>
      rw [keys] at found
      obtain ⟨_, -, found⟩ := exists_of_bind_eq_ok found
      cases found
      exact member

-- Only tables with rows have violations, which are told by the name of the table.
theorem Engine.Table.ordinary_of_violations {held : Table} {find : String → Option Table}
    {found : List Violation} (violated : held.violations find = .ok found) :
    ∀ violation ∈ found, violation.originTable = held.name ∧
      ∃ declaration rows, held.body = .ordinary declaration rows := by
  unfold violations at violated
  cases body : held.body with
  | ordinary declaration rows =>
    simp only [body] at violated
    obtain ⟨keys, -, violated⟩ := exists_of_bind_eq_ok violated
    cases violated
    intro violation member
    obtain ⟨row, -, violation_of⟩ := List.mem_flatMap.1 member
    obtain ⟨key, -, rfl⟩ := List.mem_map.1 violation_of
    exact ⟨rfl, declaration, rows, rfl⟩
  | fullText | splitter | view | catalog =>
    simp only [body] at violated
    cases violated
    simp

def Engine.Schema.checked? (home : Schema) : Option String → Option (List Table)
  | none => some home.inOrder
  | some name => (home.find? name).map fun held => [held]

-- A check finds the violations of the tables that it goes through, and notices a lock if there are keys.
theorem Engine.Database.foreignKeyCheck_eq {schema : String} {home : Schema}
    (found : base.schema? schema = some home) (table : Option String) :
    base.foreignKeyCheck schema table =
      match home.checked? table with
      | none => .error (.noSuchTable schema (table.getD ""))
      | some tables => do
        let lists ← tables.mapM (Table.violations home.find?)
        if tables.any Table.hasReferences then base.touch home.name
        return lists.flatten := by
  unfold foreignKeyCheck described
  rw [schemaOr_eq_ok.2 found]
  cases table with
  | none => rfl
  | some name =>
    simp only [bind, Except.bind, Schema.checked?]
    cases home.find? name <;> rfl

theorem Engine.Database.foreignKeyCheck_ok {schema : String} {home : Schema}
    (found : base.schema? schema = some home) {table : Option String} {violations : List Violation}
    (checked : base.foreignKeyCheck schema table = .ok violations) :
    ∃ tables lists, home.checked? table = some tables ∧
      tables.mapM (Table.violations home.find?) = .ok lists ∧ violations = lists.flatten ∧
      (tables.any Table.hasReferences = true → base.touch home.name = .ok ()) := by
  rw [foreignKeyCheck_eq found] at checked
  cases known : home.checked? table with
  | none =>
    rw [known] at checked
    cases checked
  | some tables =>
    simp only [known] at checked
    obtain ⟨lists, each, checked⟩ := exists_of_bind_eq_ok checked
    refine ⟨tables, lists, rfl, each, ?_⟩
    split at checked
    · obtain ⟨_, touched, checked⟩ := exists_of_bind_eq_ok checked
      cases checked
      exact ⟨rfl, fun _ => touched⟩
    · rename_i keyless
      cases checked
      exact ⟨rfl, fun keys => absurd keys keyless⟩

-- A check of one table finds the violations of its rows.
theorem Engine.Database.foreignKeyCheck_eq_ok {schema table : String} {found : List Violation}
    (checked : base.foreignKeyCheck schema (some table) = .ok found) :
    ∃ home held, base.schema? schema = some home ∧ home.find? table = some held ∧
      held.violations home.find? = .ok found := by
  obtain ⟨home, looked⟩ : ∃ home, base.schema? schema = some home := by
    unfold foreignKeyCheck described at checked
    obtain ⟨home, looked, -⟩ := exists_of_bind_eq_ok checked
    exact ⟨home, schemaOr_eq_ok.1 looked⟩
  obtain ⟨tables, lists, known, each, rfl, -⟩ := foreignKeyCheck_ok looked checked
  obtain ⟨held, there, rfl⟩ := Option.map_eq_some_iff.1 known
  rw [List.mapM_cons] at each
  obtain ⟨violations, violated, each⟩ := exists_of_bind_eq_ok each
  cases each
  exact ⟨home, held, looked, there, by simpa using violated⟩

-- Violations are found in a table with rows, which is located by its name.
theorem checked_of_answer {schema table : String} {found : List Violation} {after : Database}
    (answered : Change.answer (.foreignKeyCheck schema (some table)) base = (.ok found, after)) :
    ∀ violation ∈ found, sameName violation.originTable table = true ∧
      ∃ home held declaration rows, base.locate schema violation.originTable = .ok (home, held) ∧
        held.body = .ordinary declaration rows := by
  obtain ⟨ready, follows, responds⟩ := answer_responds answered
  have checked : ready.foreignKeyCheck schema (some table) = .ok found := congrArg Prod.fst responds
  obtain ⟨home, held, looked, there, violated⟩ := foreignKeyCheck_eq_ok checked
  rw [follows.schema?] at looked
  intro violation member
  obtain ⟨origin, declaration, rows, body⟩ := Table.ordinary_of_violations violated violation member
  have named : sameName held.name table = true := by
    rcases Schema.find?_cases there with ⟨-, -, same⟩ | ⟨rfl, -⟩
    · exact same
    · cases body
  refine ⟨origin ▸ named, home, held, declaration, rows, ?_, body⟩
  unfold Database.locate
  rw [schemaOr_eq_ok.2 looked, origin]
  simp only [bind, Except.bind]
  rw [Schema.find?_congr named, there]
  rfl

theorem Engine.Database.Veils.reveals_parent (veils : base.Veils veiled) {schema : String} {home : Schema}
    {held : Table} {column : KeyColumn} (found : base.schema? schema = some home)
    {table : String} (there : home.find? table = some held) (member : column ∈ held.keyColumns) :
    base.Reveals veiled schema column.table := by
  intro same looked temporary
  obtain rfl : home = same := Option.some.inj (found.symm.trans looked)
  have parent := Table.mem_parentNames member
  rcases Schema.find?_there there with inside | rfl
  · exact veils.parents held (temporary ▸ inside) _ parent
  · cases parent

section

variable (regular : base.Regular) (veils : base.Veils veiled)
include regular veils

theorem agrees_ofColumns {schema : String} {columns : List KeyColumn}
    (shown : ∀ column ∈ columns, base.Reveals veiled schema column.table) (id : Int) :
    Agrees (base.Both veiled) (ForeignKey.ofColumns schema id columns) := by
  cases columns with
  | nil => exact agrees_pure trivial
  | cons first rest =>
    have described := told_tableInfo regular veils (shown first List.mem_cons_self)
    have destinations : Agrees (base.Both veiled)
        (ForeignKey.destinationsOf (first :: rest) first.table schema) := by
      unfold ForeignKey.destinationsOf
      split
      · exact agrees_pure trivial
      · refine agrees_bind (agrees_ask (agreed_of_told regular described fun _ _ _ => trivial)) ?_
        exact fun _ _ => agrees_pure trivial
    exact agrees_bind destinations fun _ _ => agrees_pure trivial

theorem agrees_ofListing {schema : String} {columns : List KeyColumn}
    (shown : ∀ column ∈ columns, base.Reveals veiled schema column.table) (ids : List Int) :
    Agrees (base.Both veiled) (ForeignKey.ofListing schema columns ids) := by
  induction ids with
  | nil => exact agrees_pure trivial
  | cons id ids ih =>
    have some : ∀ column ∈ ForeignKey.columnsOf columns id, base.Reveals veiled schema column.table := by
      intro column member
      exact shown column (List.mem_of_mem_filter (List.mem_mergeSort.1 member))
    refine agrees_bind (agrees_ofColumns regular veils some id) ?_
    intro key _
    exact agrees_bind ih fun _ _ => agrees_pure trivial

section

variable {table : String} (shown : ¬veiled table)
include shown

theorem agrees_resolve (schema : Option String) :
    Agrees (base.Both veiled) (Catalog.resolve table schema) := by
  refine Catalog.agrees_resolve ?_ ?_ schema
  · exact agreed_of_told regular (told_databaseList regular veils) fun _ _ _ => trivial
  · intro schema
    exact agreed_of_told regular (told_tableExists regular veils fun _ _ _ => shown) fun _ _ _ => trivial

theorem agrees_declared (schema : Option String) :
    Agrees (base.Both veiled) (ForeignKey.declared table schema) := by
  refine agrees_bind (agrees_resolve regular veils shown schema) ?_
  intro resolved _
  have listed : Told (base.Resembles veiled) (Change.answer (.foreignKeyList resolved table)) :=
    told_foreignKeyList regular veils fun _ _ _ => shown
  refine agrees_bind (Q := fun columns => ∀ column ∈ columns, base.Reveals veiled resolved column.table)
    (agrees_ask (agreed_of_told regular listed ?_)) ?_
  · intro columns after answered column member
    obtain ⟨home, held, found, there, key⟩ := listed_of_answer answered column member
    exact veils.reveals_parent found there key
  · intro columns parents
    refine agrees_bind (agrees_ofListing regular veils parents _) ?_
    intro keys _
    exact agrees_bind (agrees_debug _) fun _ _ => agrees_pure trivial

theorem agrees_check (schema : Option String) :
    Agrees (base.Both veiled) (ForeignKey.check (some table) schema) fun checked =>
      ∀ violation ∈ checked.2, ¬veiled violation.originTable ∧
        ∃ home held declaration rows, base.locate checked.1 violation.originTable = .ok (home, held) ∧
          held.body = .ordinary declaration rows := by
  refine agrees_bind (agrees_resolve regular veils shown schema) ?_
  intro resolved _
  have checked : Told (base.Resembles veiled) (Change.answer (.foreignKeyCheck resolved (some table))) :=
    told_foreignKeyCheck regular veils fun _ _ _ => shown
  refine agrees_bind (agrees_ask (agreed_of_told regular checked ?_)) fun _ found => agrees_pure found
  intro found after answered violation member
  obtain ⟨same, located⟩ := checked_of_answer answered violation member
  exact ⟨fun left => shown (veils.congr same left), located⟩

end

theorem agrees_describe {violation : Violation} {schema : String} (shown : ¬veiled violation.originTable)
    (located : ∃ home held declaration rows, base.locate schema violation.originTable = .ok (home, held) ∧
      held.body = .ordinary declaration rows) :
    Agrees (base.Both veiled) (ForeignKey.describe violation schema) := by
  refine agrees_bind (agrees_declared regular veils shown (some schema)) ?_
  intro keys _
  obtain ⟨home, held, declaration, rows, located, body⟩ := located
  have shown : base.Reveals veiled schema violation.originTable := fun _ _ _ => shown
  cases violation.originRowid with
  | none =>
    have nothing : Agrees (base.Both veiled) (pure none : Attempt Database (Option Row)) :=
      agrees_pure trivial
    exact agrees_bind nothing fun _ _ => agrees_pure trivial
  | some rowid =>
    have selected := told_selectRow regular veils shown located body rowid
    refine agrees_bind (agrees_ask (agreed_of_told regular selected fun _ _ _ => trivial)) ?_
    exact fun _ _ => agrees_pure trivial

theorem agrees_ensureNone {table : String} (shown : ¬veiled table) (schema : Option String) :
    Agrees (base.Both veiled) (ForeignKey.ensureNone (some table) schema) := by
  refine agrees_bind (agrees_check regular veils shown schema) ?_
  rintro ⟨resolved, found⟩ known
  cases found with
  | nil => exact agrees_pure trivial
  | cons violation rest =>
    obtain ⟨shown, located⟩ := known violation List.mem_cons_self
    refine agrees_bind (agrees_describe regular veils shown located) ?_
    intro message _
    exact agrees_bind (agrees_debug _) fun _ _ => agrees_fail _

end

/-- The lookups about one table: where it is, what its foreign keys are, and whether its rows keep to
them. -/
inductive Lookup.About (table : String) : Lookup → Prop
  | resolve (schema : Option String) : About table (.resolve table schema)
  | foreignKeys (schema : Option String) : About table (.foreignKeys table schema)
  | violations (schema : Option String) : About table (.violations (some table) schema)
  | ensureNone (schema : Option String) : About table (.ensureNone (some table) schema)

theorem Lookup.answers_alike (regular : base.Regular) (veils : base.Veils veiled) {later : Database}
    (resembles : base.Resembles veiled later) {table : String} (shown : ¬veiled table) {question : Lookup}
    (about : question.About table) (journal other : List Record) :
    (question.run.run ⟨later, journal⟩).1 = (question.run.run ⟨base, other⟩).1 := by
  suffices agrees : Agrees (base.Both veiled) question.run from
    (agrees ⟨later, journal⟩ ⟨base, other⟩ ⟨resembles, .refl regular⟩).1.1
  cases about with
  | resolve schema =>
    exact agrees_bind (agrees_resolve regular veils shown schema) fun _ _ => agrees_pure trivial
  | foreignKeys schema =>
    exact agrees_bind (agrees_declared regular veils shown schema) fun _ _ => agrees_pure trivial
  | violations schema =>
    have violations : Agrees (base.Both veiled) (ForeignKey.violations (some table) schema) :=
      agrees_bind (agrees_check regular veils shown schema) fun _ _ => agrees_pure trivial
    exact agrees_bind violations fun _ _ => agrees_pure trivial
  | ensureNone schema =>
    exact agrees_bind (agrees_ensureNone regular veils shown schema) fun _ _ => agrees_pure trivial

end TextQuery
