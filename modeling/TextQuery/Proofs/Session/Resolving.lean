import TextQuery.Proofs.Catalog.Searching

set_option autoImplicit false

namespace TextQuery

open Engine Engine.Change Text

namespace Engine

def Schema.contents (schema : Schema) : String × List Table := (schema.name, schema.tables)

/-- The steps that attach a schema, or that detach one or change tables in one that is not among these. -/
def Building.Beyond (front : List Schema) : Building → Prop
  | .attach _ => True
  | .detach schema | .createTable schema _ _ | .createFullText schema _ _ _ _ | .createView schema _ _
  | .insert schema _ _ | .delete schema _ | .drop schema _ =>
    ∀ held ∈ front, sameName held.name schema = false
  | .lock | .unlock => False

namespace Database

open Catalog

/-- A database that is searched in some schemas first, and these have kept what they hold. -/
structure Fronted (condition : Condition) (front : List Schema) (database : Database) : Prop
    extends database.Regular where
  unchanged : database.condition = condition
  kept : ∃ first later, searched database = first ++ later ∧
    first.map Schema.contents = front.map Schema.contents

variable {database : Database}

theorem searched_within (regular : database.Regular) (name : String) (edit : List Table → List Table) :
    searched (database.within name edit) =
      (searched database).map fun schema => if sameName schema.name name then schema.change edit else schema := by
  have schemas := schemas_within regular.apart name edit
  simp only [Database.schemas, List.map_cons, List.cons.injEq] at schemas
  obtain ⟨main, temp, attached⟩ := schemas
  simp only [searched, List.map_cons, main, temp, attached]

-- Schemas that hold the same have the same names.
theorem exists_named {first front : List Schema} (same : first.map Schema.contents = front.map Schema.contents)
    {schema : Schema} (member : schema ∈ first) : ∃ held ∈ front, held.name = schema.name := by
  have listed : schema.contents ∈ front.map Schema.contents := same ▸ List.mem_map_of_mem member
  obtain ⟨held, inside, contents⟩ := List.mem_map.1 listed
  exact ⟨held, inside, congrArg Prod.fst contents⟩

namespace Fronted

variable {condition : Condition} {front : List Schema} (fronted : database.Fronted condition front)
include fronted

-- An edit of a later schema leaves the first ones as they are.
theorem within {name : String} {edit : List Table → List Table} (regular : (database.within name edit).Regular)
    (beyond : ∀ held ∈ front, sameName held.name name = false) :
    (database.within name edit).Fronted condition front := by
  obtain ⟨first, later, split, same⟩ := fronted.kept
  refine ⟨regular, (within_condition _ _ _).trans fronted.unchanged,
    first, later.map fun schema => if sameName schema.name name then schema.change edit else schema, ?_, same⟩
  rw [searched_within fronted.toRegular, split, List.map_append]
  congr 1
  refine Eq.trans (List.map_congr_left ?_) (List.map_id _)
  intro schema member
  obtain ⟨held, inside, named⟩ := exists_named same member
  rw [← named, beyond held inside]
  rfl

-- Whatever leaves the schemas as they are leaves the first ones as they are.
theorem same {after : Database} (regular : after.Regular) (unchanged : after.condition = database.condition)
    (schemas : searched after = searched database) : after.Fronted condition front :=
  ⟨regular, unchanged.trans fronted.unchanged, by rw [schemas]; exact fronted.kept⟩

end Fronted

-- Only tables of later schemas may be written to.
theorem lasting_fronted (condition : Condition) (front : List Schema) :
    Lasting (fun home _ => ∀ held ∈ front, sameName held.name home = false) OfMatch
      (Fronted condition front) where
  noted used _ segments fewer fronted :=
    fronted.same (Regular.lasting.noted used segments fewer fronted.toRegular) rfl rfl
  read fronted := fronted.same (Regular.lasting.read fronted.toRegular) rfl rfl
  checked fewer fronted := fronted.same (Regular.lasting.checked fewer fronted.toRegular) rfl rfl
  several := Regular.lasting.several
  started may fronted := fronted.same (Regular.lasting.started may fronted.toRegular) rfl rfl
  reread {database} fronted := by
    obtain ⟨first, later, split, same⟩ := fronted.kept
    let read (schema : Schema) : Schema := .ofTables schema.name schema.tables
    refine ⟨Regular.lasting.reread fronted.toRegular, fronted.unchanged, first.map read, later.map read, ?_, ?_⟩
    · rw [← List.map_append, ← split]
      rfl
    · rw [List.map_map]
      exact same
  undone fewer before after :=
    ⟨Regular.lasting.undone fewer before.toRegular after.toRegular, after.unchanged, before.kept⟩
  written beyond stores rewritten fronted :=
    fronted.within (Regular.lasting.written trivial stores rewritten fronted.toRegular) beyond

theorem mayBuild_fronted {condition : Condition} {front : List Schema} {building : Building}
    (beyond : building.Beyond front) (clean : ∀ text ∈ building.texts, '\x00' ∉ text.toList) :
    MayBuild (Fronted condition front) (fun home _ => ∀ held ∈ front, sameName held.name home = false)
      building := by
  have may := Regular.mayBuild building clean
  -- A schema that is found by a name is not among the first ones if none of these has the name.
  have apart {home : Schema} {schema : String} (beyond : ∀ held ∈ front, sameName held.name schema = false)
      (same : sameName home.name schema = true) : ∀ held ∈ front, sameName held.name home.name = false := by
    intro held member
    rw [sameName_congr same, beyond held member]
  cases building with
  | attach schema =>
    intro database fronted new
    obtain ⟨first, later, split, same⟩ := fronted.kept
    refine ⟨may database fronted.toRegular new, fronted.unchanged, first,
      later ++ [Schema.ofTables schema []], ?_, same⟩
    rw [← List.append_assoc, ← split]
    rfl
  | detach schema =>
    intro database fronted gone
    obtain ⟨first, later, split, same⟩ := fronted.kept
    refine ⟨may database fronted.toRegular gone, fronted.unchanged, ?_⟩
    -- Of the schemas that are always there nothing is detached.
    match first, split with
    | [], _ => exact ⟨[], _, rfl, same⟩
    | [temp], split =>
      obtain ⟨rfl, -⟩ := List.cons.inj split
      exact ⟨[database.temp], _, rfl, same⟩
    | temp :: main :: others, split =>
      obtain ⟨rfl, tail⟩ := List.cons.inj split
      obtain ⟨rfl, attached⟩ := List.cons.inj tail
      rw [List.append_eq] at attached
      refine ⟨database.temp :: database.main :: others,
        later.filter fun held => !sameName held.name schema, ?_, same⟩
      have stay : others.filter (fun held => !sameName held.name schema) = others := by
        rw [List.filter_eq_self]
        intro held member
        obtain ⟨kept, inside, named⟩ := exists_named same (by simp [member] : held ∈ _ :: _ :: others)
        rw [← named, beyond kept inside]
        rfl
      change database.temp :: database.main :: database.attached.filter _ = _
      rw [attached, List.filter_append, stay]
      rfl
  | createTable | createView | createFullText =>
    intro home tables same adds database fronted found
    exact fronted.within (may home tables same adds database fronted.toRegular found) (apart beyond same)
  | insert | delete =>
    intro database home held located
    have named := sameName_of_schema? (locate_eq_ok located).1
    exact ⟨apart beyond named, fun _ _ => apart beyond named⟩
  | drop schema table =>
    intro home held database fronted located gone
    exact fronted.within (may home held database fronted.toRegular located gone)
      (apart beyond (sameName_of_schema? (locate_eq_ok located).1))
  | lock | unlock => exact beyond.elim

end Database

end Engine

namespace Session

open Catalog

variable {session : Session} {condition : Condition} {front : List Schema}

theorem fronted_after {buildings : List Building} (fronted : session.database.Fronted condition front)
    (isOpen : session.isClosed = false) (beyond : ∀ building ∈ buildings, building.Beyond front) :
    (session.after (buildings.map .build)).database.Fronted condition front ∧
      (session.after (buildings.map .build)).isClosed = false := by
  induction buildings generalizing session with
  | nil => exact ⟨fronted, isOpen⟩
  | cons building buildings ih =>
    obtain ⟨first, rest⟩ := List.forall_mem_cons.1 beyond
    have built : (session.step (.build building)).2.2 =
        { session with database := (build building session.database).2 } := by
      simp only [step, isOpen, Bool.false_and, Bool.false_eq_true, if_false, perform, onTables]
      rfl
    have kept := keeps_build (Database.lasting_fronted condition front)
      (Database.mayBuild_fronted first) session.database fronted
    refine @ih (session.step (.build building)).2.2 ?_ ?_ rest
    · rw [built]
      exact kept
    · rw [built]
      exact isOpen

/-- Whether a schema is the one that a lookup of a table chooses if none before it is. -/
def Suits (table : String) : Option String → String × List Table → Bool
  | none, (_, tables) => (Table.find? tables table).isSome
  | some schema, (name, _) => lower name == lower schema

/-- The schema that a lookup of a table chooses. -/
def chosen? (schemas : List Schema) (table : String) (schema : Option String) : Option Schema :=
  schemas.find? fun home => Suits table schema home.contents

theorem chosen?_contents (schemas : List Schema) (table : String) (schema : Option String) :
    (chosen? schemas table schema).map Schema.contents =
      (schemas.map Schema.contents).find? (Suits table schema) := by
  rw [List.find?_map]
  rfl

theorem step_resolve (isOpen : session.isClosed = false) (table : String) (schema : Option String) :
    (session.step (.lookup (.resolve table schema))).1 =
      ((resolve table schema : Attempt Database _).run { engine := session.database }).1.map .text := by
  rw [step_lookup isOpen, Lookup.run, Attempt.run_map]

theorem resolve_eq_ok (regular : session.database.Regular) (isOpen : session.isClosed = false)
    (unlocked : session.database.condition ≠ .locked) {table name : String} {schema : Option String} :
    (session.step (.lookup (.resolve table schema))).1 = .ok (.text name) ↔
      session.database.reading = .ok () ∧ ∃ home, chosen? (searched session.database) table schema = some home ∧
        home.name = name ∧ (Table.find? home.tables table).isSome = true := by
  have answered {attempt : Except Failure String} :
      attempt.map Answer.text = .ok (.text name) ↔ attempt = .ok name := by
    cases attempt with
    | ok found => simp [Except.map]
    | error failure => simp [Except.map]
  obtain ⟨world, engine⟩ : ∃ world : World Database, world = { engine := session.database } := ⟨_, rfl⟩
  have same : session.database = world.engine := by rw [engine]
  rw [step_resolve isOpen, answered, ← engine]
  rw [same] at regular unlocked ⊢
  cases schema with
  | none =>
    rw [resolve_bare regular unlocked table]
    change _ ↔ world.engine.reading = .ok () ∧ ∃ home, firstWith? (searched world.engine) table = some home ∧ _
    cases world.engine.reading with
    | error fault => simp
    | ok _ =>
      cases found : firstWith? (searched world.engine) table with
      | none => simp
      | some home =>
        have there := List.find?_some found
        simp [there]
  | some schema =>
    have named := resolve_named regular table schema
    generalize ((resolve table (some schema) : Attempt Database String).run world).1 = answer at named ⊢
    change _ ↔ world.engine.reading = .ok () ∧
      ∃ home, ((searched world.engine).find? fun home => lower home.name == lower schema) = some home ∧ _
    cases found : (searched world.engine).find? fun home => lower home.name == lower schema with
    | none =>
      rw [found] at named
      rw [named]
      simp
    | some picked =>
      rw [found] at named
      obtain ⟨-, -, tells⟩ := named
      have ready := access_unlocked unlocked picked.name
      cases reading : world.engine.reading with
      | error fault =>
        rw [tells.fault (ready.trans reading)]
        simp
      | ok _ =>
        cases there : Table.find? picked.tables table with
        | none =>
          rw [tells.missing (ready.trans reading) there]
          simp [there]
        | some held =>
          rw [tells.there (ready.trans reading) there]
          simp [there]

-- What is chosen of some schemas is chosen of the first ones of them too, up to that one.
theorem chosen?_front {before later : List Schema} {home : Schema} {table : String} {schema : Option String}
    (chosen : chosen? (before ++ home :: later) table schema = some home) :
    chosen? (before ++ [home]) table schema = some home := by
  unfold chosen? at chosen ⊢
  have suits := List.find?_some chosen
  rw [List.find?_append, List.find?_cons_of_pos (by exact suits)] at chosen ⊢
  exact chosen

theorem resolve_kept (regular : session.database.Regular) (isOpen : session.isClosed = false)
    (unlocked : session.database.condition ≠ .locked) {table : String} {schema : Option String}
    {before later : List Schema} {home : Schema} (order : searched session.database = before ++ home :: later)
    (resolved : (session.step (.lookup (.resolve table schema))).1 = .ok (.text home.name))
    {buildings : List Building} (beyond : ∀ building ∈ buildings, building.Beyond (before ++ [home])) :
    ((session.after (buildings.map .build)).step (.lookup (.resolve table schema))).1 = .ok (.text home.name) := by
  obtain ⟨readable, picked, chosen, named, there⟩ := (resolve_eq_ok regular isOpen unlocked).1 resolved
  have inside := mem_searched.1 (List.mem_of_find?_eq_some chosen)
  have known : home ∈ session.database.schemas := mem_searched.1 (by rw [order]; simp)
  have same : picked = home := eq_of_sameName regular.apart inside known (by rw [named, sameName_refl])
  subst same
  have fronted : session.database.Fronted session.database.condition (before ++ [picked]) :=
    ⟨regular, rfl, before ++ [picked], later, by simp [order], rfl⟩
  obtain ⟨after, open'⟩ := fronted_after fronted isOpen beyond
  rw [resolve_eq_ok after.toRegular open' (by rwa [after.unchanged])]
  generalize (session.after (buildings.map .build)).database = database at after
  -- The front has kept what it holds, and the schema was chosen within it.
  obtain ⟨first, others, split, contents⟩ := after.kept
  have found : (chosen? (first ++ others) table schema).map Schema.contents = some picked.contents := by
    rw [chosen?_contents, List.map_append, contents, List.find?_append, ← chosen?_contents,
      chosen?_front (order ▸ chosen)]
    rfl
  obtain ⟨held, chosen, same⟩ := Option.map_eq_some_iff.1 found
  obtain ⟨name, tables⟩ := Prod.mk.inj same
  refine ⟨?_, held, by rw [split, chosen], name, by rw [tables, there]⟩
  -- Without a lock only the condition says whether the catalog can be read.
  have unlocked : database.condition ≠ .locked := by rwa [after.unchanged]
  unfold Database.reading at readable ⊢
  rw [after.unchanged]
  revert readable
  cases condition : session.database.condition with
  | usable => exact id
  | notADatabase => exact id
  | locked => exact absurd (after.unchanged.trans condition) unlocked

/-- Without a lock, a table that is named without a schema is resolved to the first schema that is searched and
has it, and to none just where none has it. One that is named with a schema is looked for in the first schema of
the same lower-case form alone, which is the one of the name unless an earlier one has that form. Whatever is done
to schemas behind the one that was found does not change the answer. -/
theorem resolve_settled (reachable : Reachable (fun _ => True) session) (isOpen : session.isClosed = false)
    (unlocked : session.database.condition ≠ .locked) (table : String) :
    let order := searched session.database
    let answer (schema : Option String) := (session.step (.lookup (.resolve table schema))).1
    (match session.database.reading with
      | .error fault => answer none = .error (.engine fault)
      | .ok _ =>
        (∀ before home later, order = before ++ home :: later →
          (Table.find? home.tables table).isSome = true →
          (∀ other ∈ before, Table.find? other.tables table = none) → answer none = .ok (.text home.name)) ∧
        (answer none = .error (.diagnostic (.noSuchTable table)) ↔
          ∀ home ∈ order, Table.find? home.tables table = none)) ∧
    (∀ schema, match order.find? fun home => lower home.name == lower schema with
      | none => answer (some schema) = .error (.diagnostic (.noSuchSchema schema))
      | some picked => TellsOf session.database schema picked table
          (fun _ given => given = .ok (.text picked.name)) (answer (some schema))) ∧
    (∀ schema before home later, order = before ++ home :: later → sameName home.name schema = true →
      ∃ picked ∈ order, (order.find? fun home => lower home.name == lower schema) = some picked ∧
        (picked = home ↔ ∀ other ∈ before, lower other.name ≠ lower schema)) ∧
    ∀ schema before home later, order = before ++ home :: later → answer schema = .ok (.text home.name) →
      ∀ buildings : List Building, (∀ building ∈ buildings, building.Beyond (before ++ [home])) →
        ((session.after (buildings.map .build)).step (.lookup (.resolve table schema))).1 =
          .ok (.text home.name) := by
  intro order answer
  have regular := (reachable.has Database.Regular.outlasting).database
  refine ⟨?_, fun schema => ?_, ?_, ?_⟩
  · have bare : answer none = _ := step_resolve isOpen table none
    let world : World Database := { engine := session.database }
    have resolved := resolve_bare (show world.engine.Regular from regular) unlocked table
    dsimp only [world] at resolved
    rw [resolved] at bare
    cases readable : session.database.reading with
    | error fault => rw [bare, readable]; rfl
    | ok _ =>
      rw [readable] at bare
      dsimp only at bare ⊢
      rw [bare]
      constructor
      · intro before home later split there missing
        rw [show searched session.database = _ from split, firstWith?_split there missing]
        rfl
      · rw [← firstWith?_eq_none]
        cases first : firstWith? (searched session.database) table with
        | none => exact iff_of_true rfl rfl
        | some home => exact iff_of_false nofun nofun
  · have named : answer (some schema) = _ := step_resolve isOpen table (some schema)
    let world : World Database := { engine := session.database }
    have resolved := resolve_named (show world.engine.Regular from regular) table schema
    dsimp only [world] at resolved
    rw [named]
    cases found : order.find? fun home => lower home.name == lower schema with
    | none =>
      rw [show (searched session.database).find? _ = _ from found] at resolved
      dsimp only at resolved ⊢
      rw [resolved]
      rfl
    | some picked =>
      rw [show (searched session.database).find? _ = _ from found] at resolved
      obtain ⟨-, -, tells⟩ := resolved
      refine tells.map ?_
      rintro held given rfl
      rfl
  · exact fun schema before home later split same => picked_split regular split same
  · intro schema before home later split resolved buildings beyond
    exact resolve_kept regular isOpen unlocked split resolved beyond

-- Of two schemas with the same lower-case form, a table of the first one is found when it is looked for in the
-- second one.
theorem resolve_settled_elsewhere :
    let session := fresh.after [.build (.attach "é"), .build (.attach "É"),
      .build (.createTable "é" "t" { columns := [⟨"a", ""⟩] })]
    let later : List Building := [.attach "z", .createTable "z" "t" { columns := [⟨"a", ""⟩] }, .detach "É"]
    Reachable (fun _ => True) session ∧ session.isClosed = false ∧ session.database.condition ≠ .locked ∧
    (session.database.schema? "É").any (fun home => (Table.find? home.tables "t").isNone) = true ∧
    (session.step (.lookup (.resolve "t" (some "É")))).1 = .ok (.text "é") ∧
    ((session.after (later.map .build)).step (.lookup (.resolve "t" none))).1 = .ok (.text "é") := by
  intro session later
  have reachable : Reachable (fun _ => True) session := (Reachable.opened _).after fun _ _ => trivial
  let first := session.database.attached.headD session.database.main
  let second := session.database.attached.getLastD session.database.main
  obtain ⟨isOpen, usable, order, lacks⟩ : session.isClosed = false ∧ session.database.condition = .usable ∧
      searched session.database = [session.database.temp, session.database.main] ++ first :: [second] ∧
      (session.database.schema? "É").any (fun home => (Table.find? home.tables "t").isNone) = true := by
    decide
  obtain ⟨there, temp, main, named, picked⟩ : (Table.find? first.tables "t").isSome = true ∧
      Table.find? session.database.temp.tables "t" = none ∧
      Table.find? session.database.main.tables "t" = none ∧ first.name = "é" ∧
      ((searched session.database).find? fun home => lower home.name == lower "É") = some first := by
    decide
  have unlocked : session.database.condition ≠ .locked := by rw [usable]; decide
  have reading : session.database.reading = .ok () := by rw [Database.reading, usable]
  obtain ⟨bare, explicit, -, kept⟩ := resolve_settled reachable isOpen unlocked "t"
  rw [reading] at bare
  have found := bare.1 _ first [second] order there (by simp [temp, main])
  have tells := explicit "É"
  rw [picked] at tells
  obtain ⟨held, known⟩ := Option.isSome_iff_exists.1 there
  have answered := tells.there (by rw [access_unlocked unlocked, reading]) known
  rw [← named]
  refine ⟨reachable, isOpen, unlocked, lacks, answered, ?_⟩
  refine kept none _ first [second] order found later ?_
  have beyond : ∀ held ∈ [session.database.temp, session.database.main] ++ [first],
      sameName held.name "z" = false ∧ sameName held.name "É" = false := by decide
  simp only [later, List.forall_mem_cons, List.not_mem_nil, false_implies, implies_true, and_true,
    Building.Beyond, true_and]
  exact ⟨fun held member => (beyond held member).1, fun held member => (beyond held member).2⟩

end Session

end TextQuery
