import TextQuery.Proofs.Session.Resolving

set_option autoImplicit false

namespace TextQuery

open Engine Engine.Change Text

namespace Engine

/-- Of a database whose tables have the declarations that their makers wrote. -/
structure Database.Written (database : Database) : Prop extends database.Regular where
  written : ∀ schema ∈ database.schemas, ∀ table ∈ schema.tables, table.Written

namespace Database.Written

variable {database : Database}

theorem within (written : database.Written) {name : String} {edit : List Table → List Table}
    (regular : (database.within name edit).Regular)
    (edited : ∀ schema ∈ database.schemas, sameName schema.name name = true →
      ∀ table ∈ edit schema.tables, table.Written) : (database.within name edit).Written := by
  refine ⟨regular, ?_⟩
  rw [schemas_within written.apart, List.forall_mem_map]
  intro schema member
  split
  · rename_i same
    exact edited schema member same
  · exact written.written schema member

theorem added (written : database.Written) {home : Schema} {table : String} {tables : List Table}
    (regular : (database.within home.name (· ++ tables)).Regular) (adds : Adds home table tables) :
    (database.within home.name (· ++ tables)).Written := by
  refine written.within regular ?_
  intro schema member _
  exact List.forall_mem_append.2 ⟨written.written schema member, adds.written⟩

-- A catalog that is read anew has the same declarations.
theorem forgotten {tables : Database} (regular : tables.forget.Regular)
    (written : ∀ schema ∈ tables.schemas, ∀ table ∈ schema.tables, table.Written) : tables.forget.Written := by
  refine ⟨regular, ?_⟩
  have schemas : tables.forget.schemas =
      tables.schemas.map fun schema => Schema.ofTables schema.name schema.tables := rfl
  rw [schemas, List.forall_mem_map]
  exact written

theorem lasting : Lasting (fun _ _ => True) OfMatch Written where
  noted used _ segments fewer written :=
    ⟨Regular.lasting.noted used segments fewer written.toRegular, written.written⟩
  read written := ⟨Regular.lasting.read written.toRegular, written.written⟩
  checked fewer written := ⟨Regular.lasting.checked fewer written.toRegular, written.written⟩
  several := Regular.lasting.several
  started may written := ⟨Regular.lasting.started may written.toRegular, written.written⟩
  reread written := forgotten (Regular.lasting.reread written.toRegular) written.written
  undone fewer before after :=
    ⟨Regular.lasting.undone fewer before.toRegular after.toRegular, before.written⟩
  written _ stores rewritten written := by
    refine written.within (Regular.lasting.written trivial stores rewritten written.toRegular) ?_
    intro schema member _
    rw [List.forall_mem_map]
    intro table there
    obtain ⟨texts, consists⟩ := written.written schema member table there
    exact ⟨texts, consists.withRows _ _⟩

theorem mayBuild (building : Building) (clean : ∀ text ∈ building.texts, '\x00' ∉ text.toList) :
    MayBuild Written (fun _ _ => True) building := by
  have may := Regular.mayBuild building clean
  cases building with
  | attach schema =>
    intro database written new
    refine ⟨may database written.toRegular new, ?_⟩
    intro held member
    rcases mem_attached member with old | rfl
    · exact written.written held old
    · simp [Schema.ofTables]
  | detach schema =>
    exact fun database written gone =>
      ⟨may database written.toRegular gone, fun held member => written.written held (mem_detached member)⟩
  | createTable | createView | createFullText =>
    intro home tables same adds database written found
    exact written.added (may home tables same adds database written.toRegular found) adds
  | insert | delete => exact fun _ _ _ _ => ⟨trivial, fun _ _ => trivial⟩
  | drop schema table =>
    intro home held database written located gone
    refine written.within (may home held database written.toRegular located gone) ?_
    exact fun schema member _ table kept => written.written schema member table (List.mem_filter.1 kept).1
  | lock | unlock =>
    exact fun database written => ⟨may database written.toRegular, written.written⟩

theorem outlasting : Session.Outlasting (fun _ => True) Written where
  opened condition := ⟨Regular.outlasting.opened condition, by simp [schemas, Schema.ofTables]⟩
  reopened {database} written := by
    refine forgotten (Regular.outlasting.reopened written.toRegular) ?_
    have main := written.written database.main (by simp [schemas])
    simpa [schemas, Schema.ofTables] using main
  watched := by
    apply watched_of lasting.toSteadfast lasting.reread
    · exact fun choice database splitter written free _ =>
        written.added (written.added_tokens free splitter) (adds_tokens free splitter)
    · exact fun columns database tables written free made =>
        written.added (written.added_probe free made) (adds_probe free made)
    · exact fun target expression _ other _ _ _ _ _ => .inl fun text same =>
        ⟨target, other, (List.singleton_inj.1 same).symm⟩
  built _ := keeps_build lasting (mayBuild _)
  listed := keeps_listHelpers lasting

end Database.Written

end Engine

namespace Declaration

/-- A clause of two bare words, whatever the case of their letters, with white space between and around them. -/
def IsPlain (clause : String) : Prop :=
  ∃ lead first gap second trail, clause.toList = lead ++ (first ++ gap ++ second) ++ trail ∧
    (∀ c ∈ lead ++ gap ++ trail, Arguments.isBlank c = true) ∧ gap ≠ [] ∧
    first.map Char.toLower = "using".toList ∧ second.map Char.toLower = "fts5".toList

-- White space of the engine is white space, and in no word.
theorem blank_of_isBlank {c : Char} (blank : Arguments.isBlank c = true) : isBlank c = true ∧ isWordChar c = false := by
  have few : c = ' ' ∨ ∃ place < 5, c = Char.ofNat (9 + place) := by
    simp only [Arguments.isBlank, Bool.or_eq_true, beq_iff_eq, Bool.and_eq_true, decide_eq_true_eq] at blank
    rcases blank with space | ⟨⟨low, high⟩, -⟩
    · exact .inl space
    · have low : 9 ≤ c.toNat := UInt32.le_iff_toNat_le.1 low
      have high : c.toNat ≤ 13 := UInt32.le_iff_toNat_le.1 high
      refine .inr ⟨c.toNat - 9, by omega, ?_⟩
      rw [Nat.add_sub_cancel' low, Char.ofNat_toNat]
  have known : ∀ place < 5, isBlank (Char.ofNat (9 + place)) = true ∧ isWordChar (Char.ofNat (9 + place)) = false := by
    decide +kernel
  rcases few with rfl | ⟨place, small, rfl⟩
  · decide +kernel
  · exact known place small

theorem map_plainLetter {read : List Char} {word : String} (spelled : read.map Char.toLower = word.toList)
    (ascii : ∀ letter ∈ word.toList, letter ∈ clauseLetters) : read.map plainLetter = word.toList := by
  have same : ∀ c ∈ read, plainLetter c = c.toLower := by
    intro c member
    have letter := ascii c.toLower (by rw [← spelled]; exact List.mem_map_of_mem member)
    have other : ∀ d ∈ ['ſ', 'ı', 'İ'], d.toLower ∉ clauseLetters := List.forall_iff_forall_mem.1 (by decide)
    unfold plainLetter
    split
    · rename_i long
      rw [beq_iff_eq.1 long] at letter
      exact absurd letter (other _ (by simp))
    · split
      · rename_i dotless
        simp only [Bool.or_eq_true, beq_iff_eq] at dotless
        rcases dotless with rfl | rfl <;> exact absurd letter (other _ (by simp))
      · rfl
  rw [← spelled]
  exact List.map_congr_left same

theorem IsPlain.mentions {clause : String} (plain : IsPlain clause) : Mentions clause := by
  obtain ⟨lead, first, gap, second, trail, text, blank, apart, first', second'⟩ := plain
  rw [List.forall_mem_append, List.forall_mem_append] at blank
  obtain ⟨⟨before, between⟩, behind⟩ := blank
  have ends {space : List Char} (blank : ∀ c ∈ space, Arguments.isBlank c = true) : endsWord space = true := by
    cases space with
    | nil => rfl
    | cons c space => simp [endsWord, (blank_of_isBlank (blank c List.mem_cons_self)).2]
  refine ⟨lead, first ++ gap ++ second, trail, text, ⟨first, gap, second, rfl, ?_, ?_, apart, ?_⟩, ?_, ends behind⟩
  · exact map_plainLetter first' (List.forall_iff_forall_mem.1 (by decide))
  · exact fun c member => (blank_of_isBlank (between c member)).1
  · exact map_plainLetter second' (List.forall_iff_forall_mem.1 (by decide))
  · refine ends fun c member => before c ?_
    simpa using member

end Declaration

namespace Validator

open Declaration

def ofTable (table : String) (schema : Option String) : Validator := { probe := .table table schema }

/-- Whether a validator that is given a table says of it that it is no full-text table. -/
def Refuses (database : Database) (table : String) (schema : Option String) (home expression : String) : Prop :=
  (((ofTable table schema).validate expression) { engine := database }).1.1 =
    .error (.diagnostic (.notFullText home table))

-- Nothing that the engine answers to an expression is told as that.
theorem judge_ne_notFullText (validator : Validator) (target : Target) (expression home table : String)
    (answer : Except Fault Unit) :
    (validator.judge target expression answer).1 ≠ .error (.diagnostic (.notFullText home table)) := by
  intro judged
  cases answer with
  | ok _ => cases judged
  | error fault =>
    unfold judge at judged
    cases classified : FaultClass.of fault with
    | schema =>
      simp only [classified] at judged
      have message : fault.message = "not an fts5 table: " ++ home ++ "." ++ table :=
        congrArg Diagnostic.message (Failure.diagnostic.inj (Except.error.inj judged))
      have starts : "not an fts5 table: ".toList <+: fault.message.toList := by
        simp only [message, String.toList_append, List.append_assoc]
        exact List.prefix_append _ _
      have apart : ¬∃ beginning ∈ ["no such table", "unknown database", "no such module"],
          beginning.toList <+: "not an fts5 table: ".toList ∨
            "not an fts5 table: ".toList <+: beginning.toList := by decide
      exact apart (Fault.Begins.comparable (FaultClass.of_eq_schema.1 classified) starts)
    | grammar =>
      simp only [classified] at judged
      cases judged
    | other =>
      simp only [classified] at judged
      cases judged

theorem findTarget_resolved {world after : World Database} {table home : String} {schema : Option String}
    (resolved : (Catalog.resolve table schema : Attempt Database String).run world = (.ok home, after))
    (regular : world.engine.Regular) :
    ∃ found held, found ∈ world.engine.schemas ∧ found.name = home ∧ Table.find? found.tables table = some held ∧
      ((ofTable table schema).findTarget.run world).1 =
        if !held.isView && Declaration.isFullText held.sql then .ok (.located home table)
        else .error (.diagnostic (.notFullText home table)) := by
  obtain ⟨found, rfl, holds⟩ := Catalog.resolve_ok regular resolved
  obtain ⟨held, there⟩ := Option.isSome_iff_exists.1 holds.there
  refine ⟨found, held, List.mem_of_find?_eq_some holds.found, rfl, there, ?_⟩
  have looked : (ofTable table schema : Validator).findTarget =
      (locate table schema : Attempt Database Target) := rfl
  rw [looked, locate, Attempt.run_bind_ok _ resolved]
  exact taken_held holds.regular ((holds.schema? found.name).trans holds.found) holds.ready there

-- Whether the probe is found is all that it depends on.
theorem refuses_iff {database : Database} {table home : String} {schema : Option String} {accepted : Bool}
    (finds : ((ofTable table schema).findTarget.run { engine := database }).1 =
      if accepted then .ok (.located home table) else .error (.diagnostic (.notFullText home table)))
    (expression : String) : Refuses database table schema home expression ↔ accepted = false := by
  unfold Refuses
  generalize ran : (ofTable table schema).findTarget.run { engine := database } = looked at finds
  obtain ⟨answer, after⟩ := looked
  cases accepted with
  | true =>
    obtain rfl : answer = .ok (.located home table) := finds
    obtain ⟨answered, -⟩ := validate_found expression ran
    rw [answered]
    exact iff_of_false (judge_ne_notFullText _ _ _ _ _ _) (by simp)
  | false =>
    obtain rfl : answer = .error (.diagnostic (.notFullText home table)) := finds
    rw [validate_lost expression ran]
    exact iff_of_true rfl rfl

end Validator

namespace Session

open Declaration Validator

variable {session : Session}

/-- Whatever a name is resolved to, a validator that is given it refuses it just where it is a view, or no text of its
declaration says the clause of full-text tables. A full-text table is refused only if its clause is not two bare
words. -/
theorem probe_taken (reachable : Reachable (fun _ => True) session) (isOpen : session.isClosed = false)
    {table home : String} {schema : Option String}
    (resolved : (session.step (.lookup (.resolve table schema))).1 = .ok (.text home)) :
    ∃ found held texts, found ∈ session.database.schemas ∧ found.name = home ∧
      Table.find? found.tables table = some held ∧ held.Consists texts ∧
      (∀ expression, Refuses session.database table schema home expression ↔
        held.isView = true ∨ ¬AnyMentions texts) ∧
      (held.isView = false → AnyMentions texts →
        ((ofTable table schema).findTarget.run { engine := session.database }).1 = .ok (.located home table)) ∧
      (held.isFullText = true → ∃ clause ∈ texts, asciiFold (moduleOf clause) = "fts5" ∧
        (IsPlain clause → ∀ expression, ¬Refuses session.database table schema home expression)) := by
  have written := (reachable.has Database.Written.outlasting).database
  rw [step_resolve isOpen] at resolved
  cases run : (Catalog.resolve table schema : Attempt Database String).run { engine := session.database } with
  | mk answer after =>
    rw [run] at resolved
    obtain rfl : answer = .ok home := by
      cases answer with
      | ok name => simpa [Except.map] using resolved
      | error failure => cases resolved
    obtain ⟨found, held, member, named, there, finds⟩ := findTarget_resolved run written.toRegular
    obtain ⟨texts, consists⟩ := written.written found member held (List.mem_of_find?_eq_some there)
    have accepted : (!held.isView && Declaration.isFullText held.sql) = true ↔
        held.isView = false ∧ AnyMentions texts := by
      rw [Bool.and_eq_true, Bool.not_eq_true', isFullText_iff]
      exact and_congr_right fun shown => consists.mentions shown
    have refuses (expression : String) : Refuses session.database table schema home expression ↔
        held.isView = true ∨ ¬AnyMentions texts := by
      rw [refuses_iff finds, ← Bool.not_eq_true, accepted, not_and_or, Bool.not_eq_false]
    have taken (shown : held.isView = false) (mentions : AnyMentions texts) :
        ((ofTable table schema).findTarget.run { engine := session.database }).1 = .ok (.located home table) := by
      rw [finds, if_pos (accepted.2 ⟨shown, mentions⟩)]
    refine ⟨found, held, texts, member, named, there, consists, refuses, taken, ?_⟩
    intro kind
    obtain ⟨clause, listed, module⟩ := consists.clause kind
    refine ⟨clause, listed, module, fun plain expression refused => ?_⟩
    rcases (refuses expression).1 refused with view | silent
    · unfold Table.isFullText at kind
      unfold Table.isView at view
      split at view
      · simp [*] at kind
      · cases view
    · exact silent ⟨clause, listed, plain.mentions⟩

-- An ordinary table is taken because of the name of a column.
theorem probe_taken_column :
    let session := fresh.after [.build (.createTable "main" "t" { columns := [⟨"using fts5", ""⟩] })]
    Reachable (fun _ => True) session ∧ session.isClosed = false ∧
    (session.step (.lookup (.resolve "t" none))).1 = .ok (.text "main") ∧
    (∀ schema ∈ session.database.schemas, ∀ table ∈ schema.tables, table.isFullText = false) ∧
    ∀ expression, ¬Refuses session.database "t" none "main" expression := by
  intro session
  have reachable : Reachable (fun _ => True) session := (Reachable.opened _).after fun _ _ => trivial
  obtain ⟨isOpen, usable, ordinary, chosen⟩ : session.isClosed = false ∧ session.database.condition = .usable ∧
      session.database.schemas.all (fun schema => schema.tables.all fun table => !table.isFullText) = true ∧
      chosen? (Catalog.searched session.database) "t" none = some session.database.main := by decide
  obtain ⟨named, listed, shown⟩ : session.database.main.name = "main" ∧
      (Table.find? session.database.main.tables "t").isSome = true ∧
      (Table.find? session.database.main.tables "t").all
        (fun held => !held.isView && isFullText held.sql) = true := by decide +kernel
  have regular := (reachable.has Database.Regular.outlasting).database
  have unlocked : session.database.condition ≠ .locked := by rw [usable]; decide
  have reading : session.database.reading = .ok () := by rw [Database.reading, usable]
  have resolved : (session.step (.lookup (.resolve "t" none))).1 = .ok (.text "main") :=
    (resolve_eq_ok regular isOpen unlocked).2 ⟨reading, _, chosen, named, listed⟩
  refine ⟨reachable, isOpen, resolved, by simpa using ordinary, fun expression refused => ?_⟩
  obtain ⟨found, held, texts, member, name, there, consists, refuses, -, -⟩ :=
    probe_taken reachable isOpen resolved
  have same : found = session.database.main :=
    eq_of_sameName regular.apart member (by simp [Database.schemas]) (by rw [name, named, sameName_refl])
  rw [← same, there, Option.all_some, Bool.and_eq_true, Bool.not_eq_true'] at shown
  rcases (refuses expression).1 refused with view | silent
  · rw [shown.1] at view
    cases view
  · exact silent ((consists.mentions shown.1).1 (isFullText_iff.1 shown.2))

end Session

end TextQuery
