import TextQuery.Proofs.Session.Regular

set_option autoImplicit false

namespace TextQuery

open Engine Engine.Change Text

theorem Text.identifier_append_inj {a b : String} {x y : List Char} (first : x.head? ≠ some '"')
    (second : y.head? ≠ some '"') (same : (identifier a).toList ++ x = (identifier b).toList ++ y) :
    a = b ∧ x = y := by
  have written (name : String) (rest : List Char) :
      (identifier name).toList ++ rest = '"' :: (doubled '"' name.toList ++ '"' :: rest) := by
    simp [identifier, enclosed]
  rw [written, written] at same
  have read := congrArg (readEnclosed '"') (List.cons.inj same).2
  rw [readEnclosed_doubled _ first, readEnclosed_doubled _ second] at read
  obtain ⟨names, rest⟩ := Prod.mk.inj (Option.some.inj read)
  exact ⟨String.toList_inj.1 names, rest⟩

namespace Engine

theorem Statement.target_of_text {target : Target} {schema table expression other : String}
    (same : (Statement.matchProbe target expression).text =
      (Statement.matchProbe (.located schema table) other).text) : target = .located schema table := by
  have words : ".".toList.head? = some '.' ∧ " WHERE ".toList.head? = some ' ' ∧
      "temp.".toList.head? = some 't' ∧ "\"".toList.head? = some '"' := by decide
  have apart (word : String) (c : Char) (x : List Char) (begins : word.toList.head? = some c)
      (other : c ≠ '"') : (word.toList ++ x).head? ≠ some '"' := by
    rw [List.head?_append, begins]
    simpa using other
  have written (target : Target) (expression : String) : (Statement.matchProbe target expression).text.toList =
      "SELECT rowid FROM ".toList ++ ((source target).toList ++ (" WHERE ".toList ++
        ((identifier target.table).toList ++ " MATCH ?".toList))) := by
    have text : (Statement.matchProbe target expression).text =
        "SELECT rowid FROM " ++ source target ++ " WHERE " ++ identifier target.table ++ " MATCH ?" := rfl
    simp only [text, String.toList_append, List.append_assoc]
  have same := congrArg String.toList same
  rw [written, written] at same
  have same := List.append_cancel_left same
  cases target with
  | helper name =>
    -- There the name of the schema stands without quotes.
    have first := congrArg List.head? same
    have quoted : (identifier schema).toList.head? = some '"' := by simp [identifier, enclosed]
    simp only [source, String.toList_append, List.append_assoc, List.head?_append, words.2.2.1, quoted,
      Option.some_or] at first
    cases first
  | located home name =>
    simp only [source, String.toList_append, List.append_assoc] at same
    have dot (x : List Char) := apart "." '.' x words.1 (by decide)
    have blank (x : List Char) := apart " WHERE " ' ' x words.2.1 (by decide)
    obtain ⟨rfl, rest⟩ := identifier_append_inj (dot _) (dot _) same
    obtain ⟨rfl, -⟩ := identifier_append_inj (blank _) (blank _) ((List.append_right_inj _).1 rest)
    rfl

namespace Database

variable {database : Database}

theorem relation_home (fuel : Nat) {above : List (String × String)} {home : Schema} {held : Table}
    {relation : Relation} (made : database.relation fuel above home held = .ok relation)
    (own : home.name ≠ database.temp.name ∨ held.isView = false) : relation.home = home.name := by
  induction fuel generalizing above home held relation with
  | zero => cases made
  | succ fuel ih =>
    unfold Database.relation at made
    cases body : held.body with
    | ordinary | splitter | catalog | fullText =>
      rw [body] at made
      cases made
      rfl
    | view source =>
      rw [body] at made
      dsimp only at made
      have other : home.name ≠ database.temp.name := by
        rcases own with other | noView
        · exact other
        · rw [Table.isView, body] at noView
          cases noView
      split at made
      · cases made
      · split at made
        · rename_i inside under rest fault sources
          obtain ⟨found, read, made⟩ := exists_of_bind_eq_ok made
          obtain rfl := Except.ok.inj made
          have listed : (inside, under) ∈ (database.sourceTables home source).1 := by rw [sources]; simp
          unfold sourceTables at listed
          rw [if_neg (by simpa using other)] at listed
          obtain ⟨schema, member, named⟩ := List.mem_filterMap.1 listed
          obtain ⟨table, -, entry⟩ := Option.map_eq_some_iff.1 named
          obtain ⟨rfl, rfl⟩ := Prod.mk.inj entry
          rw [List.mem_singleton.1 member] at read
          exact (ih read (.inl other) : found.home = home.name)
        · cases made

-- A view that is found in a schema of the temporary name is a temporary one, or that is the name of the main schema.
theorem view_of_locate {schema table : String} {home : Schema} {held : Table}
    (located : database.locate schema table = .ok (home, held)) (temp : home.name = database.temp.name)
    (isView : held.isView = true) :
    sameName schema database.main.name = true ∨ (sameName schema database.temp.name = true ∧
      ∃ view ∈ database.temp.tables, view.isView = true ∧ sameName view.name table = true) := by
  obtain ⟨known, there⟩ := locate_eq_ok located
  have named : sameName database.temp.name schema = true := temp ▸ sameName_of_schema? known
  by_cases main : sameName database.main.name schema = true
  · exact .inl (sameName_symm main)
  · have first : database.schema? schema = some database.temp := by
      unfold schema? schemas
      rw [List.find?_cons_of_neg (by exact main), List.find?_cons_of_pos (by exact named)]
    obtain rfl := Option.some.inj (first.symm.trans known)
    refine .inr ⟨sameName_symm named, held, ?_⟩
    rcases Schema.find?_cases there with ⟨-, member, same⟩ | ⟨rfl, -⟩
    · exact ⟨member, isView, same⟩
    · cases isView

/-- Of tables of the caller, a match that is noted is of one in the main schema or of a temporary view. -/
def Noting (database : Database) : Prop :=
  ∀ schema table expression,
    [(Statement.matchProbe (.located schema table) expression).text] ∈ database.sound →
    sameName schema database.main.name = true ∨ (sameName schema database.temp.name = true ∧
      ∃ view ∈ database.temp.tables, view.isView = true ∧ sameName view.name table = true)

/-- A later state in which no other single statements are noted, and the temporary views are still there. -/
structure Forgoes (before after : Database) : Prop where
  main : after.main.name = before.main.name
  temp : after.temp.name = before.temp.name
  fewer : ∀ wording ∈ after.sound, wording.length = 1 → wording ∈ before.sound
  views : ∀ view ∈ before.temp.tables, view.isView = true →
    ∃ held ∈ after.temp.tables, held.isView = true ∧ held.name = view.name

theorem Forgoes.refl (database : Database) : database.Forgoes database :=
  ⟨rfl, rfl, fun _ member _ => member, fun view member isView => ⟨view, member, isView, rfl⟩⟩

theorem Noting.forgoes {after : Database} (noting : database.Noting) (forgoes : database.Forgoes after) :
    after.Noting := by
  intro schema table expression member
  rw [forgoes.main, forgoes.temp]
  rcases noting schema table expression (forgoes.fewer _ member rfl) with main | ⟨temp, view, inside, isView, same⟩
  · exact .inl main
  · obtain ⟨held, there, stays, named⟩ := forgoes.views view inside isView
    exact .inr ⟨temp, held, there, stays, by rwa [named]⟩

theorem Forgoes.within {after : Database} (forgoes : database.Forgoes after) (name : String)
    {edit : List Table → List Table}
    (stays : sameName name after.temp.name = true → ∀ view ∈ after.temp.tables, view.isView = true →
      ∃ held ∈ edit after.temp.tables, held.isView = true ∧ held.name = view.name) :
    database.Forgoes (after.within name edit) := by
  obtain ⟨⟨main, temp⟩, -, -, sound⟩ := within_frame after name edit
  refine ⟨main.trans forgoes.main, temp.trans forgoes.temp, by rw [sound]; exact forgoes.fewer, ?_⟩
  intro view member isView
  obtain ⟨held, there, kind, named⟩ := forgoes.views view member isView
  rcases within_tables after name edit with same | ⟨same, edited⟩
  · exact ⟨held, by rwa [same], kind, named⟩
  · obtain ⟨other, there, kind, again⟩ := stays same held there kind
    exact ⟨other, by rwa [edited], kind, again.trans named⟩

theorem lasting_forgoes (before : Database) :
    Lasting (fun _ _ => True) (fun wording => wording.length ≠ 1) before.Forgoes where
  noted _ _ _ _ forgoes := ⟨forgoes.main, forgoes.temp, forgoes.fewer, forgoes.views⟩
  read forgoes := ⟨forgoes.main, forgoes.temp, forgoes.fewer, forgoes.views⟩
  checked fewer forgoes :=
    ⟨forgoes.main, forgoes.temp, fun wording member => forgoes.fewer wording (fewer member), forgoes.views⟩
  several := id
  started several forgoes := by
    refine ⟨forgoes.main, forgoes.temp, ?_, forgoes.views⟩
    intro wording member single
    rcases List.mem_cons.1 member with rfl | member
    · exact absurd single several
    · exact forgoes.fewer wording member single
  reread forgoes := ⟨forgoes.main, forgoes.temp, by simp [forget], forgoes.views⟩
  undone _ first last := ⟨first.main, first.temp, last.fewer, first.views⟩
  written {database home name declaration _ rows} _ _ _ forgoes := by
    apply forgoes.within
    intro _ view member isView
    refine ⟨_, List.mem_map_of_mem member, ?_, Table.withRows_name⟩
    have other : ∀ declaration rows, view.body ≠ .ordinary declaration rows := by
      intro declaration rows body
      rw [Table.isView, body] at isView
      cases isView
    rcases view.withRows_cases name rows with same | ⟨declaration, rows, body, -⟩
    · rwa [same]
    · exact absurd body (other declaration rows)

-- All that steps of building do but drop tables.
theorem mayBuild_forgoes (before : Database) {building : Building}
    (noDrop : ∀ schema table, building ≠ .drop schema table) :
    MayBuild before.Forgoes (fun _ _ => True) building := by
  cases building with
  | attach schema | detach schema =>
    exact fun database forgoes _ => ⟨forgoes.main, forgoes.temp, forgoes.fewer, forgoes.views⟩
  | createTable | createView | createFullText =>
    intro home tables _ _ database forgoes _
    apply forgoes.within
    exact fun _ view member isView => ⟨view, List.mem_append_left _ member, isView, rfl⟩
  | insert | delete => exact fun _ _ _ _ => ⟨trivial, fun _ _ => trivial⟩
  | drop schema table => exact absurd rfl (noDrop schema table)
  | lock | unlock => exact fun database forgoes => ⟨forgoes.main, forgoes.temp, forgoes.fewer, forgoes.views⟩

namespace Noting

theorem steady : Steady Noting :=
  Indifferent.steady {
    noted := fun _ _ _ _ noting => noting
    read := fun noting => noting
    checked := fun fewer noting schema table expression member =>
      noting schema table expression (fewer member) }

theorem forget (database : Database) : database.forget.Noting := by
  intro schema table expression member
  cases member

theorem started (noting : database.Noting) {target : Target} {expression home : String}
    (reads : sameName home database.main.name = true → ∀ schema table, target = .located schema table →
      sameName schema database.main.name = true ∨ (sameName schema database.temp.name = true ∧
        ∃ view ∈ database.temp.tables, view.isView = true ∧ sameName view.name table = true)) :
    (start [(Statement.matchProbe target expression).text] home database).2.Noting := by
  rw [start_eq, touch_eq]
  split
  · rename_i main
    intro schema table other member
    rcases List.mem_cons.1 member with new | old
    · exact reads main schema table (Statement.target_of_text (List.singleton_inj.1 new.symm))
    · exact noting schema table other old
  · exact noting

theorem keeps_match (target : Target) (expression : String) : Keeps Noting (matchProbe target expression) := by
  unfold matchProbe
  extract_lets wording
  apply keeps_bind_find
  rintro ⟨home, held⟩ database located noting
  dsimp only
  have own : sameName home.name database.main.name = true → ∀ schema table, target = .located schema table →
      sameName schema database.main.name = true ∨ (sameName schema database.temp.name = true ∧
        ∃ view ∈ database.temp.tables, view.isView = true ∧ sameName view.name table = true) := by
    rintro main schema table rfl
    have named := sameName_of_schema? (locate_eq_ok located).1
    exact .inl (sameName_trans (sameName_symm named) main)
  have begun {home : String} {rest : Unit → Change Unit} (kept : ∀ done, Keeps Noting (rest done))
      (started : (start wording home database).2.Noting) :
      ((start wording home >>= rest) database).2.Noting := by
    cases ran : start wording home database with
    | mk answer after =>
      rw [ran] at started
      cases answer with
      | ok done =>
        rw [bind_ok _ ran]
        exact kept done after started
      | error fault =>
        rw [bind_error _ ran]
        exact started
  cases body : held.body with
  | fullText index =>
    exact begun (fun _ => keeps_searches steady home.name held.name index expression) (noting.started own)
  | ordinary | splitter | view | catalog =>
    refine holds_bind_find noting fun relation found => ?_
    rw [bind_lift]
    split
    · refine begun (fun _ => keeps_bind (keeps_lift _) fun rows => ?_) (noting.started ?_)
      · split
        · exact keeps_throw _
        · exact keeps_pure _
      · intro main
        by_cases same : relation.home = home.name
        · exact own (same ▸ main)
        · -- Whatever reads another schema than its own is a temporary view.
          have view : home.name = database.temp.name ∧ held.isView = true := by
            by_contra other
            refine same (relation_home _ found ?_)
            rw [not_and_or, Bool.not_eq_true] at other
            exact other
          rintro schema table rfl
          exact view_of_locate located view.1 view.2
    · exact noting

theorem keeps_drop (schema table : String) : Keeps Noting (drop schema table) := by
  have writing : Writing (fun _ _ => False) (fun wording => wording.length ≠ 1) Noting :=
    { noted := fun _ _ _ _ noting => noting
      read := fun noting => noting
      checked := steady.checked
      several := id
      started := by
        intro database wording several noting schema table expression member
        rcases List.mem_cons.1 member with rfl | old
        · exact absurd rfl several
        · exact noting schema table expression old
      written := fun never => never.elim }
  refine keeps_dropping writing (fun {database} _ => forget database) ?_
  intro home held database noting located gone
  rw [alter_eq]
  obtain ⟨⟨main, temp⟩, -, -, sound⟩ := within_frame database home.name
    (·.filter fun other => !(dropped held).any (sameName other.name))
  rcases within_tables database home.name (·.filter fun other => !(dropped held).any (sameName other.name))
    with same | ⟨named, -⟩
  · split
    · intro schema table expression member
      cases member
    · intro schema table expression member
      rw [sound] at member
      rw [main, temp, same]
      exact noting schema table expression member
  · rw [temp, if_pos named]
    intro schema table expression member
    cases member

theorem keeps_build (building : Building) : Keeps Noting (build building) := by
  by_cases drops : ∃ schema table, building = .drop schema table
  · obtain ⟨schema, table, rfl⟩ := drops
    unfold build
    extract_lets rest
    split
    · exact keeps_throw_bind _ _
    · exact keeps_drop schema table
  · intro database noting
    refine noting.forgoes (Change.keeps_build (lasting_forgoes database) (fun _ => ?_) database (.refl database))
    exact mayBuild_forgoes database fun schema table same => drops ⟨schema, table, same⟩

theorem added (noting : database.Noting) (name : String) (tables : List Table) :
    (database.within name (· ++ tables)).Noting := by
  refine noting.forgoes ((Forgoes.refl database).within name ?_)
  exact fun _ view member isView => ⟨view, List.mem_append_left _ member, isView, rfl⟩

theorem watched : Watched Noting := by
  intro α statement _ database noting
  suffices kept : Keeps Noting (Change.answer statement) from kept database noting
  apply keeps_answer_of steady
  cases statement with
  | createTokens table choice =>
    refine keeps_createTokens steady ?_ fun database _ _ _ _ => forget database
    exact fun database splitter noting _ _ => noting.added _ _
  | createProbe table columns =>
    refine keeps_createProbe steady ?_ fun database _ _ _ _ => forget database
    exact fun database tables noting _ _ _ => noting.added _ _
  | matchProbe target expression => exact keeps_match target expression
  | selectRow schema table rowid => exact keeps_selectRow steady schema table rowid
  | databaseList => exact keeps_bind keeps_get fun _ => keeps_pure _
  | selectTokens | tableExists | tableSql | tableInfo | foreignKeyList | foreignKeyCheck =>
    exact keeps_find _

theorem outlasting : Session.Outlasting (fun _ => True) Noting where
  opened condition schema table expression member := by cases member
  reopened _ := forget _
  watched := watched
  built _ := keeps_build _
  listed := by
    unfold Session.listHelpers
    refine keeps_bind (keeps_readCatalog steady) fun _ => keeps_bind keeps_get fun database => ?_
    exact keeps_bind (keeps_use steady _) fun _ => keeps_pure _

end Noting

end Database

end Engine

end TextQuery
