import TextQuery.Proofs.Engine.Pairing
import TextQuery.Proofs.ForeignKey.Checking
import TextQuery.Proofs.Session.Noting

set_option autoImplicit false

namespace TextQuery

open Engine Engine.Change Text

namespace Engine

namespace Database

variable {base one other database : Database}

theorem Regular.unknown_lookup {α : Type} (regular : database.Regular) {statement : Statement α}
    (lookup : statement.purpose = .lookup) : [statement.text] ∉ database.sound := by
  have exists_ {schema : String} : "SELECT 1 FROM ".toList <+:
      ("SELECT 1 FROM " ++ Statement.catalog schema
        ++ " WHERE type IN ('table', 'view') AND name = ? COLLATE NOCASE").toList :=
    prefix_append (prefix_append List.prefix_rfl _) _
  have sql {schema : String} : "SELECT sql FROM ".toList <+:
      ("SELECT sql FROM " ++ Statement.catalog schema
        ++ " WHERE type = 'table' AND name = ? COLLATE NOCASE").toList :=
    prefix_append (prefix_append List.prefix_rfl _) _
  have row {schema table : String} : "SELECT * FROM ".toList <+: ("SELECT * FROM " ++ identifier schema
      ++ "." ++ identifier table ++ " WHERE rowid = ?").toList :=
    prefix_append (prefix_append (prefix_append (prefix_append List.prefix_rfl _) _) _) _
  have pragma {schema name : String} : "PRAGMA ".toList <+: (Statement.pragma schema name).toList :=
    prefix_append (prefix_append (prefix_append List.prefix_rfl _) _) _
  cases statement with
  | createTokens | createProbe | selectTokens | matchProbe => cases lookup
  | databaseList => exact regular.unknown (show "PRAGMA ".toList <+: "PRAGMA database_list".toList by decide) (by decide)
  | tableExists schema table => exact regular.unknown exists_ (by decide)
  | tableSql schema table => exact regular.unknown sql (by decide)
  | tableInfo schema table => exact regular.unknown (prefix_append (prefix_append pragma _) _) (by decide)
  | foreignKeyList schema table => exact regular.unknown (prefix_append (prefix_append pragma _) _) (by decide)
  | foreignKeyCheck schema table =>
    cases table with
    | none => exact regular.unknown pragma (by decide)
    | some table => exact regular.unknown (prefix_append (prefix_append pragma _) _) (by decide)
  | selectRow schema table rowid => exact regular.unknown row (by decide)

/-- Two states of a database with the tables that it had, in which different statements may have been noted. -/
structure Twin (base one other : Database) : Prop where
  follows : base.Follows one
  beside : one.Beside (fun _ _ => True) other
  regular : one.Regular
  alsoRegular : other.Regular
  noting : one.Noting
  alsoNoting : other.Noting

theorem Twin.refl (regular : base.Regular) (noting : base.Noting) : base.Twin base base :=
  ⟨.refl base, ⟨base.sound, base.isTempUsed, rfl, trivial⟩, regular, regular, noting, noting⟩

-- All that is asked of a table makes no other ones.
theorem follows_answer {α : Type} {statement : Statement α} (makes : statement.purpose ≠ .creation)
    (follows : base.Follows one) : base.Follows (Change.answer statement one).2 := by
  have steadfast : Steadfast (fun _ => True) base.Follows :=
    { base.steady_follows with started := fun _ follows => { follows with } }
  have looks : Looks base.Follows (fun _ => True) statement := by
    cases statement with
    | createTokens | createProbe => exact makes rfl
    | matchProbe => exact fun _ _ _ _ _ _ => .inl trivial
    | selectTokens | databaseList | tableExists | tableSql | tableInfo | foreignKeyList | foreignKeyCheck
    | selectRow => trivial
  exact keeps_look steadfast looks one follows

theorem Twin.answered {α : Type} {first second : Statement α} (twin : base.Twin one other)
    (makes : first.purpose ≠ .creation) (usual : first.Usual) (alsoUsual : second.Usual)
    (evened : Evened (fun _ _ => True) (Change.answer first one) (Change.answer second other)) :
    base.Twin (Change.answer first one).2 (Change.answer second other).2 where
  follows := follows_answer makes twin.follows
  beside := evened.2
  regular := Regular.outlasting.watched first usual one twin.regular
  alsoRegular := Regular.outlasting.watched second alsoUsual other twin.alsoRegular
  noting := Noting.watched first usual one twin.noting
  alsoNoting := Noting.watched second alsoUsual other twin.alsoNoting

end Database

end Engine

/-- Twins give the same answer to two statements, one with a property if it is no fault. -/
def Akin {α : Type} (base : Database) (first second : Statement α) (Q : α → Prop := fun _ => True) : Prop :=
  ∀ one other, base.Twin one other → (Change.answer first one).1 = (Change.answer second other).1 ∧
    (∀ value, (Change.answer first one).1 = .ok value → Q value) ∧
    base.Twin (Change.answer first one).2 (Change.answer second other).2

section

variable {α : Type} {base : Database} {first second : Statement α}

theorem usual_of_lookup (lookup : first.purpose = .lookup) : first.Usual := by
  cases first with
  | createTokens | createProbe | selectTokens | matchProbe => cases lookup
  | databaseList | tableExists | tableSql | tableInfo | foreignKeyList | foreignKeyCheck | selectRow => trivial

theorem even_respond {tells : List Wording → List Wording → Prop} (lookup : first.purpose = .lookup) :
    Even tells (respond first) (respond first) := by
  cases first with
  | createTokens | createProbe | selectTokens | matchProbe => cases lookup
  | databaseList =>
    apply even_bind_get
    intro one other beside
    rw [beside.follows.schemas]
    exact even_pure _
  | tableExists schema table | tableSql schema table =>
    apply even_find
    intro before after follows
    simp only [Database.tableExists, Database.tableSql, Database.listed, follows.schemaOr, follows.touch]
  | tableInfo schema table =>
    apply even_find
    intro before after follows
    simp only [Database.tableInfo, Database.described, follows.schemaOr, follows.touch, follows.relationOf]
  | foreignKeyList schema table =>
    apply even_find
    intro before after follows
    simp only [Database.foreignKeyList, Database.described, follows.schemaOr, follows.touch]
  | foreignKeyCheck schema table => exact even_find fun follows => follows.foreignKeyCheck schema table
  | selectRow schema table rowid => exact even_selectRow schema table rowid

theorem akin_lookup (lookup : first.purpose = .lookup) (also : second.purpose = .lookup)
    (nul : '\x00' ∈ first.text.toList ↔ '\x00' ∈ second.text.toList)
    (pragma : Database.pragmaSchema? first = Database.pragmaSchema? second)
    (looksUp : Database.looksUp first = Database.looksUp second)
    (used : Database.usedSchema? first = Database.usedSchema? second)
    (same : ∀ after, base.Follows after → (openTarget first >>= fun _ => respond first) after =
      (openTarget second >>= fun _ => respond second) after) : Akin base first second := by
  intro one other twin
  have resumed : Evened (fun _ _ => True) (resume [first.text] one) (resume [second.text] other) := by
    rw [resume_eq (.inr (twin.regular.unknown_lookup lookup)),
      resume_eq (.inr (twin.alsoRegular.unknown_lookup also))]
    obtain ⟨sound, isTempUsed, rfl, -⟩ := twin.beside
    exact ⟨rfl, _, isTempUsed, rfl, trivial⟩
  have evened : Evened (fun _ _ => True) (Change.answer first one) (Change.answer second other) := by
    refine evened_answer (Bool.eq_iff_iff.2 (by simpa using nul)) pragma looksUp used twin.beside resumed ?_
    intro after later follows beside
    rw [same after (twin.follows.trans follows)]
    exact even_bind (even_openTarget second) (fun _ => even_respond also) after later beside
  refine ⟨evened.1, fun _ _ => trivial, twin.answered ?_ (usual_of_lookup lookup) (usual_of_lookup also) evened⟩
  rw [lookup]
  decide

theorem agreed_lookup (lookup : first.purpose = .lookup) : Agreed base.Twin first :=
  akin_lookup lookup lookup Iff.rfl rfl rfl rfl fun _ _ => rfl

theorem looked_of_respond {α : Type} {statement : Statement α} {look : Database → Except Fault α}
    (opens : Database.target? statement = none) (responds : respond statement = find look) (after : Database) :
    (openTarget statement >>= fun _ => respond statement) after = (look after, after) := by
  have opened : openTarget statement after = (.ok (), after) := by
    unfold openTarget
    rw [opens]
    rfl
  rw [bind_ok _ opened, responds]
  rfl

theorem Akin.tells {Q : α → Prop} (akin : Akin base first second)
    (told : ∀ one value after, base.Follows one → respond first one = (.ok value, after) → Q value) :
    Akin base first second Q := by
  intro one other twin
  obtain ⟨same, -, after⟩ := akin one other twin
  refine ⟨same, fun value answered => ?_, after⟩
  obtain ⟨ready, follows, responds⟩ := answer_responds (Prod.ext answered rfl)
  exact told ready value _ (twin.follows.trans follows) responds

end

section

variable {base : Database} {one other : String} (same : sameName one other = true)
include same

theorem nul_congr : '\x00' ∈ (identifier one).toList ↔ '\x00' ∈ (identifier other).toList := by
  rw [mem_identifier (by decide), mem_identifier (by decide)]
  exact ⟨fun nul => by_contra fun writable => writable_congr (sameName_symm same) writable nul,
    fun nul => by_contra fun writable => writable_congr same writable nul⟩

theorem akin_pragma {α : Type} {first second : Statement α} (lookup : first.purpose = .lookup)
    (also : second.purpose = .lookup) {schema name : String}
    (text : first.text = Statement.pragma schema name ++ identifier one ++ ")")
    (alsoText : second.text = Statement.pragma schema name ++ identifier other ++ ")")
    (pragma : Database.pragmaSchema? first = Database.pragmaSchema? second)
    (looksUp : Database.looksUp first = Database.looksUp second)
    (used : Database.usedSchema? first = Database.usedSchema? second)
    (agree : ∀ after, base.Follows after → (openTarget first >>= fun _ => respond first) after =
      (openTarget second >>= fun _ => respond second) after) : Akin base first second := by
  refine akin_lookup lookup also ?_ pragma looksUp used agree
  rw [text, alsoText]
  simp only [String.toList_append, List.mem_append, nul_congr same]

structure Engine.Database.Finds (base : Database) (schema table : String) (home : Schema) : Prop where
  known : base.schema? schema = some home
  there : (Table.find? home.tables table).isSome = true
  untouched : base.touch home.name = .ok ()

theorem akin_tableExists (schema : String) :
    Akin base (.tableExists schema one) (.tableExists schema other) fun found =>
      found = true → ∃ home, base.Finds schema one home := by
  have text : (Statement.tableExists schema one).text = (Statement.tableExists schema other).text := rfl
  refine Akin.tells (akin_lookup rfl rfl (by rw [text]) rfl rfl rfl fun after _ => ?_) ?_
  · have alike : after.tableExists schema one = after.tableExists schema other := by
      unfold Database.tableExists
      simp only [Table.find?_congr same]
    rw [looked_of_respond rfl rfl, looked_of_respond rfl rfl, alike]
  · rintro ready found after follows responds rfl
    have exist : ready.tableExists schema one = .ok true := congrArg Prod.fst responds
    unfold Database.tableExists Database.listed at exist
    obtain ⟨home, looked, exist⟩ := exists_of_bind_eq_ok exist
    obtain ⟨known, named, looked⟩ := exists_of_bind_eq_ok looked
    obtain ⟨_, untouched, looked⟩ := exists_of_bind_eq_ok looked
    obtain rfl := Except.ok.inj looked
    rw [Database.schemaOr_eq_ok, follows.schema?] at named
    rw [follows.touch] at untouched
    exact ⟨known, named, Except.ok.inj exist, untouched⟩

theorem akin_tableSql {schema : String} {home : Schema} (finds : base.Finds schema one home) :
    Akin base (.tableSql schema one) (.tableSql schema other) fun sql => ∃ held,
      Table.find? home.tables one = some held ∧ (held.isView = true → sql = none) := by
  have text : (Statement.tableSql schema one).text = (Statement.tableSql schema other).text := rfl
  refine Akin.tells (akin_lookup rfl rfl (by rw [text]) rfl rfl rfl fun after _ => ?_) ?_
  · have alike : after.tableSql schema one = after.tableSql schema other := by
      unfold Database.tableSql
      simp only [Table.find?_congr same]
    rw [looked_of_respond rfl rfl, looked_of_respond rfl rfl, alike]
  · intro ready sql after follows responds
    obtain ⟨held, there⟩ := Option.isSome_iff_exists.1 finds.there
    have stored : ready.tableSql schema one = .ok sql := congrArg Prod.fst responds
    rw [Database.tableSql_eq ((follows.schema? schema).trans finds.known), follows.touch, finds.untouched,
      there] at stored
    refine ⟨held, there, fun isView => ?_⟩
    obtain rfl := Except.ok.inj stored
    simp [isView]

theorem akin_foreignKeyList (schema : String) :
    Akin base (.foreignKeyList schema one) (.foreignKeyList schema other) := by
  have text (table : String) : (Statement.foreignKeyList schema table).text =
      Statement.pragma schema "foreign_key_list(" ++ identifier table ++ ")" := rfl
  refine akin_pragma same rfl rfl (text one) (text other) rfl rfl rfl fun after _ => ?_
  have alike : after.foreignKeyList schema one = after.foreignKeyList schema other := by
    unfold Database.foreignKeyList
    simp only [Schema.find?_congr same]
  rw [looked_of_respond rfl rfl, looked_of_respond rfl rfl, alike]

theorem akin_foreignKeyCheck {schema : String} {home : Schema} (finds : base.Finds schema one home) :
    Akin base (.foreignKeyCheck schema (some one)) (.foreignKeyCheck schema (some other)) fun found =>
      ∃ held, Table.find? home.tables one = some held ∧ ∀ violation ∈ found, violation.originTable = held.name := by
  obtain ⟨held, there⟩ := Option.isSome_iff_exists.1 finds.there
  have inside := ForeignKey.find?_of_tables there
  have text (table : String) : (Statement.foreignKeyCheck schema (some table)).text =
      Statement.pragma schema "foreign_key_check(" ++ identifier table ++ ")" := rfl
  refine Akin.tells (akin_pragma same rfl rfl (text one) (text other) rfl rfl rfl fun after follows => ?_) ?_
  · have known := (follows.schema? schema).trans finds.known
    have alike : after.foreignKeyCheck schema (some one) = after.foreignKeyCheck schema (some other) := by
      rw [Database.foreignKeyCheck_eq known, Database.foreignKeyCheck_eq known, Schema.checked?, Schema.checked?,
        ← Schema.find?_congr same, inside]
      rfl
    rw [looked_of_respond rfl rfl, looked_of_respond rfl rfl, alike]
  · intro ready found after follows responds
    have checked : ready.foreignKeyCheck schema (some one) = .ok found := congrArg Prod.fst responds
    obtain ⟨also, origin, known, listed, violated⟩ := Database.foreignKeyCheck_eq_ok checked
    obtain rfl := Option.some.inj (known.symm.trans ((follows.schema? schema).trans finds.known))
    obtain rfl := Option.some.inj (listed.symm.trans inside)
    exact ⟨origin, there, fun violation member => (Table.ordinary_of_violations violated violation member).1⟩

def Engine.Database.Serves (base : Database) (schema table : String) : Prop :=
  ∃ home held, base.Finds schema table home ∧ Table.find? home.tables table = some held ∧ held.isView = false

theorem Engine.Database.Serves.admits {database : Database} {schema : String} (serves : base.Serves schema one)
    (follows : base.Follows database) (regular : database.Regular) (noting : database.Noting)
    (expression : String) :
    database.Admits [(Statement.matchProbe (.located schema other) expression).text] := by
  obtain ⟨home, held, ⟨known, -, untouched⟩, there, noView⟩ := serves
  have named := Database.sameName_of_schema? known
  by_cases locked : database.condition = .locked
  · refine .inr fun noted => ?_
    rw [← follows.schema?] at known
    rcases noting schema other expression noted with main | ⟨temp, view, member, isView, called⟩
    · -- The schema would have been found to be locked.
      unfold Database.touch at untouched
      rw [← follows.condition, locked, ← follows.main, sameName_trans named main] at untouched
      cases untouched
    · obtain rfl : database.temp = home :=
        regular.home_eq known (by simp [Database.schemas]) (sameName_symm temp)
      have found := (Table.find?_congr same _).symm.trans there
      have listed := List.mem_of_find?_eq_some found
      have first : sameName held.name other = true := by simpa using List.find?_some found
      obtain rfl : view = held :=
        eq_of_sameName (regular.distinct _ (by simp [Database.schemas])) member listed
          (sameName_trans called (sameName_symm first))
      rw [noView] at isView
      cases isView
  · exact .inl locked

theorem akin_match {schema : String} (serves : base.Serves schema one) (expression : String) :
    Akin base (.matchProbe (.located schema one) expression) (.matchProbe (.located schema other) expression) := by
  intro first second twin
  have nul : '\x00' ∈ (Statement.matchProbe (.located schema one) expression).text.toList ↔
      '\x00' ∈ (Statement.matchProbe (.located schema other) expression).text.toList := by
    have text (table : String) : (Statement.matchProbe (.located schema table) expression).text =
        "SELECT rowid FROM " ++ (identifier schema ++ "." ++ identifier table) ++ " WHERE " ++ identifier table
          ++ " MATCH ?" := rfl
    rw [text, text]
    simp only [String.toList_append, List.mem_append, nul_congr same]
  have resumed : Evened (fun _ _ => True)
      (resume [(Statement.matchProbe (.located schema one) expression).text] first)
      (resume [(Statement.matchProbe (.located schema other) expression).text] second) := by
    rw [resume_eq (serves.admits (sameName_refl one) twin.follows twin.regular twin.noting expression),
      resume_eq (serves.admits same (twin.follows.trans twin.beside.follows) twin.alsoRegular
        twin.alsoNoting expression)]
    obtain ⟨sound, isTempUsed, rfl, -⟩ := twin.beside
    exact ⟨rfl, _, isTempUsed, rfl, trivial⟩
  obtain ⟨home, held, finds, there, -⟩ := serves
  have located {table : String} (named : sameName one table = true) :
      base.locate schema table = .ok (home, held) := by
    unfold Database.locate
    rw [Database.schemaOr_eq_ok.2 finds.known]
    simp only [bind, Except.bind, ← Schema.find?_congr named, ForeignKey.find?_of_tables there]
    rfl
  have evened : Evened (fun _ _ => True) (Change.answer (.matchProbe (.located schema one) expression) first)
      (Change.answer (.matchProbe (.located schema other) expression) second) := by
    refine evened_answer (Bool.eq_iff_iff.2 (by simpa using nul)) rfl rfl rfl twin.beside resumed ?_
    intro after later follows beside
    have follows := twin.follows.trans follows
    have opening : Evened (fun _ _ => True)
        (openTarget (.matchProbe (.located schema one) expression) after)
        (openTarget (.matchProbe (.located schema other) expression) later) := by
      change Evened _ ((get >>= fun database => _ : Change Unit) after)
        ((get >>= fun database => _ : Change Unit) later)
      rw [bind_get, bind_get]
      dsimp only [Target.schema, Target.table]
      rw [follows.locate, (follows.trans beside.follows).locate, located (sameName_refl one), located same]
      exact even_openTable home held after later beside
    refine evened_bind opening fun _ opened later ran beside => ?_
    have kept := keeps_openTarget base.steady_follows (.matchProbe (.located schema one) expression) after follows
    rw [ran] at kept
    refine evened_matchProbe beside ?_ fun _ => trivial
    simp only [Target.schema, Target.table]
    rw [kept.locate, kept.locate, located (sameName_refl one), located same]
  exact ⟨evened.1, fun _ _ => trivial, twin.answered (fun makes => by cases makes) trivial trivial evened⟩

end

end TextQuery
