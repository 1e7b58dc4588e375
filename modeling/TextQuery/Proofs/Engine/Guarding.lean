import TextQuery.Proofs.Engine.Locked
import TextQuery.Proofs.Engine.Repeating
import TextQuery.Proofs.Session.Probes

set_option autoImplicit false

namespace TextQuery.Engine

open Text

/-- A match that has been found to read the main schema would be refused under a lock without a note of it too. -/
def Database.Refuses (database : Database) : Prop :=
  database.condition = .locked → ∀ target expression,
    [(Statement.matchProbe target expression).text] ∈ database.sound →
    (Change.answer (.matchProbe target expression) { database with sound := [] }).1 = .error .busy

/-- A lock guards all that reads the main schema, and helper tables still work under it. -/
structure Database.Guarded (database : Database) : Prop where
  refuses : database.Refuses
  serves : database.condition = .locked → database.isRead = true → ∀ columns expression,
    (Change.answer (.matchProbe (.helper (Validator.helper columns)) expression) database).1 ≠ .error .busy

namespace Change

variable {α : Type} {statement : Statement α} {tells : List Wording → List Wording → Prop}
  {one other before after : Database}

theorem tolerant_eq : Tolerant (Eq : List Wording → List Wording → Prop) where
  forgotten := rfl
  noted same := congrArg _ same
  resumed same := congrArg _ same

theorem tolerant_true : Tolerant fun _ _ => True := ⟨trivial, fun _ => trivial, fun _ => trivial⟩

theorem evened_resume_free (tolerant : Tolerant tells) {wording : Wording} (beside : one.Beside tells other)
    (admits : one.Admits wording) (also : other.Admits wording) :
    Evened tells (resume wording one) (resume wording other) := by
  rw [resume_eq admits, resume_eq also]
  obtain ⟨sound, isTempUsed, rfl, told⟩ := beside
  exact ⟨rfl, _, isTempUsed, rfl, tolerant.resumed told⟩

theorem evened_match (tolerant : Tolerant tells) {target : Target} {expression : String}
    (beside : one.Beside tells other)
    (resumed : Evened tells (resume [(Statement.matchProbe target expression).text] one)
      (resume [(Statement.matchProbe target expression).text] other)) :
    Evened tells (answer (.matchProbe target expression) one) (answer (.matchProbe target expression) other) := by
  refine evened_answer rfl rfl rfl rfl beside resumed fun ready later _ beside => ?_
  refine evened_bind (even_openTarget _ _ _ beside) fun _ opened left _ beside => ?_
  exact evened_matchProbe beside rfl tolerant.noted

theorem evened_unnoted (tolerant : Tolerant tells) (even : Even tells (respond statement) (respond statement))
    (beside : one.Beside tells other) (unnoted : [statement.text] ∉ one.sound) (also : [statement.text] ∉ other.sound) :
    Evened tells (answer statement one) (answer statement other) := by
  refine evened_answer rfl rfl rfl rfl beside (evened_resume_free tolerant beside (.inr unnoted) (.inr also)) ?_
  exact fun ready later _ beside => even_bind (even_openTarget statement) (fun _ => even) ready later beside

-- Whether the temporary schema has been used makes no difference to a match.
theorem match_of_idles (idles : before.Idles after) (target : Target) (expression : String) :
    (answer (.matchProbe target expression) after).1 = (answer (.matchProbe target expression) before).1 := by
  obtain ⟨isTempUsed, rfl⟩ := idles
  have beside : before.Beside Eq { before with isTempUsed } := ⟨before.sound, isTempUsed, rfl, rfl⟩
  exact (evened_match tolerant_eq beside (even_resume tolerant_eq (fun same => same ▸ Iff.rfl) _ _ beside)).1.symm

theorem hushed_construct (made : Except Fault α) (tables : α → List Table) (database : Database) :
    ((construct made >>= fun result => addTables database.temp.name (tables result)) database).2.sound = [] := by
  cases made with
  | error fault => rfl
  | ok result =>
    have constructed : construct (.ok result) database = (.ok result, database) := rfl
    rw [bind_ok _ constructed, addTables, alter_eq]
    obtain ⟨⟨-, temp⟩, -⟩ := Database.within_frame database database.temp.name (· ++ tables result)
    rw [temp, if_pos (sameName_refl _)]

theorem hushed_createTokens (table : String) (choice : TokenizerChoice) (database : Database) :
    (createTokens table choice database).2 = database ∨ (createTokens table choice database).2.sound = [] := by
  rw [createTokens_eq]
  cases TokenTable.readName choice.name with
  | error fault => exact .inl rfl
  | ok name =>
    dsimp only
    by_cases vacant : (database.temp.find? table).isNone = true
    · rw [if_pos vacant]
      exact .inr (hushed_construct _ (fun splitter => [⟨table, TokenTable.sql table choice, .splitter splitter⟩]) database)
    · rw [if_neg vacant]
      exact .inl rfl

theorem hushed_createProbe (table : String) (columns : List String) (database : Database) :
    (createProbe table columns database).2 = database ∨ (createProbe table columns database).2.sound = [] := by
  rw [createProbe_eq]
  split
  · split
    · exact .inl rfl
    · exact .inr (hushed_construct _ id database)
  · exact .inl rfl

end Change

namespace Database

open Change

variable {α : Type} {statement : Statement α} {one other before after database : Database}

theorem Regular.of_beside (regular : one.Regular) (beside : one.Beside Lacks other) : other.Regular := by
  have fewer := beside.told.fewer
  obtain ⟨sound, isTempUsed, rfl, -⟩ := beside
  exact { regular with noted := fun wording member => regular.noted wording (fewer wording member) }

theorem Regular.unnoted_creation (regular : database.Regular) (creation : statement.purpose = .creation) :
    [statement.text] ∉ database.sound := by
  have creates {table rest : String} : "CREATE VIRTUAL TABLE ".toList <+:
      ("CREATE VIRTUAL TABLE IF NOT EXISTS temp." ++ table ++ rest).toList :=
    prefix_append (prefix_append (by decide) _) _
  cases statement with
  | createTokens table choice => exact regular.unknown (prefix_append (prefix_append creates _) ")") (by decide)
  | createProbe table columns => exact regular.unknown (prefix_append (prefix_append creates _) ")") (by decide)
  | selectTokens | matchProbe | databaseList | tableExists | tableSql | tableInfo | foreignKeyList | foreignKeyCheck
  | selectRow => cases creation

theorem Regular.unnoted_selectTokens (regular : database.Regular) (table input : String) :
    [(Statement.selectTokens table input).text] ∉ database.sound := by
  have select : "SELECT token FROM ".toList <+:
      ("SELECT token FROM temp." ++ identifier table ++ " WHERE input = ? ORDER BY position").toList :=
    prefix_append (prefix_append (by decide) _) _
  exact regular.unknown select (by decide)

theorem Follows.selectTokens (follows : before.Follows after) (table input : String) :
    after.selectTokens table input = before.selectTokens table input := by
  simp only [Database.selectTokens, follows.temp, follows.locate, follows.relationOf, follows.touch]

theorem Refuses.of_hushed (hushed : database.sound = []) : database.Refuses := by
  intro _ target expression member
  rw [hushed] at member
  cases member

theorem Refuses.of_idles (refuses : before.Refuses) (idles : before.Idles after) : after.Refuses := by
  intro locked target expression member
  rw [idles.sound] at member
  have refused := refuses (idles.follows.condition ▸ locked) target expression member
  obtain ⟨isTempUsed, rfl⟩ := idles
  have quiet : ({ before with sound := [] } : Database).Idles { before with sound := [], isTempUsed } := ⟨isTempUsed, rfl⟩
  exact (match_of_idles quiet target expression).trans refused

-- A probe that is made stands behind the other tables, with its index behind it.
theorem createProbe_made (regular : before.Regular) {table : String} {columns : List String}
    (vacant : before.temp.find? table = none) (done : createProbe table columns before = (.ok (), after)) :
    after.sound = [] ∧ after.condition = before.condition ∧ after.isRead = before.isRead ∧
      ∃ sql index rest, after.temp.tables = before.temp.tables ++ ⟨table, sql, .fullText index⟩ :: rest := by
  rw [createProbe_eq, vacant, Option.isNone_none, if_pos rfl] at done
  by_cases many : columns.length > FullText.argumentLimit
  · rw [if_pos many] at done
    cases done
  · rw [if_neg many] at done
    cases made : FullText.make before.temp table (FullText.sql table fullTextClause (columns.map identifier))
        ((columns.map identifier).map String.toList) with
    | error fault =>
      rw [made] at done
      cases done
    | ok tables =>
      rw [made] at done
      have hushed := hushed_construct (.ok tables) id before
      rw [show (construct (.ok tables) >>= fun result => addTables before.temp.name (id result)) before = (.ok (), after)
        from done] at hushed
      have constructed : construct (.ok tables) before = (.ok tables, before) := rfl
      obtain ⟨later, added, there, condition, isRead⟩ := addTables_temp regular.main regular.temp tables
      rw [bind_ok _ constructed, added] at done
      obtain ⟨-, rfl⟩ := Prod.mk.inj done
      obtain ⟨index, -, -, -, rfl⟩ := FullText.make_eq_ok made
      exact ⟨hushed, condition, isRead, _, index, _, there⟩

theorem match_locked (regular : database.Regular) (locked : database.condition = .locked) {target : Target}
    {held : Table} {index : FullText} (located : database.locate target.schema target.table = .ok (database.main, held))
    (body : held.body = .fullText index) (opened : (database.main.name, held.name) ∉ database.unopened)
    {expression : String} (unnoted : [(Statement.matchProbe target expression).text] ∉ database.sound) :
    (Change.answer (.matchProbe target expression) database).1 = .error .busy := by
  obtain ⟨schema, table⟩ := regular.toClean.of_locate located
  have kept : database.sound.filter (· != [(Statement.matchProbe target expression).text]) = database.sound :=
    List.filter_eq_self.2 fun wording member => by simpa using ne_of_mem_of_not_mem member unnoted
  have answered : Change.answer (.matchProbe target expression) database = matching target expression database := by
    rw [match_eq (writable_matchProbe schema table expression) (.inr unnoted), kept]
  rw [answered, matching]
  have noView : held.isView = false := by rw [Table.isView, body]
  have targeted : openTarget (.matchProbe target expression) database = (.ok (), database) := by
    change (get >>= _ : Change Unit) database = _
    rw [bind_get, located]
    dsimp only
    unfold openTable
    rw [bind_get, underlying_other _ _ _ noView]
    dsimp only
    rw [if_neg (by simpa using opened)]
    rfl
  cases known : database.isRead with
  | false =>
    have stopped : readCatalog database = (.error .busy, database) := by
      rw [readCatalog_eq, locked, known]
      rfl
    rw [bind_error _ stopped]
  | true =>
    have read : readCatalog database = (.ok (), database) := by
      rw [readCatalog_eq, locked, known]
      rfl
    rw [bind_ok _ read, bind_ok _ targeted, matchProbe_fullText located body]
    have stopped : start [(Statement.matchProbe target expression).text] database.main.name database = (.error .busy,
        { database with sound := [(Statement.matchProbe target expression).text] :: database.sound }) := by
      rw [start_eq, if_pos (sameName_refl _), touch_eq]
      exact congrArg (·, _) (touch_main locked)
    rw [bind_error _ stopped]

theorem Guarded.not_refused (guarded : database.Guarded) (regular : database.Regular)
    (locked : database.condition = .locked) {columns : List String}
    (made : Change.answer (.createProbe (Validator.helper columns) columns) database = (.ok (), after))
    (expression : String) :
    (Change.answer (.matchProbe (.helper (Validator.helper columns)) expression) after).1 ≠ .error .busy := by
  have regularly : after.Regular := by
    have kept := Regular.outlasting.watched (.createProbe (Validator.helper columns) columns) rfl database regular
    change (Change.answer _ database).2.Regular at kept
    rwa [made] at kept
  rcases answer_locked (.createProbe (Validator.helper columns) columns) locked with
    ⟨fault, stopped, ran, -, -⟩ | ⟨ready, idles, known, ran⟩
  · rw [ran] at made
    cases made
  have known := known rfl
  have opened : openTarget (.createProbe (Validator.helper columns) columns) ready = (.ok (), ready) := rfl
  rw [ran, bind_ok _ opened] at made
  have responds : createProbe (Validator.helper columns) columns ready = (.ok (), after) := made
  cases there : ready.temp.find? (Validator.helper columns) with
  | some held =>
    rw [createProbe_eq, there, Option.isNone_some, if_neg (by simp)] at responds
    obtain ⟨-, rfl⟩ := Prod.mk.inj responds
    rw [match_of_idles idles]
    exact guarded.serves locked known columns expression
  | none =>
    obtain ⟨hushed, condition, isRead, sql, index, rest, tables⟩ :=
      createProbe_made (idles.regular regular) there responds
    intro refused
    obtain ⟨home, held, located, touched⟩ := match_reads (condition.trans (idles.follows.condition.trans locked))
      (isRead.trans (idles.isRead.trans known)) (by simp [hushed]) refused
    obtain ⟨found, entry⟩ := locate_eq_ok located
    have first : after.schema? (Target.helper (Validator.helper columns)).schema = some after.temp := by
      rw [← regularly.schema?_temp, regularly.temp]
      rfl
    obtain rfl := Option.some.inj (first.symm.trans found)
    rw [find?_private (isPrivate_probe columns)] at there
    have entry : after.temp.find? (Validator.helper columns) = some held := entry
    rw [find?_private (isPrivate_probe columns), Table.find?, tables, List.find?_append,
      show ready.temp.tables.find? _ = none from there, Option.none_or,
      List.find?_cons_of_pos (by exact sameName_refl _)] at entry
    obtain rfl := Option.some.inj entry
    rw [underlying_other _ _ _ rfl] at touched
    have main := touch_eq_busy touched
    rw [regularly.temp, regularly.main] at main
    revert main
    decide

theorem Refuses.of_noted (regular : database.Regular)
    (noted : ∀ target expression, [(Statement.matchProbe target expression).text] ∈ database.sound →
      ∃ held, database.locate target.schema target.table = .ok (database.main, held) ∧
        held.isFullText = true ∧ (database.main.name, held.name) ∉ database.unopened) : database.Refuses := by
  intro locked target expression member
  obtain ⟨held, located, fullText, opened⟩ := noted target expression member
  obtain ⟨index, body⟩ : ∃ index, held.body = .fullText index := by
    unfold Table.isFullText at fullText
    split at fullText
    · exact ⟨_, ‹_›⟩
    · cases fullText
  have hushed : database.Beside (fun _ _ => True) { database with sound := [] } := ⟨[], database.isTempUsed, rfl, trivial⟩
  have regularly : Database.Regular { database with sound := [] } := { regular with noted := List.forall_mem_nil _ }
  rw [← hushed.follows.locate] at located
  exact match_locked regularly locked located body opened List.not_mem_nil

theorem Guarded.of_noted (regular : database.Regular) (plain : ∀ table ∈ database.temp.tables, table.isView = false)
    (noted : ∀ target expression, [(Statement.matchProbe target expression).text] ∈ database.sound →
      ∃ held, database.locate target.schema target.table = .ok (database.main, held) ∧
        held.isFullText = true ∧ (database.main.name, held.name) ∉ database.unopened) : database.Guarded := by
  refine ⟨.of_noted regular noted, fun locked known columns expression refused => ?_⟩
  have first : database.schema? (Target.helper (Validator.helper columns)).schema = some database.temp := by
    rw [← regular.schema?_temp, regular.temp]
    rfl
  have apart : sameName database.temp.name database.main.name = false := by
    rw [regular.temp, regular.main]
    decide
  have unnoted : [(Statement.matchProbe (.helper (Validator.helper columns)) expression).text] ∉ database.sound := by
    intro member
    obtain ⟨_, located, -⟩ := noted _ _ member
    have same := Option.some.inj (first.symm.trans (locate_eq_ok located).1)
    rw [same, sameName_refl] at apart
    cases apart
  obtain ⟨home, held, located, touched⟩ := match_reads locked known unnoted refused
  obtain ⟨found, entry⟩ := locate_eq_ok located
  obtain rfl := Option.some.inj (first.symm.trans found)
  have entry : database.temp.find? (Validator.helper columns) = some held := entry
  rw [find?_private (isPrivate_probe columns)] at entry
  rw [underlying_other _ _ _ (plain held (List.mem_of_find?_eq_some entry))] at touched
  rw [touch_eq_busy touched] at apart
  cases apart

/-- Two databases, of which the second one lacks notes of matches that would be refused anyway. -/
structure Heeds (one other : Database) : Prop where
  beside : one.Beside Lacks other
  regular : one.Regular
  refuses : one.Refuses

theorem Heeds.evened_match (heeds : one.Heeds other) (target : Target) (expression : String) :
    Evened Lacks (Change.answer (.matchProbe target expression) one) (Change.answer (.matchProbe target expression) other) := by
  have beside := heeds.beside
  have resumed (admits : one.Admits [(Statement.matchProbe target expression).text])
      (also : other.Admits [(Statement.matchProbe target expression).text]) :=
    Change.evened_match Lacks.tolerant beside (evened_resume_free Lacks.tolerant beside admits also)
  by_cases locked : one.condition = .locked
  · have stays : other.condition = .locked := beside.follows.condition.trans locked
    by_cases noted : [(Statement.matchProbe target expression).text] ∈ one.sound
    · by_cases also : [(Statement.matchProbe target expression).text] ∈ other.sound
      · refine Change.evened_match Lacks.tolerant beside ?_
        rw [resume_locked locked, resume_locked stays, if_pos noted, if_pos also]
        exact ⟨rfl, beside⟩
      · have anew := heeds.refuses locked target expression noted
        have refused : (Change.answer (.matchProbe target expression) other).1 = .error .busy := by
          have free : ({ one with sound := [] } : Database).Beside (fun _ _ => True) other := by
            obtain ⟨sound, isTempUsed, rfl, -⟩ := beside
            exact ⟨sound, isTempUsed, rfl, trivial⟩
          rw [← anew]
          exact (Change.evened_match tolerant_true free
            (evened_resume_free tolerant_true free (.inr (by simp)) (.inr also))).1.symm
        have known : Change.answer (.matchProbe target expression) one = (.error .busy, one) := by
          unfold Change.answer at anew ⊢
          split at anew
          · exact absurd (Except.error.inj anew) (by decide)
          · rename_i writable
            rw [if_neg writable]
            exact bind_error _ (by rw [resume_locked locked, if_pos noted])
        obtain ⟨sound, isTempUsed, left, notes⟩ :=
          refused_match (heeds.regular.of_beside beside) stays (Prod.ext refused rfl)
        rw [known]
        refine ⟨refused.symm, ?_⟩
        have lacks := beside.told
        obtain ⟨_, _, rfl, -⟩ := beside
        refine ⟨sound, isTempUsed, left, ?_⟩
        rcases notes with rfl | rfl
        · exact lacks
        · exact {
            fewer := fun wording member => by
              rcases List.mem_cons.1 member with rfl | member
              · exact noted
              · exact lacks.fewer wording member
            several := fun wording member several => List.mem_cons_of_mem _ (lacks.several wording member several) }
    · exact resumed (.inr noted) (.inr fun member => noted (beside.told.fewer _ member))
  · exact resumed (.inl locked) (.inl (by rwa [beside.follows.condition]))

-- What has been noted is forgotten if anything is changed.
theorem Refuses.answered (refuses : database.Refuses) (usual : statement.Usual)
    (opens : Database.target? statement = none)
    (hushes : ∀ ready, (respond statement ready).2 = ready ∨ (respond statement ready).2.sound = []) :
    (Engine.answer statement database).2.Refuses := by
  by_cases locked : database.condition = .locked
  · change (Change.answer statement database).2.Refuses
    rcases answer_locked statement locked with ⟨fault, after, ran, idles, -⟩ | ⟨ready, idles, -, ran⟩
    · rw [ran]
      exact refuses.of_idles idles
    · have opened : openTarget statement ready = (.ok (), ready) := by
        unfold openTarget
        rw [opens]
        rfl
      rw [ran, bind_ok _ opened]
      rcases hushes ready with same | hushed
      · rw [same]
        exact refuses.of_idles idles
      · exact .of_hushed hushed
  · have stays := watched_condition database.condition statement usual database rfl
    exact fun also => absurd (stays.symm.trans also) locked

theorem Heeds.agreed (usual : statement.Usual) (opens : Database.target? statement = none)
    (even : Even Lacks (respond statement) (respond statement))
    (hushes : ∀ ready, (respond statement ready).2 = ready ∨ (respond statement ready).2.sound = [])
    (unnoted : ∀ database : Database, database.Regular → [statement.text] ∉ database.sound) :
    Agreed Heeds statement := by
  intro one other heeds
  have evened := evened_unnoted Lacks.tolerant even heeds.beside (unnoted one heeds.regular)
    (unnoted other (heeds.regular.of_beside heeds.beside))
  exact ⟨evened.1, fun _ _ => trivial, evened.2, Regular.outlasting.watched statement usual one heeds.regular,
    heeds.refuses.answered usual opens hushes⟩

theorem Heeds.agreed_lookup (lookup : statement.purpose = .lookup) (opens : Database.target? statement = none) :
    Agreed Heeds statement := by
  refine Heeds.agreed (usual_of_lookup lookup) opens (even_respond lookup) (fun ready => .inl ?_)
    fun database regular => regular.unknown_lookup lookup
  cases statement with
  | createTokens | createProbe | selectTokens | matchProbe => cases lookup
  | tableInfo | selectRow => cases opens
  | databaseList | tableExists | tableSql | foreignKeyList | foreignKeyCheck => rfl

theorem Heeds.agreed_createTokens (choice : TokenizerChoice) :
    Agreed Heeds (.createTokens (Tokenizer.helper choice) choice) :=
  Heeds.agreed rfl rfl (even_createTokens Lacks.tolerant _ _) (hushed_createTokens _ _)
    fun _ regular => regular.unnoted_creation rfl

theorem Heeds.agreed_createProbe (columns : List String) :
    Agreed Heeds (.createProbe (Validator.helper columns) columns) :=
  Heeds.agreed rfl rfl (even_createProbe Lacks.tolerant _ _) (hushed_createProbe _ _)
    fun _ regular => regular.unnoted_creation rfl

theorem Heeds.agreed_selectTokens (table input : String) : Agreed Heeds (.selectTokens table input) :=
  Heeds.agreed trivial rfl (even_find fun follows => follows.selectTokens table input) (fun _ => .inl rfl)
    fun _ regular => regular.unnoted_selectTokens table input

end Database

end TextQuery.Engine
