import TextQuery.Engine.Script
import TextQuery.Proofs.Engine.Declaring
import TextQuery.Proofs.Engine.RowKeeping

set_option autoImplicit false

namespace TextQuery.Engine.Change

variable {P : Database → Prop} {mayWrite : String → String → Prop} {mayNote : Wording → Prop}

theorem alter_eq (schema : String) (edit : List Table → List Table) (database : Database) :
    alter schema edit database =
      (.ok (), if Text.sameName schema (database.within schema edit).temp.name then
        { database.within schema edit with sound := [] } else database.within schema edit) := by
  have edited : within schema edit database = (.ok (), database.within schema edit) := rfl
  unfold alter
  rw [bind_ok _ edited, bind_get]
  split <;> rfl

-- The table that a statement is about is opened if there is one.
def openTarget {α : Type} (statement : Statement α) : Change Unit :=
  (Database.target? statement).forM fun (schema, table) => do
    match (← get).locate schema table with
    | .ok (home, held) => openTable home held
    | .error _ => pure ()

section

variable (steady : Steady P)
include steady

theorem keeps_selectRow (schema table : String) (rowid : Int) :
    Keeps P (selectRow schema table rowid) := by
  unfold selectRow
  refine keeps_bind (keeps_find _) ?_
  rintro ⟨home, held⟩
  refine keeps_bind (keeps_find _) ?_
  intro relation
  refine keeps_bind (keeps_lift _) ?_
  intro _
  extract_lets rest
  have kept : ∀ done, Keeps P (rest done) := by
    intro _
    refine keeps_bind (keeps_touch _) ?_
    intro _
    refine keeps_bind (keeps_beginReading steady _ _) ?_
    intro _
    exact keeps_bind (keeps_lift _) fun _ => keeps_pure _
  split
  · exact keeps_throw_bind _ _
  · exact kept ()

theorem keeps_openTarget {α : Type} (statement : Statement α) : Keeps P (openTarget statement) := by
  apply keeps_option_forM
  rintro ⟨schema, table⟩ -
  refine keeps_bind keeps_get ?_
  intro database
  split
  · exact keeps_openTable steady _ _
  · exact keeps_pure _

theorem keeps_answer_of {α : Type} {statement : Statement α} (kept : Keeps P (respond statement)) :
    Keeps P (answer statement) := by
  unfold answer
  extract_lets last rest
  have keptLast : ∀ done, Keeps P (last done) := by
    intro _
    refine keeps_bind (keeps_option_forM fun schema _ => keeps_use steady schema) ?_
    intro _
    exact keeps_bind (keeps_openTarget steady statement) fun _ => kept
  have keptRest : ∀ done, Keeps P (rest done) := by
    intro _
    refine keeps_bind (keeps_resume steady _) ?_
    intro _
    refine keeps_bind (keeps_option_forM fun schema _ => ?_) ?_
    · exact keeps_bind (keeps_find _) fun _ => keeps_use steady schema
    intro _
    split
    · exact keeps_bind (keeps_readCatalog steady) keptLast
    · exact keptLast ()
  split
  · exact keeps_throw_bind _ _
  · exact keptRest ()

theorem keeps_lookup {α : Type} {statement : Statement α} (lookup : statement.purpose = .lookup) :
    Keeps P (answer statement) := by
  apply keeps_answer_of steady
  cases statement with
  | createTokens | createProbe | selectTokens | matchProbe => cases lookup
  | selectRow schema table rowid => exact keeps_selectRow steady schema table rowid
  | databaseList => exact keeps_bind keeps_get fun _ => keeps_pure _
  | tableExists | tableSql | tableInfo | foreignKeyList | foreignKeyCheck => exact keeps_find _

theorem keeps_searches (home table : String) (index : FullText) (expression : String) :
    Keeps P (do
      let query ← lift ((Expression.query? index.scope expression).mapError fun fault =>
        Fault.operational fault.message)
      query.forM (search home table index)) := by
  refine keeps_bind (keeps_lift _) ?_
  intro query
  exact keeps_option_forM fun found _ => keeps_search steady _ _ _ found

theorem alter_holds {schema : String} {edit : List Table → List Table} {database : Database}
    (holds : P (database.within schema edit)) : P (alter schema edit database).2 := by
  rw [alter_eq]
  split
  · exact steady.checked (by simp) holds
  · exact holds

theorem keeps_vacant (schema name : String) : Keeps P (vacant schema name) := by
  unfold vacant
  refine keeps_bind (keeps_find _) ?_
  intro found
  extract_lets rest
  have kept : ∀ done, Keeps P (rest done) := by
    intro _
    refine keeps_bind (keeps_readCatalog steady) ?_
    intro _
    split
    · exact keeps_throw _
    · exact keeps_bind (keeps_use steady _) fun _ => keeps_pure _
  split
  · exact keeps_throw_bind _ _
  · exact kept ()

end

def MayMatch (P : Database → Prop) (mayNote : Wording → Prop) (target : Target) : Prop :=
  ∀ expression (database : Database) (home : Schema) (held : Table), P database →
    database.locate target.schema target.table = .ok (home, held) →
    mayNote [(Statement.matchProbe target expression).text] ∨
      (held.isFullText = true ∧ Text.sameName home.name database.main.name = false)

section

variable (steadfast : Steadfast mayNote P)
include steadfast

theorem keeps_matchProbe {target : Target} (may : MayMatch P mayNote target) (expression : String) :
    Keeps P (matchProbe target expression) := by
  unfold matchProbe
  extract_lets wording
  apply keeps_bind_find
  rintro ⟨home, held⟩ database located holds
  dsimp only
  rcases may expression database home held holds located with noted | ⟨isFullText, apart⟩
  · cases held.body with
    | fullText index =>
      exact keeps_bind (keeps_start (fun _ => steadfast.started noted) _)
        (fun _ => keeps_searches steadfast.toSteady _ _ index expression) database holds
    | ordinary | splitter | view | catalog =>
      refine keeps_bind (keeps_find _) (fun relation => ?_) database holds
      refine keeps_bind (keeps_lift _) ?_
      intro _
      refine keeps_bind (keeps_start (fun _ => steadfast.started noted) _) ?_
      intro _
      refine keeps_bind (keeps_lift _) ?_
      intro rows
      split
      · exact keeps_throw _
      · exact keeps_pure _
  · unfold Table.isFullText at isFullText
    split at isFullText
    · rename_i index body
      rw [body]
      -- A match in another schema than the main one is never noted.
      have quiet : start wording home.name database = (database.touch home.name, database) := by
        rw [start_eq, apart]
        rfl
      cases touched : database.touch home.name with
      | ok _ =>
        rw [touched] at quiet
        simp only [bind_ok _ quiet]
        exact keeps_searches steadfast.toSteady home.name held.name index expression database holds
      | error fault =>
        rw [touched] at quiet
        simp only [bind_error _ quiet]
        exact holds
    · cases isFullText

def Looks (P : Database → Prop) (mayNote : Wording → Prop) {α : Type} : Statement α → Prop
  | .createTokens _ _ | .createProbe _ _ => False
  | .matchProbe target _ => MayMatch P mayNote target
  | _ => True

theorem keeps_look {α : Type} {statement : Statement α} (looks : Looks P mayNote statement) :
    Keeps P (answer statement) := by
  cases statement with
  | createTokens table choice | createProbe table columns => exact looks.elim
  | matchProbe target expression =>
    exact keeps_answer_of steadfast.toSteady (keeps_matchProbe steadfast looks expression)
  | selectTokens => exact keeps_answer_of steadfast.toSteady (keeps_find _)
  | databaseList | tableExists | tableSql | tableInfo | foreignKeyList | foreignKeyCheck | selectRow =>
    exact keeps_lookup steadfast.toSteady rfl

end

-- A schema in which a name is vacant is one of the database, which stays as it is.
theorem vacant_eq_ok {schema name : String} {home : Schema} {before after : Database}
    (done : vacant schema name before = (.ok home, after)) :
    before.schema? schema = some home ∧ home.find? name = none := by
  unfold vacant at done
  obtain ⟨found, middle, looked, done⟩ := bind_eq_ok done
  have named := Database.schemaOr_eq_ok.1 (congrArg Prod.fst looked)
  extract_lets rest at done
  have only : ∀ state, rest () state = (.ok home, after) → found = home ∧ found.find? name = none := by
    intro state done
    obtain ⟨_, _, -, done⟩ := bind_eq_ok done
    cases taken : found.find? name with
    | some held =>
      simp only [taken] at done
      cases done
    | none =>
      simp only [taken] at done
      obtain ⟨_, _, -, done⟩ := bind_eq_ok done
      cases done
      exact ⟨rfl, rfl⟩
  split at done
  · obtain ⟨_, _, failed, -⟩ := bind_eq_ok done
    cases failed
  · obtain ⟨rfl, free⟩ := only middle done
    exact ⟨named, free⟩

def MayMake (P : Database → Prop) (schema table : String) : Prop :=
  ∀ (home : Schema) (tables : List Table), Text.sameName home.name schema = true →
    Adds home table tables → ∀ database, P database → database.schema? home.name = some home →
      P (database.within home.name (· ++ tables))

-- A table that is made once its name is known to be vacant.
theorem construct_holds (steady : Steady P) {made : Except Fault (List Table)} {schema : String}
    {database : Database}
    (may : ∀ tables, made = .ok tables → P (database.within schema (· ++ tables)))
    (failed : ∀ fault, made = .error fault → P database.forget) :
    P ((construct made >>= addTables schema) database).2 := by
  cases made with
  | ok tables =>
    have made : construct (.ok tables) database = (.ok tables, database) := rfl
    rw [bind_ok _ made]
    exact alter_holds steady (may tables rfl)
  | error fault =>
    have broken : (construct (.error fault) : Change (List Table)) database =
        (.error fault, database.forget) := rfl
    rw [bind_error _ broken]
    exact failed fault rfl

section

variable (lasting : Lasting mayWrite mayNote P) {schema table : String}
include lasting

-- Between finding that a name is vacant and taking it nothing happens to the schemas.
theorem keeps_create {next : Schema → Change Unit} (wording : Wording)
    (kept : ∀ home database, P database → database.schema? home.name = some home →
      Text.sameName home.name schema = true → home.find? table = none → P (next home database).2) :
    Keeps P (resume wording >>= fun _ => vacant schema table >>= next) := by
  intro start holds
  have fixed := lasting.toWriting.fixed start.schemas
  refine holds_bind And.left (keeps_resume fixed.toSteady wording) ?_ ⟨holds, rfl⟩
  rintro - before ⟨holds, schemas⟩
  have after := keeps_vacant fixed.toSteady schema table before ⟨holds, schemas⟩
  cases found : vacant schema table before with
  | mk answer middle =>
    rw [found] at after
    cases answer with
    | error fault =>
      rw [bind_error next found]
      exact after.1
    | ok home =>
      obtain ⟨looked, free⟩ := vacant_eq_ok found
      rw [bind_ok next found]
      refine kept home middle after.1 ?_ (Database.sameName_of_schema? looked) free
      rw [Database.schema?_of_schemas (after.2.trans schemas.symm)]
      exact Database.schema?_name looked

-- Once a statement has begun to run, the schemas are still the same.
theorem start_holds {wording : Wording} {next : Unit → Change Unit} {home : Schema}
    (several : wording.length ≠ 1) {database : Database} (holds : P database)
    (found : database.schema? home.name = some home)
    (kept : ∀ after, P after → after.schema? home.name = some home → P (next () after).2) :
    P ((start wording home.name >>= next) database).2 := by
  have fixed := lasting.toWriting.fixed database.schemas
  refine holds_bind And.left
    (keeps_start (fun _ holds => fixed.started (lasting.several several) holds) home.name) ?_ ⟨holds, rfl⟩
  rintro - after ⟨holds, schemas⟩
  exact kept after holds (by rwa [Database.schema?_of_schemas schemas])

theorem keeps_createTable (may : MayMake P schema table) {declaration : TableDeclaration}
    (writable : '\x00' ∉ (declaration.sql table).toList) :
    Keeps P (createTable schema table declaration) := by
  unfold createTable
  extract_lets sql
  refine keeps_create lasting _ ?_
  intro home database holds found named free
  cases clean : declaration.fault? table with
  | some fault => exact holds
  | none =>
    refine start_holds lasting (by simp) holds found ?_
    intro after holds found
    have sound := TableDeclaration.fault?_eq_none clean
    refine alter_holds lasting.toSteady (may home _ named (adds_singleton rfl free ?_ ⟨?_, ?_⟩
      ⟨_, .ordinary table declaration []⟩) after holds found)
    all_goals rintro declared rows ⟨⟩
    · exact sound
    · exact TableDeclaration.stored_nil
    · exact TableDeclaration.parents_writable writable

theorem keeps_createView (may : MayMake P schema table) (source : String) :
    Keeps P (createView schema table source) := by
  unfold createView
  extract_lets sql
  refine keeps_create lasting _ ?_
  intro home database holds found named free
  refine start_holds lasting (by simp) holds found ?_
  intro after holds found
  exact alter_holds lasting.toSteady (may home _ named (adds_virtual rfl free (by simp)
    ⟨_, .view table _ source⟩) after holds found)

theorem keeps_createVirtual (may : MayMake P schema table) (columns options : List String)
    (clause : String) : Keeps P (createVirtual schema table columns options clause) := by
  unfold createVirtual
  extract_lets names sql
  refine keeps_create lasting _ ?_
  intro home database holds found named free
  rw [bind_lift]
  cases Arguments.split (String.intercalate ", " options) with
  | error fault => exact holds
  | ok options =>
    dsimp only
    split
    · exact holds
    · refine start_holds lasting (by simp) holds found ?_
      intro after holds found
      have checked : recheck after = (.ok (), { after with sound := [] }) := rfl
      have holds : P { after with sound := [] } := lasting.checked (by simp) holds
      rw [bind_ok _ checked]
      refine construct_holds lasting.toSteady ?_ fun _ _ => lasting.reread holds
      intro tables made
      exact may home tables named (adds_makeTables free made) _ holds found

end

def MayDrop (P : Database → Prop) (schema table : String) : Prop :=
  ∀ (home : Schema) (held : Table) (database : Database), P database →
    database.locate schema table = .ok (home, held) →
    (∀ entry ∈ database.unopened, entry.1 = home.name →
      (dropped held).any (Text.sameName entry.2) = false) →
    P (database.within home.name fun tables =>
      tables.filter fun other => !(dropped held).any (Text.sameName other.name))

def MayBuild (P : Database → Prop) (mayWrite : String → String → Prop) : Building → Prop
  | .attach schema => ∀ database, P database → database.schema? schema = none →
    P { database with attached := database.attached ++ [Schema.ofTables schema []] }
  | .detach schema => ∀ database, P database →
    (∀ entry ∈ database.unopened, Text.sameName entry.1 schema = false) →
    P { database with attached := database.attached.filter fun held => !Text.sameName held.name schema }
  | .createTable schema table _ | .createView schema table _ | .createFullText schema table _ _ _ =>
    MayMake P schema table
  | .insert schema table _ | .delete schema table =>
    ∀ (database : Database) (home : Schema) (held : Table),
      database.locate schema table = .ok (home, held) → MayChange mayWrite home held
  | .drop schema table => MayDrop P schema table
  | .lock => ∀ database, P database → P { database with condition := .locked }
  | .unlock => ∀ database, P database → P { database with condition := .usable }

-- What is dropped is gone once it is known what has to be looked at again.
theorem keeps_dropping (writing : Writing mayWrite mayNote P)
    (reread : ∀ {database}, P database → P database.forget) {schema table : String}
    (may : ∀ (home : Schema) (held : Table) (database : Database), P database →
      database.locate schema table = .ok (home, held) →
      (∀ entry ∈ database.unopened, entry.1 = home.name →
        (dropped held).any (Text.sameName entry.2) = false) →
      P (alter home.name (fun tables =>
        tables.filter fun other => !(dropped held).any (Text.sameName other.name)) database).2) :
    Keeps P (drop schema table) := by
  unfold drop
  extract_lets wording
  refine keeps_bind (keeps_resume writing.toSteady _) ?_
  intro _
  refine keeps_bind (keeps_readCatalog writing.toSteady) ?_
  intro _
  apply keeps_bind_find
  rintro ⟨home, held⟩ before located holds
  dsimp only
  have fixed := writing.fixed before.schemas
  have finish : ∀ after, P after ∧ after.schemas = before.schemas → P ((forgetIndexes (fun entry =>
      entry.1 == home.name && (dropped held).any (Text.sameName entry.2)) >>= fun _ =>
        alter home.name fun tables =>
          tables.filter fun other => !(dropped held).any (Text.sameName other.name)) after).2 := by
    rintro after ⟨holds, schemas⟩
    have forgotten (of : String × String → Bool) : forgetIndexes of after = (.ok (),
        { after with
          unopened := after.unopened.filter fun entry => !of entry
          segments := after.segments.filter fun entry => !of entry.1 }) := rfl
    rw [bind_ok _ (forgotten _)]
    apply may home held _ (writing.noted _ _ List.filter_sublist.subset holds)
    · exact (Database.locate_of_schemas schemas schema table).trans located
    · intro entry member same
      have other := (List.mem_filter.1 member).2
      simpa [same] using other
  cases held.body with
  | catalog | view => exact holds
  | ordinary | fullText | splitter =>
    refine holds_bind And.left (keeps_openTable fixed.toSteady home held) ?_ ⟨holds, rfl⟩
    rintro - opened holds
    refine holds_bind And.left
      (keeps_start (fun _ holds => fixed.started (writing.several (by simp [wording])) holds) home.name) ?_ holds
    rintro - started holds
    generalize ((dropped held).filterMap (Table.find? home.tables)).span (fun other => !other.isView) =
      spanned
    obtain ⟨_ | ⟨first, others⟩, _ | ⟨view, rest⟩⟩ := spanned <;> dsimp only
    · exact finish started holds
    · exact holds.1
    · exact finish started holds
    · exact reread holds.1

section

variable (lasting : Lasting mayWrite mayNote P) {schema table : String}
include lasting

theorem keeps_drop (may : MayDrop P schema table) : Keeps P (drop schema table) := by
  apply keeps_dropping lasting.toWriting lasting.reread
  intro home held database holds located gone
  exact alter_holds lasting.toSteady (may home held database holds located gone)

theorem keeps_attach (may : MayBuild P mayWrite (.attach schema)) : Keeps P (attach schema) := by
  unfold attach
  refine keeps_bind (keeps_readCatalog lasting.toSteady) ?_
  intro _
  apply keeps_bind_get
  intro database holds
  split
  · exact holds
  · dsimp only
    split
    · exact holds
    · rename_i new
      exact may database holds (Option.not_isSome_iff_eq_none.1 new)

theorem keeps_detach (may : MayBuild P mayWrite (.detach schema)) : Keeps P (detach schema) := by
  unfold detach
  refine keeps_bind (keeps_readCatalog lasting.toSteady) ?_
  intro _
  apply keeps_bind_get
  intro database holds
  dsimp only
  split
  · exact holds
  · split
    · exact holds
    · split
      · exact holds
      · refine lasting.checked (by simp) (may _ (lasting.noted _ _ List.filter_sublist.subset holds) ?_)
        intro entry member
        simpa using (List.mem_filter.1 member).2

theorem keeps_build {building : Building}
    (may : (∀ text ∈ building.texts, '\x00' ∉ text.toList) → MayBuild P mayWrite building) :
    Keeps P (build building) := by
  unfold build
  extract_lets rest
  split
  · exact keeps_throw_bind _ _
  · rename_i clean
    have clean : ∀ text ∈ building.texts, '\x00' ∉ text.toList := by simpa using clean
    have may := may clean
    dsimp only [rest]
    cases building with
    | attach schema => exact keeps_attach lasting may
    | detach schema => exact keeps_detach lasting may
    | createTable schema table declaration => 
      exact keeps_createTable lasting may (clean _ (by simp [Building.texts]))
    | createFullText schema table columns options clause =>
      exact keeps_createVirtual lasting may columns options clause
    | createView schema view source => exact keeps_createView lasting may source
    | insert schema table rows => exact keeps_insert lasting may rows
    | delete schema table => exact keeps_delete lasting may
    | drop schema table => exact keeps_drop lasting may
    | lock | unlock => exact keeps_modify may

end

def splitterOf (table : String) (choice : TokenizerChoice) : Except Fault Token.Splitter := do
  TokenTable.splitter table (← TokenTable.readName choice.name) choice.arguments

theorem createTokens_eq (table : String) (choice : TokenizerChoice) (database : Database) :
    createTokens table choice database =
      match TokenTable.readName choice.name with
      | .error fault => (.error fault, database)
      | .ok name =>
        if (database.temp.find? table).isNone then
          (construct (TokenTable.splitter table name choice.arguments) >>= fun splitter =>
            addTables database.temp.name [⟨table, TokenTable.sql table choice, .splitter splitter⟩])
            database
        else (.ok (), database) := by
  unfold createTokens
  rw [bind_lift]
  cases TokenTable.readName choice.name with
  | error fault => rfl
  | ok name =>
    change (if (database.temp.find? table).isNone then _ else _ : Change Unit) database = _
    split <;> rfl

theorem createProbe_eq (table : String) (columns : List String) (database : Database) :
    createProbe table columns database =
      if (database.temp.find? table).isNone then
        if columns.length > FullText.argumentLimit then (.error (.tooManyColumns table), database)
        else
          (construct (FullText.make database.temp table
              (FullText.sql table fullTextClause (columns.map Text.identifier))
              ((columns.map Text.identifier).map String.toList)) >>=
            addTables database.temp.name) database
      else (.ok (), database) := by
  unfold createProbe
  change (if (database.temp.find? table).isNone then _ else _ : Change Unit) database = _
  split
  · split
    · rfl
    · rfl
  · rfl

section

variable (steady : Steady P) {table : String}
include steady

theorem keeps_createTokens {choice : TokenizerChoice}
    (may : ∀ database splitter, P database → database.temp.find? table = none →
      splitterOf table choice = .ok splitter →
      P (database.within database.temp.name
        (· ++ [⟨table, TokenTable.sql table choice, .splitter splitter⟩])))
    (failed : ∀ database fault, P database → database.temp.find? table = none →
      splitterOf table choice = .error fault → P database.forget) :
    Keeps P (createTokens table choice) := by
  intro database holds
  rw [createTokens_eq]
  cases read : TokenTable.readName choice.name with
  | error fault => exact holds
  | ok name =>
    dsimp only
    split
    · rename_i vacant
      have vacant := Option.isNone_iff_eq_none.1 vacant
      have known : splitterOf table choice = TokenTable.splitter table name choice.arguments := by
        rw [splitterOf, read]
        rfl
      cases found : TokenTable.splitter table name choice.arguments with
      | ok splitter =>
        have made : construct (.ok splitter) database = (.ok splitter, database) := rfl
        rw [bind_ok _ made]
        exact alter_holds steady (may database splitter holds vacant (known.trans found))
      | error fault =>
        have broken : (construct (.error fault) : Change Token.Splitter) database =
            (.error fault, database.forget) := rfl
        rw [bind_error _ broken]
        exact failed database fault holds vacant (known.trans found)
    · exact holds

theorem keeps_createProbe {columns : List String}
    (may : ∀ database tables, P database → database.temp.find? table = none →
      ¬columns.length > FullText.argumentLimit →
      FullText.make database.temp table
        (FullText.sql table fullTextClause (columns.map Text.identifier))
        ((columns.map Text.identifier).map String.toList) = .ok tables →
      P (database.within database.temp.name (· ++ tables)))
    (failed : ∀ database fault, P database → database.temp.find? table = none →
      FullText.make database.temp table
        (FullText.sql table fullTextClause (columns.map Text.identifier))
        ((columns.map Text.identifier).map String.toList) = .error fault → P database.forget) :
    Keeps P (createProbe table columns) := by
  intro database holds
  rw [createProbe_eq]
  split
  · rename_i vacant
    have vacant := Option.isNone_iff_eq_none.1 vacant
    split
    · exact holds
    · rename_i few
      refine construct_holds steady ?_ fun fault => failed database fault holds vacant
      exact fun tables made => may database tables holds vacant few made
  · exact holds

end

end TextQuery.Engine.Change
