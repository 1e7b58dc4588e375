import Mathlib.Data.List.Forall2
import Mathlib.Tactic.Tauto
import TextQuery.Proofs.Names

set_option autoImplicit false

namespace TextQuery.Engine

-- What comes of two steps, if anything does, comes of both of them.
theorem exists_of_bind_eq_ok {ε α β : Type} {first : Except ε α} {next : α → Except ε β} {result : β}
    (done : (first >>= next) = .ok result) : ∃ value, first = .ok value ∧ next value = .ok result := by
  cases first with
  | ok value => exact ⟨value, rfl, done⟩
  | error fault => cases done

theorem forall₂_of_mapM {ε α β : Type} {f : α → Except ε β} {entries : List α} {results : List β}
    (done : entries.mapM f = .ok results) :
    List.Forall₂ (fun entry result => f entry = .ok result) entries results := by
  induction entries generalizing results with
  | nil =>
    cases done
    exact .nil
  | cons entry entries ih =>
    rw [List.mapM_cons] at done
    obtain ⟨first, found, done⟩ := exists_of_bind_eq_ok done
    obtain ⟨rest, others, done⟩ := exists_of_bind_eq_ok done
    cases done
    exact .cons found (ih others)

namespace Change

variable {α β : Type} {database after : Database}

theorem bind_ok {first : Change α} {value : α} (next : α → Change β)
    (done : first database = (.ok value, after)) : (first >>= next) database = next value after := by
  change (ExceptT.bindCont next (first database).1) (first database).2 = _
  rw [done]
  rfl

theorem bind_error {first : Change α} {fault : Fault} (next : α → Change β)
    (failed : first database = (.error fault, after)) :
    (first >>= next) database = (.error fault, after) := by
  change (ExceptT.bindCont next (first database).1) (first database).2 = _
  rw [failed]
  rfl

theorem bind_eq_ok {first : Change α} {next : α → Change β} {result : β}
    (done : (first >>= next) database = (.ok result, after)) :
    ∃ value middle, first database = (.ok value, middle) ∧ next value middle = (.ok result, after) := by
  cases found : first database with
  | mk answer middle =>
    cases answer with
    | ok value => exact ⟨value, middle, rfl, by rwa [bind_ok next found] at done⟩
    | error fault =>
      rw [bind_error next found] at done
      cases done

theorem bind_get (next : Database → Change β) (database : Database) :
    (get >>= next) database = next database database := rfl

theorem bind_find (look : Database → Except Fault α) (next : α → Change β) (database : Database) :
    (find look >>= next) database =
      match look database with
      | .ok value => next value database
      | .error fault => (.error fault, database) := by
  cases found : look database with
  | ok value => exact bind_ok next (by rw [find, bind_get, found]; rfl)
  | error fault => exact bind_error next (by rw [find, bind_get, found]; rfl)

theorem bind_lift (result : Except Fault α) (next : α → Change β) (database : Database) :
    (lift result >>= next) database =
      match result with
      | .ok value => next value database
      | .error fault => (.error fault, database) := by
  cases result <;> rfl

theorem tryCatch_ok {change : Change α} {value : α} (handle : Fault → Change α)
    (done : change database = (.ok value, after)) :
    (tryCatch change handle) database = (.ok value, after) := by
  simp only [tryCatch, tryCatchThe, MonadExceptOf.tryCatch, ExceptT.tryCatch, ExceptT.mk, bind,
    StateT.bind, done]
  rfl

theorem tryCatch_error {change : Change α} {fault : Fault} (handle : Fault → Change α)
    (failed : change database = (.error fault, after)) :
    (tryCatch change handle) database = handle fault after := by
  simp only [tryCatch, tryCatchThe, MonadExceptOf.tryCatch, ExceptT.tryCatch, ExceptT.mk, bind,
    StateT.bind, failed]

def Keeps (P : Database → Prop) (change : Change α) : Prop :=
  ∀ database, P database → P (change database).2

variable {P : Database → Prop}

theorem keeps_pure (value : α) : Keeps P (pure value : Change α) := fun _ holds => holds

theorem keeps_throw (fault : Fault) : Keeps P (throw fault : Change α) := fun _ holds => holds

theorem keeps_lift (result : Except Fault α) : Keeps P (lift result) := fun _ holds => holds

theorem keeps_find (look : Database → Except Fault α) : Keeps P (find look) := fun _ holds => holds

theorem keeps_get : Keeps P (get : Change Database) := fun _ holds => holds

theorem keeps_modify {edit : Database → Database} (kept : ∀ database, P database → P (edit database)) :
    Keeps P (modify edit : Change PUnit) := fun database holds => kept database holds

-- What is known of the value and of the states before and after it may be needed to go on.
theorem keeps_bind_of {first : Change α} {next : α → Change β} (kept : Keeps P first)
    (keptNext : ∀ value before after, P before → first before = (.ok value, after) → P after →
      P (next value after).2) : Keeps P (first >>= next) := by
  intro before holds
  have middle := kept before holds
  cases result : first before with
  | mk answer after =>
    rw [result] at middle
    cases answer with
    | ok value =>
      rw [bind_ok next result]
      exact keptNext value before after holds result middle
    | error fault =>
      rw [bind_error next result]
      exact middle

theorem keeps_bind {first : Change α} {next : α → Change β} (kept : Keeps P first)
    (keptNext : ∀ value, Keeps P (next value)) : Keeps P (first >>= next) :=
  keeps_bind_of kept fun value _ after _ _ holds => keptNext value after holds

-- A stronger property may hold until the last of several steps.
theorem holds_bind {Q : Database → Prop} {first : Change α} {next : α → Change β} {database : Database}
    (weaken : ∀ {database}, Q database → P database) (kept : Keeps Q first)
    (last : ∀ value after, Q after → P (next value after).2) (holds : Q database) :
    P ((first >>= next) database).2 := by
  have middle := kept database holds
  cases result : first database with
  | mk answer after =>
    rw [result] at middle
    cases answer with
    | ok value =>
      rw [bind_ok next result]
      exact last value after middle
    | error fault =>
      rw [bind_error next result]
      exact weaken middle

-- What would come after a fault does not matter.
theorem keeps_throw_bind (fault : Fault) (next : α → Change β) : Keeps P (throw fault >>= next) :=
  fun _ holds => holds

theorem keeps_bind_get {next : Database → Change β}
    (kept : ∀ database, P database → P (next database database).2) :
    Keeps P (get >>= next) := fun database holds => kept database holds

theorem holds_bind_find {look : Database → Except Fault α} {next : α → Change β} {database : Database}
    (holds : P database) (rest : ∀ value, look database = .ok value → P (next value database).2) :
    P ((find look >>= next) database).2 := by
  rw [bind_find]
  cases found : look database with
  | ok value => exact rest value found
  | error fault => exact holds

theorem keeps_bind_find {look : Database → Except Fault α} {next : α → Change β}
    (kept : ∀ value database, look database = .ok value → P database → P (next value database).2) :
    Keeps P (find look >>= next) :=
  fun database holds => holds_bind_find holds fun value found => kept value database found holds

theorem keeps_tryCatch {change : Change α} {handle : Fault → Change α} (kept : Keeps P change)
    (keptHandle : ∀ fault, Keeps P (handle fault)) : Keeps P (tryCatch change handle) := by
  intro before holds
  have middle := kept before holds
  cases result : change before with
  | mk answer after =>
    rw [result] at middle
    cases answer with
    | ok value =>
      rw [tryCatch_ok handle result]
      exact middle
    | error fault =>
      rw [tryCatch_error handle result]
      exact keptHandle fault after middle

theorem keeps_forM {entries : List α} {body : α → Change PUnit}
    (kept : ∀ entry ∈ entries, Keeps P (body entry)) : Keeps P (entries.forM body) := by
  induction entries with
  | nil => exact keeps_pure _
  | cons entry entries ih =>
    refine keeps_bind (kept entry (by simp)) ?_
    intro _
    exact ih fun other member => kept other (by simp [member])

theorem keeps_option_forM {entry : Option α} {body : α → Change PUnit}
    (kept : ∀ value, entry = some value → Keeps P (body value)) : Keeps P (entry.forM body) := by
  cases entry with
  | none => exact keeps_pure _
  | some value => exact kept value rfl

end Change

-- A table with other rows, if it is an ordinary one of a name.
def Table.withRows (name : String) (rows : List StoredRow) (table : Table) : Table :=
  match table.body with
  | .ordinary declaration _ =>
    if Text.sameName table.name name then { table with body := .ordinary declaration rows } else table
  | _ => table

namespace Table

variable {name : String} {rows : List StoredRow} {table : Table}

@[simp]
theorem withRows_name : (table.withRows name rows).name = table.name := by
  unfold withRows
  split
  · split <;> rfl
  · rfl

theorem withRows_other (apart : Text.sameName table.name name = false) :
    table.withRows name rows = table := by
  unfold withRows
  rw [apart]
  split <;> rfl

theorem withRows_cases (table : Table) (name : String) (rows : List StoredRow) :
    table.withRows name rows = table ∨ ∃ declaration before, table.body = .ordinary declaration before ∧
      table.withRows name rows = { table with body := .ordinary declaration rows } := by
  unfold withRows
  split
  · rename_i declaration before body
    split
    · exact .inr ⟨declaration, before, body, rfl⟩
    · exact .inl rfl
  · exact .inl rfl

theorem find?_withRows {other : String} (apart : Text.sameName other name = false)
    (tables : List Table) : find? (tables.map (withRows name rows)) other = find? tables other := by
  induction tables with
  | nil => rfl
  | cons table tables ih =>
    unfold find? at ih ⊢
    rw [List.map_cons, List.find?_cons, List.find?_cons, withRows_name]
    cases named : Text.sameName table.name other with
    | true =>
      rw [withRows_other]
      rw [Text.sameName_congr_left named, apart]
    | false => exact ih

end Table

theorem Table.find?_congr {name other : String} (same : Text.sameName name other = true)
    (tables : List Table) : Table.find? tables name = Table.find? tables other := by
  unfold Table.find?
  congr 1
  funext table
  exact Text.sameName_congr same table.name

theorem Schema.find?_congr {home : Schema} {name other : String} (same : Text.sameName name other = true) :
    home.find? name = home.find? other := by
  have listed : (Schema.catalogNames home.name).any (Text.sameName name) =
      (Schema.catalogNames home.name).any (Text.sameName other) := by
    congr 1
    funext listed
    exact Text.sameName_congr_left same listed
  unfold Schema.find?
  rw [Table.find?_congr same, listed]

-- A name is that of a table, or of the one that lists them.
theorem Schema.find?_cases {home : Schema} {name : String} {held : Table}
    (found : home.find? name = some held) :
    (Table.find? home.tables name = some held ∧ held ∈ home.tables ∧
      Text.sameName held.name name = true) ∨
    (held = catalog home.name ∧ ∃ listed ∈ catalogNames home.name, Text.sameName name listed = true) := by
  unfold find? at found
  split at found
  · rename_i other looked
    cases found
    exact .inl ⟨looked, List.mem_of_find?_eq_some looked, by simpa using List.find?_some looked⟩
  · split at found
    · rename_i listed
      cases found
      exact .inr ⟨rfl, by simpa using listed⟩
    · cases found

namespace Database

variable {database : Database} {name : String} {edit : List Table → List Table}

-- An edit of tables leaves all the rest as it is.
theorem within_frame (database : Database) (name : String) (edit : List Table → List Table) :
    ((database.within name edit).main.name = database.main.name ∧
      (database.within name edit).temp.name = database.temp.name) ∧
    (database.within name edit).condition = database.condition ∧
    (database.within name edit).isRead = database.isRead ∧
    (database.within name edit).sound = database.sound := by
  unfold within
  split
  · exact ⟨⟨rfl, rfl⟩, rfl, rfl, rfl⟩
  · split <;> exact ⟨⟨rfl, rfl⟩, rfl, rfl, rfl⟩

theorem within_unopened (database : Database) (name : String) (edit : List Table → List Table) :
    (database.within name edit).unopened = database.unopened := by
  unfold within
  split
  · rfl
  · split <;> rfl

theorem schemaOr_eq_ok {name : String} {missing : Fault} {home : Schema} :
    database.schemaOr name missing = .ok home ↔ database.schema? name = some home := by
  unfold schemaOr
  cases database.schema? name <;> simp

theorem sameName_of_schema? {name : String} {home : Schema} (found : database.schema? name = some home) :
    Text.sameName home.name name = true := by
  unfold schema? at found
  simpa using List.find?_some found

theorem schema?_congr {a b : String} (same : Text.sameName a b = true) (database : Database) :
    database.schema? a = database.schema? b := by
  unfold schema?
  congr 1
  funext schema
  exact Text.sameName_congr same schema.name

-- A schema is found by its own name too.
theorem schema?_name {name : String} {home : Schema} (found : database.schema? name = some home) :
    database.schema? home.name = some home := by
  rw [schema?_congr (sameName_of_schema? found), found]

theorem locate_eq_ok {schema table : String} {home : Schema} {held : Table}
    (located : database.locate schema table = .ok (home, held)) :
    database.schema? schema = some home ∧ home.find? table = some held := by
  unfold locate at located
  obtain ⟨found, looked, located⟩ := exists_of_bind_eq_ok located
  cases entry : found.find? table with
  | none =>
    rw [entry] at located
    cases located
  | some other =>
    rw [entry] at located
    cases located
    exact ⟨schemaOr_eq_ok.1 looked, entry⟩

theorem schema?_of_schemas {other : Database} (same : other.schemas = database.schemas) (name : String) :
    other.schema? name = database.schema? name := by
  unfold schema?
  rw [same]

theorem locate_of_schemas {other : Database} (same : other.schemas = database.schemas)
    (schema table : String) : other.locate schema table = database.locate schema table := by
  unfold locate schemaOr
  rw [schema?_of_schemas same]

theorem within_condition (database : Database) (name : String) (edit : List Table → List Table) :
    (database.within name edit).condition = database.condition := (within_frame database name edit).2.1

-- The temporary tables are the ones that are edited, or they stay too.
theorem within_tables (database : Database) (name : String) (edit : List Table → List Table) :
    (database.within name edit).temp.tables = database.temp.tables ∨
      (Text.sameName name database.temp.name = true ∧
        (database.within name edit).temp.tables = edit database.temp.tables) := by
  unfold within
  split
  · exact .inl rfl
  · split
    · rename_i same
      exact .inr ⟨same, rfl⟩
    · exact .inl rfl

theorem mem_within {schema : Schema} (member : schema ∈ (database.within name edit).schemas) :
    schema ∈ database.schemas ∨
      ∃ held ∈ database.schemas, Text.sameName name held.name = true ∧ schema = held.change edit := by
  unfold within at member
  split at member
  · rename_i same
    rcases List.mem_cons.1 member with rfl | member
    · exact .inr ⟨database.main, by simp [schemas], same, rfl⟩
    · exact .inl (List.mem_cons_of_mem _ member)
  · split at member
    · rename_i same
      simp only [schemas, List.mem_cons] at member ⊢
      rcases member with rfl | rfl | member
      · exact .inl (.inl rfl)
      · exact .inr ⟨database.temp, by simp, same, rfl⟩
      · exact .inl (.inr (.inr member))
    · simp only [schemas, List.mem_cons, List.mem_map] at member ⊢
      rcases member with rfl | rfl | ⟨held, found, rfl⟩
      · exact .inl (.inl rfl)
      · exact .inl (.inr (.inl rfl))
      · split
        · rename_i same
          exact .inr ⟨held, by simp [found], Text.sameName_symm same, rfl⟩
        · exact .inl (.inr (.inr found))

theorem mem_forget {schema : Schema} (member : schema ∈ database.forget.schemas) :
    ∃ held ∈ database.schemas, schema.name = held.name ∧ schema.tables = held.tables := by
  simp only [schemas, forget, List.mem_cons, List.mem_map] at member
  rcases member with rfl | rfl | ⟨held, found, rfl⟩
  · exact ⟨database.main, by simp [schemas], rfl, rfl⟩
  · exact ⟨database.temp, by simp [schemas], rfl, rfl⟩
  · exact ⟨held, by simp [schemas, found], rfl, rfl⟩

theorem mem_attached {schema added : Schema}
    (member : schema ∈ { database with attached := database.attached ++ [added] }.schemas) :
    schema ∈ database.schemas ∨ schema = added := by
  simp only [schemas, List.mem_cons, List.mem_append, List.not_mem_nil, or_false] at member ⊢
  tauto

theorem mem_detached {schema : Schema} {keep : Schema → Bool}
    (member : schema ∈ { database with attached := database.attached.filter keep }.schemas) :
    schema ∈ database.schemas := by
  simp only [schemas, List.mem_cons, List.mem_filter] at member ⊢
  tauto

end Database

/-- A property that has nothing to do with what is only noted of a database. Of tables that have not been
opened there only get fewer. -/
structure Indifferent (P : Database → Prop) : Prop where
  noted : ∀ {database} (isTempUsed : Bool) {unopened : List (String × String)}
    (segments : List ((String × String) × Nat)), unopened ⊆ database.unopened →
    P database → P { database with isTempUsed, unopened, segments }
  read : ∀ {database}, P database → P { database with isRead := true }
  checked : ∀ {database} {sound : List Wording}, sound ⊆ database.sound → P database →
    P { database with sound }

structure Steady (P : Database → Prop) : Prop where
  used : ∀ schema, Change.Keeps P (Change.use schema)
  read : Change.Keeps P Change.readCatalog
  checked : ∀ {database} {sound : List Wording}, sound ⊆ database.sound → P database →
    P { database with sound }
  counted : ∀ home table, Change.Keeps P (Change.segments home table)
  opened : ∀ home table, Change.Keeps P (Change.openIndex home table)

/-- What the rows of a table may become when a statement writes to it: some of them are left, or there is
another one that the engine has taken. -/
inductive TableDeclaration.Rewritten (declaration : TableDeclaration) (before : List StoredRow) :
    List StoredRow → Prop where
  | kept (keep : StoredRow → Bool) : declaration.Rewritten before (before.filter keep)
  | added {table : String} {cells : List Cell} {row : StoredRow} {after : List StoredRow}
    (width : cells.length = declaration.columns.length) (fits : ∀ cell ∈ cells, Change.fitsCell cell = true)
    (done : declaration.addRow table before cells = .ok (row, after)) : declaration.Rewritten before after
  | replaced {table : String} {cells : List Cell} {after : List StoredRow}
    (width : cells.length = declaration.columns.length) (fits : ∀ cell ∈ cells, Change.fitsCell cell = true)
    (done : declaration.replaceRow table before cells = .ok after) : declaration.Rewritten before after

/-- The rows that are stored under the names of a schema and a table. -/
def Database.Stores (database : Database) (home name : String) (declaration : TableDeclaration)
    (rows : List StoredRow) : Prop :=
  ∃ schema held, database.schema? home = some schema ∧ schema.find? name = some held ∧
    held.body = .ordinary declaration rows

theorem Database.stores_of_locate {database : Database} {schema table : String} {home : Schema} {held : Table}
    (located : database.locate schema table = .ok (home, held)) {declaration : TableDeclaration}
    {rows : List StoredRow} (body : held.body = .ordinary declaration rows) :
    database.Stores home.name held.name declaration rows := by
  obtain ⟨found, there⟩ := Database.locate_eq_ok located
  refine ⟨home, held, Database.schema?_name found, ?_, body⟩
  rcases Schema.find?_cases there with ⟨-, -, same⟩ | ⟨rfl, -⟩
  · rw [Schema.find?_congr same, there]
  · cases body

/-- A property that changes of rows keep. It is given which tables of a schema they may write to, and
which wordings they may note as sound. -/
structure Writing (mayWrite : String → String → Prop) (mayNote : Wording → Prop)
    (P : Database → Prop) : Prop extends Indifferent P where
  several : ∀ {wording : Wording}, wording.length ≠ 1 → mayNote wording
  started : ∀ {database} {wording : Wording}, mayNote wording → P database →
    P { database with sound := wording :: database.sound }
  written : ∀ {database} {home name : String} {declaration : TableDeclaration}
    {before rows : List StoredRow}, mayWrite home name → database.Stores home name declaration before →
    declaration.Rewritten before rows → P database →
    P (database.within home fun tables => tables.map (Table.withRows name rows))

/-- A property that statements on rows keep, also where they fail and what they did is undone. -/
structure Lasting (mayWrite : String → String → Prop) (mayNote : Wording → Prop)
    (P : Database → Prop) : Prop extends Writing mayWrite mayNote P where
  reread : ∀ {database}, P database → P database.forget
  undone : ∀ {before after : Database}, after.unopened ⊆ before.unopened → P before → P after →
    P { after with main := before.main, temp := before.temp, attached := before.attached }

/-- A property that the statements of the library keep, those that make tables apart. Matches are noted as
sound. -/
structure Steadfast (mayNote : Wording → Prop) (P : Database → Prop) : Prop extends Steady P where
  started : ∀ {database} {wording : Wording}, mayNote wording → P database →
    P { database with sound := wording :: database.sound }

theorem indifferent_schemas (schemas : List Schema) :
    Indifferent fun database => database.schemas = schemas where
  noted _ _ _ _ same := same
  read same := same
  checked _ same := same

-- As long as nothing is written the schemas stay as they are.
theorem Writing.fixed {mayWrite : String → String → Prop} {mayNote : Wording → Prop}
    {P : Database → Prop} (writing : Writing mayWrite mayNote P) (schemas : List Schema) :
    Writing (fun _ _ => False) mayNote fun database => P database ∧ database.schemas = schemas where
  noted used _ segments fewer holds := ⟨writing.noted used segments fewer holds.1, holds.2⟩
  read holds := ⟨writing.read holds.1, holds.2⟩
  checked fewer holds := ⟨writing.checked fewer holds.1, holds.2⟩
  several := writing.several
  started may holds := ⟨writing.started may holds.1, holds.2⟩
  written never _ _ := never.elim

namespace Change

variable {α : Type} {P : Database → Prop} {mayWrite : String → String → Prop}
  {mayNote : Wording → Prop}

theorem readCatalog_eq (database : Database) :
    readCatalog database =
      match database.condition with
      | .notADatabase => (.error .notADatabase, database)
      | .locked => if database.isRead then (.ok (), database) else (.error .busy, database)
      | .usable => (.ok (), { database with isRead := true }) := by
  rw [readCatalog, bind_get]
  cases database.condition with
  | notADatabase | usable => rfl
  | locked => cases database.isRead <;> rfl

theorem start_eq (wording : Wording) (schema : String) (database : Database) :
    start wording schema database =
      touch schema (if Text.sameName schema database.main.name then
        { database with sound := wording :: database.sound } else database) := rfl

theorem touch_eq (schema : String) (database : Database) :
    touch schema database = (database.touch schema, database) := rfl

theorem keeps_touch (schema : String) : Keeps P (touch schema) := keeps_find _

theorem keeps_schemaNow (name : String) : Keeps P (schemaNow name) := keeps_find _

section

variable (indifferent : Indifferent P)
include indifferent

theorem keeps_forgetSegments (of : String × String → Bool) : Keeps P (forgetSegments of) :=
  keeps_modify fun _ holds => indifferent.noted _ _ (List.Subset.refl _) holds

theorem keeps_changeIndex {home table : String} {change : Change α} (kept : Keeps P change) :
    Keeps P (changeIndex home table change) := by
  apply keeps_tryCatch kept
  intro fault
  exact keeps_bind (keeps_forgetSegments indifferent _) fun _ => keeps_throw fault

-- What counting the segments of an index leaves behind is a note of their number.
theorem counted_of_indifferent (home table : String) : Keeps P (segments home table) := by
  unfold segments
  apply keeps_bind_get
  intro database holds
  cases database.segments.lookup (home, table) with
  | some count => exact holds
  | none =>
    change P ((find _ >>= _) database).2
    rw [bind_find]
    split
    · rw [bind_lift]
      split
      · rename_i rows _
        cases IndexRecord.segments? rows with
        | some count => exact indifferent.noted _ _ (List.Subset.refl _) holds
        | none => exact holds
      · exact holds
    · exact holds

theorem opened_of_indifferent (home : Schema) (table : String) : Keeps P (openIndex home table) := by
  have counted : Keeps P (tryCatch (do let _ ← segments home.name table) fun _ =>
      throw (Schema.damagedIndex table)) := by
    apply keeps_tryCatch
    · exact keeps_bind (counted_of_indifferent indifferent home.name table) fun _ => keeps_pure _
    · exact fun _ => keeps_throw _
  have noted : Keeps P (modify fun database =>
      { database with unopened := database.unopened.erase (home.name, table) } : Change PUnit) :=
    keeps_modify fun _ holds => indifferent.noted _ _ List.erase_subset holds
  unfold openIndex
  refine keeps_bind keeps_get ?_
  intro found
  split
  · exact keeps_throw_bind _ _
  · refine keeps_bind counted ?_
    intro _
    dsimp only
    split
    · exact keeps_bind (keeps_lift _) fun _ => noted
    · exact keeps_throw_bind _ _

end

end Change

theorem Indifferent.steady {P : Database → Prop} (indifferent : Indifferent P) : Steady P where
  used _ := Change.keeps_modify fun _ holds => indifferent.noted _ _ (List.Subset.refl _) holds
  read := by
    intro database holds
    rw [Change.readCatalog_eq]
    split
    · exact holds
    · split <;> exact holds
    · exact indifferent.read holds
  checked := indifferent.checked
  counted := Change.counted_of_indifferent indifferent
  opened := Change.opened_of_indifferent indifferent

theorem Writing.toSteady {mayWrite : String → String → Prop} {mayNote : Wording → Prop}
    {P : Database → Prop} (writing : Writing mayWrite mayNote P) : Steady P :=
  writing.toIndifferent.steady

theorem Lasting.toSteady {mayWrite : String → String → Prop} {mayNote : Wording → Prop}
    {P : Database → Prop} (lasting : Lasting mayWrite mayNote P) : Steady P :=
  lasting.toWriting.toSteady

theorem Lasting.toSteadfast {mayWrite : String → String → Prop} {mayNote : Wording → Prop}
    {P : Database → Prop} (lasting : Lasting mayWrite mayNote P) : Steadfast mayNote P where
  toSteady := lasting.toSteady
  started := lasting.started

namespace Change

variable {α : Type} {P : Database → Prop} {mayWrite : String → String → Prop}
  {mayNote : Wording → Prop}

section

variable (steady : Steady P)
include steady

theorem keeps_readCatalog : Keeps P readCatalog := steady.read

theorem keeps_resume (wording : Wording) : Keeps P (resume wording) := by
  apply keeps_bind_get
  intro database holds
  split
  · change P ((find _ >>= _) database).2
    rw [bind_find]
    split
    · exact steady.checked List.filter_sublist.subset holds
    · exact holds
  · exact holds

theorem keeps_use (schema : String) : Keeps P (use schema) := steady.used schema

theorem keeps_segments (home table : String) : Keeps P (segments home table) := steady.counted home table

theorem keeps_openIndex (home : Schema) (table : String) : Keeps P (openIndex home table) :=
  steady.opened home table

theorem keeps_openTable (home : Schema) (held : Table) : Keeps P (openTable home held) := by
  unfold openTable
  refine keeps_bind keeps_get ?_
  intro found
  split
  split
  · exact keeps_openIndex steady _ _
  · exact keeps_pure _

theorem keeps_beginReading (home : String) (held : Table) : Keeps P (beginReading home held) := by
  unfold beginReading
  split
  · exact keeps_bind (keeps_segments steady home held.name) fun _ => keeps_pure _
  · exact keeps_pure _

theorem keeps_search (home table : String) (index : FullText) (query : Expression.Query) :
    Keeps P (search home table index query) := by
  unfold search
  refine keeps_bind (keeps_segments steady home table) ?_
  intro count
  split
  · refine keeps_bind (keeps_schemaNow home) ?_
    intro schema
    refine keeps_bind (keeps_lift _) ?_
    intro _
    refine keeps_bind (keeps_lift _) ?_
    intro rows
    split
    · exact keeps_throw _
    · exact keeps_pure _
  · exact keeps_pure _

end

theorem keeps_start {wording : Wording}
    (started : ∀ database, P database → P { database with sound := wording :: database.sound })
    (schema : String) : Keeps P (start wording schema) := by
  intro database holds
  rw [start_eq, touch_eq]
  split
  · exact started database holds
  · exact holds

-- The rows that are written come of those that are there.
theorem setRows_holds (writing : Writing mayWrite mayNote P) {home name : String}
    (allowed : mayWrite home name) {declaration : TableDeclaration} {before rows : List StoredRow}
    {database : Database} (stored : database.Stores home name declaration before)
    (rewritten : declaration.Rewritten before rows) (holds : P database) :
    P (setRows home name rows database).2 := writing.written allowed stored rewritten holds

section

variable (lasting : Lasting mayWrite mayNote P)
include lasting

theorem keeps_wholly {change : Change α}
    (opens : ∀ database, (change database).2.unopened ⊆ database.unopened) (kept : Keeps P change) :
    Keeps P (wholly change) := by
  intro before holds
  have after := kept before holds
  have fewer := opens before
  unfold wholly
  split
  · rename_i fault changed result
    rw [result] at after fewer
    exact lasting.undone fewer holds after
  · exact after

end

end Change

-- Changes of rows open tables, and never close them.
theorem writing_unopened (unopened : List (String × String)) :
    Writing (fun _ _ => True) (fun _ => True) fun database => database.unopened ⊆ unopened where
  noted _ _ _ fewer := List.Subset.trans fewer
  read fewer := fewer
  checked _ fewer := fewer
  several _ := trivial
  started _ fewer := fewer
  written {database home _ _ _ _} _ _ _ fewer := by
    rw [Database.within_unopened]
    exact fewer

end TextQuery.Engine
