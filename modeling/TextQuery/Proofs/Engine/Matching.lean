import TextQuery.Proofs.Engine.StatementKeeping

set_option autoImplicit false

namespace TextQuery.Engine

structure Database.Follows (before after : Database) : Prop where
  main : after.main = before.main
  temp : after.temp = before.temp
  attached : after.attached = before.attached
  condition : after.condition = before.condition
  isRead : before.isRead = true → after.isRead = true
  unopened : after.unopened ⊆ before.unopened

namespace Database

variable {before middle after database : Database}

theorem Follows.refl (database : Database) : Follows database database :=
  ⟨rfl, rfl, rfl, rfl, id, List.Subset.refl _⟩

theorem Follows.trans (first : Follows before middle) (second : Follows middle after) :
    Follows before after :=
  ⟨second.main.trans first.main, second.temp.trans first.temp, second.attached.trans first.attached,
    second.condition.trans first.condition, second.isRead ∘ first.isRead,
    List.Subset.trans second.unopened first.unopened⟩

theorem indifferent_follows (database : Database) : Indifferent database.Follows where
  noted _ _ _ fewer follows := { follows with unopened := List.Subset.trans fewer follows.unopened }
  read follows := { follows with isRead := fun _ => rfl }
  checked _ follows := { follows with }

theorem steady_follows (database : Database) : Steady database.Follows :=
  database.indifferent_follows.steady

theorem Follows.schemas (follows : Follows before after) : after.schemas = before.schemas := by
  rw [Database.schemas, Database.schemas, follows.main, follows.temp, follows.attached]

theorem Follows.locate (follows : Follows before after) (schema table : String) :
    after.locate schema table = before.locate schema table := by
  unfold Database.locate Database.schemaOr Database.schema?
  rw [follows.schemas]

theorem Follows.sourceTables (follows : Follows before after) (schema : Schema) (source : String) :
    after.sourceTables schema source = before.sourceTables schema source := by
  unfold Database.sourceTables
  rw [follows.main, follows.temp, follows.attached]

theorem Follows.relation (follows : Follows before after) (fuel : Nat)
    (above : List (String × String)) (schema : Schema) (table : Table) :
    after.relation fuel above schema table = before.relation fuel above schema table := by
  induction fuel generalizing above schema table with
  | zero => rfl
  | succ fuel ih =>
    unfold Database.relation
    simp only [ih, follows.sourceTables]

theorem Follows.touch (follows : Follows before after) (schema : String) :
    after.touch schema = before.touch schema := by
  unfold Database.touch
  rw [follows.condition, follows.main]

theorem Follows.schema? (follows : Follows before after) (name : String) :
    after.schema? name = before.schema? name := schema?_of_schemas follows.schemas name

theorem Follows.schemaOr (follows : Follows before after) (name : String) (missing : Fault) :
    after.schemaOr name missing = before.schemaOr name missing := by
  unfold Database.schemaOr
  rw [follows.schema?]

theorem Follows.relationOf (follows : Follows before after) (home : Schema) (held : Table) :
    after.relationOf home held = before.relationOf home held := by
  unfold Database.relationOf tableFuel
  rw [follows.schemas, follows.relation]

theorem Follows.underlying (follows : Follows before after) (fuel : Nat) (home : Schema) (held : Table) :
    after.underlying fuel home held = before.underlying fuel home held := by
  induction fuel generalizing home held with
  | zero => rfl
  | succ fuel ih =>
    unfold Database.underlying
    simp only [ih, follows.sourceTables]

theorem Follows.read (follows : Follows before after) (schema table : String) :
    after.read schema table = before.read schema table := by
  unfold Database.read Database.relationOf Database.tableFuel
  simp only [follows.locate, follows.schemas, follows.relation]

end Database

/-- A full-text table whose index can be opened. That is all a match against it needs, as long as nobody has written
rows of segments, which are not looked at here. -/
structure Live (database : Database) (target : Target) (home : Schema) (held : Table)
    (index : FullText) : Prop where
  located : database.locate target.schema target.table = .ok (home, held)
  body : held.body = .fullText index
  segments : ∃ rows count, home.indexRows held.name = .ok rows ∧ IndexRecord.segments? rows = some count
  terms : home.checkTerms held.name = .ok ()
  version : (database.read home.name (FullText.indexName held.name FullText.settingsPart)).bind
    Schema.versionOf = .ok Schema.formatVersion
  unlocked : Text.sameName home.name database.main.name = true → database.condition ≠ .locked

theorem Live.follows {before after : Database} {target : Target} {home : Schema} {held : Table}
    {index : FullText} (live : Live before target home held index)
    (follows : before.Follows after) : Live after target home held index where
  located := (follows.locate _ _).trans live.located
  body := live.body
  segments := live.segments
  terms := live.terms
  version := by rw [follows.read]; exact live.version
  unlocked := by rw [follows.main, follows.condition]; exact live.unlocked

def Database.Readable (database : Database) : Prop :=
  database.condition = .usable ∨ (database.condition = .locked ∧ database.isRead = true)

theorem Database.Readable.follows {before after : Database} (readable : before.Readable)
    (follows : before.Follows after) : after.Readable := by
  rcases readable with usable | ⟨locked, isRead⟩
  · exact .inl (follows.condition.trans usable)
  · exact .inr ⟨follows.condition.trans locked, follows.isRead isRead⟩

def Database.Admits (database : Database) (wording : Wording) : Prop :=
  database.condition ≠ .locked ∨ wording ∉ database.sound

namespace Change

variable {database : Database}

theorem touch_ok {schema : String}
    (unlocked : Text.sameName schema database.main.name = true → database.condition ≠ .locked) :
    database.touch schema = .ok () := by
  unfold Database.touch
  split
  · rename_i locked
    simp only [Bool.and_eq_true, beq_iff_eq] at locked
    exact absurd locked.1 (unlocked locked.2)
  · rfl

theorem resume_eq {wording : Wording} (admits : database.Admits wording) :
    resume wording database =
      (.ok (), { database with sound := database.sound.filter (· != wording) }) := by
  unfold resume
  rw [bind_get]
  split
  · rename_i known
    have unlocked : database.condition ≠ .locked := by
      rcases admits with unlocked | unknown
      · exact unlocked
      · simp [unknown] at known
    rw [bind_ok _ (show touch database.main.name database = (.ok (), database) from by
      rw [touch_eq, touch_ok fun _ => unlocked])]
    rfl
  · rename_i unknown
    have kept : database.sound.filter (· != wording) = database.sound := by
      rw [List.filter_eq_self]
      intro other member
      rw [bne_iff_ne]
      rintro rfl
      exact unknown (by simpa using member)
    rw [kept]
    rfl

theorem readCatalog_ok (readable : database.Readable) :
    ∃ after, readCatalog database = (.ok (), after) ∧ database.Follows after ∧ after.isRead = true := by
  rw [readCatalog_eq]
  rcases readable with usable | ⟨locked, isRead⟩
  · rw [usable]
    exact ⟨_, rfl, ⟨rfl, rfl, rfl, usable.symm, fun _ => rfl, List.Subset.refl _⟩, rfl⟩
  · rw [locked, isRead]
    exact ⟨database, rfl, .refl database, isRead⟩

section

variable {target : Target}

theorem matchProbe_missing {fault : Fault}
    (missing : database.locate target.schema target.table = .error fault) (expression : String) :
    matchProbe target expression database = (.error fault, database) := by
  unfold matchProbe
  dsimp only
  rw [bind_find, missing]

-- Of a full-text table the words of a query are looked up once the expression has been read.
theorem matchProbe_fullText {home : Schema} {held : Table} {index : FullText}
    (located : database.locate target.schema target.table = .ok (home, held))
    (body : held.body = .fullText index) (expression : String) :
    matchProbe target expression database =
      (start [(Statement.matchProbe target expression).text] home.name >>= fun _ => (do
        let query ← lift ((Expression.query? index.scope expression).mapError fun fault =>
          Fault.operational fault.message)
        query.forM (search home.name held.name index) : Change Unit)) database := by
  unfold matchProbe
  dsimp only
  rw [bind_find, located]
  dsimp only
  rw [body]

end

section

variable {target : Target} {home : Schema} {held : Table} {index : FullText}
  (live : Live database target home held index)
include live

theorem schemaNow_ok : schemaNow home.name database = (.ok home, database) := by
  have found := Database.schema?_name (Database.locate_eq_ok live.located).1
  have named : database.schemaOr home.name (.unknownDatabase home.name) = .ok home := by
    rw [Database.schemaOr, found]
  change (database.schemaOr home.name (.unknownDatabase home.name), database) = _
  rw [named]

theorem segments_ok :
    ∃ count after, segments home.name held.name database = (.ok count, after) ∧
      database.Follows after := by
  obtain ⟨rows, count, indexed, counted⟩ := live.segments
  unfold segments
  rw [bind_get]
  cases database.segments.lookup (home.name, held.name) with
  | some known => exact ⟨known, database, rfl, .refl database⟩
  | none =>
    dsimp only
    rw [bind_ok _ (schemaNow_ok live), indexed, bind_lift]
    simp only [counted]
    exact ⟨count, _, rfl, ⟨rfl, rfl, rfl, rfl, id, List.Subset.refl _⟩⟩

theorem openIndex_ok :
    ∃ after, openIndex home held.name database = (.ok (), after) ∧ database.Follows after := by
  obtain ⟨count, after, counted, follows⟩ := segments_ok live
  have opened : (do let _ ← segments home.name held.name : Change Unit) database = (.ok (), after) := by
    rw [bind_ok _ counted]
    rfl
  have unlocked : ¬(home.name == database.main.name && database.condition == .locked) = true := by
    rw [Bool.and_eq_true, beq_iff_eq, beq_iff_eq]
    exact fun locked => live.unlocked (by simp [locked.1, Text.sameName_refl]) locked.2
  have version : Schema.checkVersion Schema.formatVersion = .ok () := rfl
  unfold openIndex
  rw [bind_get, if_neg unlocked]
  dsimp only
  rw [bind_ok _ (tryCatch_ok _ opened), live.version]
  simp only [version, bind_lift]
  exact ⟨_, rfl, follows.trans ⟨rfl, rfl, rfl, rfl, id, List.erase_subset⟩⟩

theorem underlying_eq (fuel : Nat) : database.underlying fuel home held = (home, held) := by
  cases fuel with
  | zero => rfl
  | succ fuel =>
    unfold Database.underlying
    rw [live.body]

theorem openTable_ok :
    ∃ after, openTable home held database = (.ok (), after) ∧ database.Follows after := by
  unfold openTable
  rw [bind_get, underlying_eq live]
  dsimp only
  split
  · exact openIndex_ok live
  · exact ⟨database, rfl, .refl database⟩

theorem search_ok (query : Expression.Query) :
    ∃ after, search home.name held.name index query database = (.ok (), after) ∧
      database.Follows after := by
  obtain ⟨count, after, counted, follows⟩ := segments_ok live
  obtain ⟨rows, total, indexed, listed⟩ := live.segments
  unfold search
  rw [bind_ok _ counted]
  split
  · rw [bind_ok _ (schemaNow_ok (live.follows follows)), live.terms, bind_lift, indexed]
    dsimp only
    rw [bind_lift]
    simp only [listed]
    exact ⟨after, rfl, follows⟩
  · exact ⟨after, rfl, follows⟩

-- What a match that begins comes to.
theorem searches_ok (expression : String) :
    ∃ after, (do
        let query ← lift ((Expression.query? index.scope expression).mapError fun fault =>
          Fault.operational fault.message)
        query.forM (search home.name held.name index) : Change Unit) database =
        ((Expression.check index.scope expression).mapError fun fault => .operational fault.message,
          after) ∧ database.Follows after := by
  rw [bind_lift, Expression.check]
  cases Expression.query? index.scope expression with
  | error fault => exact ⟨database, rfl, .refl database⟩
  | ok query =>
    cases query with
    | none => exact ⟨database, rfl, .refl database⟩
    | some query => exact search_ok live query

theorem matchProbe_ok (expression : String) :
    ∃ after, matchProbe target expression database =
        ((Expression.check index.scope expression).mapError fun fault => .operational fault.message,
          after) ∧ database.Follows after := by
  obtain ⟨noted, noting, follows⟩ : ∃ noted,
      start [(Statement.matchProbe target expression).text] home.name database = (.ok (), noted) ∧
        database.Follows noted := by
    rw [start_eq, touch_eq]
    split
    · refine ⟨_, congrArg (·, _) (touch_ok live.unlocked), ?_⟩
      exact ⟨rfl, rfl, rfl, rfl, id, List.Subset.refl _⟩
    · exact ⟨database, by rw [touch_ok live.unlocked], .refl database⟩
  obtain ⟨after, searched, last⟩ := searches_ok (live.follows follows) expression
  refine ⟨after, ?_, follows.trans last⟩
  rw [matchProbe_fullText live.located live.body, bind_ok _ noting]
  exact searched

end

-- Before the catalog is read nothing fails if the schema that is named is there.
theorem answer_begins {α : Type} {statement : Statement α} (looksUp : Database.looksUp statement = true)
    (named : ∀ schema, Database.pragmaSchema? statement = some schema → (database.schema? schema).isSome)
    (writable : '\x00' ∉ statement.text.toList) (admits : database.Admits [statement.text]) :
    ∃ sound isTempUsed, answer statement database =
      (readCatalog >>= fun _ => (Database.usedSchema? statement).forM use >>= fun _ =>
        openTarget statement >>= fun _ => respond statement) { database with sound, isTempUsed } := by
  have resuming := resume_eq admits
  generalize database.sound.filter (· != [statement.text]) = sound at resuming
  obtain ⟨isTempUsed, describing⟩ : ∃ isTempUsed,
      ((Database.pragmaSchema? statement).forM fun schema => do
        let _ ← find fun database => database.described schema
        use schema : Change Unit) { database with sound } =
        (.ok (), { database with sound, isTempUsed }) := by
    cases pragma : Database.pragmaSchema? statement with
    | none => exact ⟨database.isTempUsed, rfl⟩
    | some schema =>
      obtain ⟨home, found⟩ := Option.isSome_iff_exists.1 (named schema pragma)
      have described : { database with sound }.described schema = .ok home :=
        Database.schemaOr_eq_ok.2 found
      have looked : find (fun database => database.described schema) { database with sound } =
          (.ok home, { database with sound }) := Prod.ext described rfl
      exact ⟨_, bind_ok _ looked⟩
  have written : ¬statement.text.toList.contains '\x00' = true := by simpa using writable
  refine ⟨sound, isTempUsed, ?_⟩
  unfold answer
  rw [if_neg written]
  dsimp only
  rw [bind_ok _ resuming, bind_ok _ describing, if_pos looksUp]
  rfl

theorem answer_eq {α : Type} {statement : Statement α} (looksUp : Database.looksUp statement = true)
    (named : ∀ schema, Database.pragmaSchema? statement = some schema → (database.schema? schema).isSome)
    (writable : '\x00' ∉ statement.text.toList) (admits : database.Admits [statement.text])
    (readable : database.Readable) :
    ∃ ready, database.Follows ready ∧ ready.isRead = true ∧
      answer statement database = (openTarget statement >>= fun _ => respond statement) ready := by
  obtain ⟨sound, isTempUsed, begun⟩ := answer_begins looksUp named writable admits
  have first : database.Follows { database with sound, isTempUsed } :=
    ⟨rfl, rfl, rfl, rfl, id, List.Subset.refl _⟩
  obtain ⟨read, reading, second, isRead⟩ := readCatalog_ok (readable.follows first)
  obtain ⟨ready, using_, last⟩ : ∃ ready,
      (Database.usedSchema? statement).forM use read = (.ok (), ready) ∧ read.Follows ready := by
    cases Database.usedSchema? statement with
    | none => exact ⟨read, rfl, .refl read⟩
    | some schema => exact ⟨_, rfl, ⟨rfl, rfl, rfl, rfl, id, List.Subset.refl _⟩⟩
  refine ⟨ready, first.trans (second.trans last), last.isRead isRead, ?_⟩
  rw [begun, bind_ok _ reading, bind_ok _ using_]

theorem answer_ok {α : Type} {statement : Statement α} {value : α} {after : Database}
    (looksUp : Database.looksUp statement = true) (noPragma : Database.pragmaSchema? statement = none)
    (done : answer statement database = (.ok value, after)) :
    ∃ ready, database.Follows ready ∧ ready.Readable ∧
      (openTarget statement >>= fun _ => respond statement) ready = (.ok value, after) := by
  have steady := database.steady_follows
  unfold answer at done
  split at done
  · cases done
  · obtain ⟨_, resumed, resuming, done⟩ := bind_eq_ok done
    have first : database.Follows resumed := by
      simpa [resuming] using keeps_resume steady [statement.text] database (.refl database)
    rw [noPragma] at done
    obtain ⟨_, same, quiet, done⟩ := bind_eq_ok done
    cases quiet
    obtain ⟨_, read, reading, done⟩ := bind_eq_ok done
    have second : database.Follows read := by
      simpa [reading] using keeps_readCatalog steady resumed first
    have readable : read.Readable := by
      rw [readCatalog_eq] at reading
      split at reading
      · cases reading
      · rename_i locked
        split at reading
        · rename_i isRead
          cases reading
          exact .inr ⟨locked, isRead⟩
        · cases reading
      · rename_i usable
        cases reading
        exact .inl usable
    obtain ⟨_, ready, using_, done⟩ := bind_eq_ok done
    have uses : Keeps read.Follows ((Database.usedSchema? statement).forM use) :=
      keeps_option_forM fun schema _ => keeps_use read.steady_follows schema
    have third : read.Follows ready := by simpa [using_] using uses read (.refl read)
    exact ⟨ready, second.trans third, readable.follows third, done⟩

theorem answer_match {target : Target} {home : Schema} {held : Table} {index : FullText}
    (live : Live database target home held index) (expression : String)
    (writable : '\x00' ∉ (Statement.matchProbe target expression).text.toList)
    (admits : database.Admits [(Statement.matchProbe target expression).text])
    (readable : database.Readable) :
    ∃ after, answer (.matchProbe target expression) database =
        ((Expression.check index.scope expression).mapError fun fault => .operational fault.message,
          after) ∧ database.Follows after := by
  obtain ⟨ready, first, -, answered⟩ := answer_eq rfl (by simp [Database.pragmaSchema?]) writable admits readable
  have live := live.follows first
  obtain ⟨opened, opening, second⟩ := openTable_ok live
  obtain ⟨after, matched, last⟩ := matchProbe_ok (live.follows second) expression
  refine ⟨after, ?_, first.trans (second.trans last)⟩
  have targeted : openTarget (.matchProbe target expression) ready = (.ok (), opened) := by
    change (get >>= _ : Change Unit) ready = _
    rw [bind_get, live.located]
    exact opening
  rw [answered, bind_ok _ targeted]
  exact matched

end Change

end TextQuery.Engine
