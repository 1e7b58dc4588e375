import TextQuery.Proofs.Engine.Matching

set_option autoImplicit false

namespace TextQuery.Engine

/-- A later state of a database with the same tables, in which the known numbers of segments are still
known. -/
structure Database.Retains (before after : Database) : Prop extends Follows before after where
  segments : ∀ entry count, before.segments.lookup entry = some count →
    after.segments.lookup entry = some count

namespace Database

variable {before middle after database : Database}

theorem Retains.refl (database : Database) : Retains database database :=
  ⟨.refl database, fun _ _ known => known⟩

theorem Retains.trans (first : Retains before middle) (second : Retains middle after) :
    Retains before after :=
  ⟨first.toFollows.trans second.toFollows, fun entry count known =>
    second.segments entry count (first.segments entry count known)⟩

theorem Retains.noted (database : Database) (sound : List Wording) (isTempUsed : Bool) :
    Retains database { database with sound, isTempUsed } :=
  ⟨⟨rfl, rfl, rfl, rfl, id, List.Subset.refl _⟩, fun _ _ known => known⟩

end Database

namespace Change

variable {α β : Type} {before after database : Database}

/-- A change that, once it has gone well, only leaves notes, and goes well again with the same result
wherever these are retained. -/
def Repeats (change : Change α) : Prop :=
  ∀ before value after, change before = (.ok value, after) → before.Retains after ∧
    ∀ later, after.Retains later → ∃ last, change later = (.ok value, last) ∧ later.Retains last

theorem repeats_pure (value : α) : Repeats (pure value : Change α) := by
  intro before other after done
  cases done
  exact ⟨.refl _, fun later _ => ⟨later, rfl, .refl later⟩⟩

theorem repeats_throw (fault : Fault) : Repeats (throw fault : Change α) := by
  intro before value after done
  cases done

theorem repeats_lift (result : Except Fault α) : Repeats (lift result) := by
  intro before value after done
  cases done
  exact ⟨.refl _, fun later _ => ⟨later, rfl, .refl later⟩⟩

theorem repeats_find {look : Database → Except Fault α}
    (steady : ∀ {before after : Database}, before.Follows after → look after = look before) :
    Repeats (find look) := by
  intro before value after done
  obtain ⟨told, rfl⟩ := Prod.mk.inj (show (look before, before) = (.ok value, after) from done)
  refine ⟨.refl _, fun later retains => ⟨later, ?_, .refl later⟩⟩
  exact Prod.ext ((steady retains.toFollows).trans told) rfl

theorem repeats_bind {first : Change α} {next : α → Change β} (repeats : Repeats first)
    (repeatsNext : ∀ value, Repeats (next value)) : Repeats (first >>= next) := by
  intro before result after done
  obtain ⟨value, middle, begun, ended⟩ := bind_eq_ok done
  obtain ⟨start, again⟩ := repeats before value middle begun
  obtain ⟨rest, againNext⟩ := repeatsNext value middle result after ended
  refine ⟨start.trans rest, ?_⟩
  intro later retains
  obtain ⟨noted, repeated, toNoted⟩ := again later (rest.trans retains)
  obtain ⟨last, done, toLast⟩ := againNext noted (retains.trans toNoted)
  exact ⟨last, (bind_ok next repeated).trans done, toNoted.trans toLast⟩

theorem repeats_throw_bind (fault : Fault) (next : α → Change β) : Repeats (throw fault >>= next) := by
  intro before value after done
  cases done

theorem repeats_forM {entry : Option α} {body : α → Change PUnit}
    (repeats : ∀ value, Repeats (body value)) : Repeats (entry.forM body) := by
  cases entry with
  | none => exact repeats_pure _
  | some value => exact repeats value

-- A change of notes that always goes well.
theorem repeats_modify {edit : Database → Database}
    (retains : ∀ database, Database.Retains database (edit database)) :
    Repeats (modify edit : Change PUnit) := by
  intro before value after done
  obtain ⟨-, rfl⟩ := Prod.mk.inj (show (Except.ok PUnit.unit, edit before) = (.ok value, after) from done)
  exact ⟨retains before, fun later _ => ⟨edit later, rfl, retains later⟩⟩

theorem repeats_readCatalog : Repeats readCatalog := by
  intro before value after done
  have noted (database : Database) : database.Retains { database with isRead := true } :=
    ⟨⟨rfl, rfl, rfl, rfl, fun _ => rfl, List.Subset.refl _⟩, fun _ _ known => known⟩
  rw [readCatalog_eq] at done
  split at done
  · cases done
  · rename_i locked
    split at done
    · rename_i isRead
      cases done
      refine ⟨.refl _, fun later retains => ⟨later, ?_, .refl later⟩⟩
      simp only [readCatalog_eq, retains.condition, locked, retains.isRead isRead, if_true]
    · cases done
  · rename_i usable
    cases done
    refine ⟨noted before, fun later retains => ⟨_, ?_, noted later⟩⟩
    have condition : later.condition = before.condition := retains.condition
    simp only [readCatalog_eq, condition, usable]

theorem repeats_schemaNow (name : String) : Repeats (schemaNow name) :=
  repeats_find fun follows => follows.schemaOr _ _

-- What is counted once is looked up after that.
theorem repeats_segments (home table : String) : Repeats (segments home table) := by
  intro before count after done
  have known (database : Database) (found : database.segments.lookup (home, table) = some count) :
      segments home table database = (.ok count, database) := by
    unfold segments
    rw [bind_get, found]
    rfl
  unfold segments at done
  rw [bind_get] at done
  cases found : before.segments.lookup (home, table) with
  | some held =>
    rw [found] at done
    cases done
    exact ⟨.refl _, fun later retains =>
      ⟨later, known later (retains.segments _ _ found), .refl later⟩⟩
  | none =>
    rw [found] at done
    obtain ⟨schema, middle, named, done⟩ := bind_eq_ok done
    obtain ⟨-, rfl⟩ := Prod.mk.inj named
    obtain ⟨rows, middle, indexed, done⟩ := bind_eq_ok done
    obtain ⟨-, rfl⟩ := Prod.mk.inj indexed
    cases counted : IndexRecord.segments? rows with
    | none =>
      rw [counted] at done
      cases done
    | some number =>
      rw [counted] at done
      cases done
      have noted : before.Retains
          { before with segments := ((home, table), count) :: before.segments } := by
        refine ⟨⟨rfl, rfl, rfl, rfl, id, List.Subset.refl _⟩, ?_⟩
        intro entry other held
        by_cases same : entry = (home, table)
        · rw [same, found] at held
          cases held
        · have differs : (entry == (home, table)) = false := by simpa using same
          rw [List.lookup_cons, differs]
          exact held
      refine ⟨noted, fun later retains => ⟨later, known later (retains.segments _ _ ?_), .refl later⟩⟩
      simp

theorem repeats_tryCatch {change : Change α} {handle : Fault → Change α} (repeats : Repeats change)
    (fails : ∀ fault database, ∃ other after, handle fault database = (.error other, after)) :
    Repeats (tryCatch change handle) := by
  intro before value after done
  cases ran : change before with
  | mk result middle =>
    cases result with
    | error fault =>
      obtain ⟨other, last, failed⟩ := fails fault middle
      rw [tryCatch_error handle ran, failed] at done
      cases done
    | ok found =>
      rw [tryCatch_ok handle ran] at done
      cases done
      obtain ⟨retains, again⟩ := repeats before value after ran
      refine ⟨retains, fun later since => ?_⟩
      obtain ⟨last, repeated, noted⟩ := again later since
      exact ⟨last, tryCatch_ok handle repeated, noted⟩

-- What is done with a database that is only looked at.
theorem repeats_bind_get {next : Database → Change β}
    (same : ∀ {before after : Database}, before.Follows after → next after = next before)
    (repeats : ∀ database, Repeats (next database)) : Repeats (get >>= next) := by
  intro before value after done
  rw [bind_get] at done
  obtain ⟨retains, again⟩ := repeats before before value after done
  refine ⟨retains, fun later since => ?_⟩
  rw [bind_get, same (retains.trans since).toFollows]
  exact again later since

theorem repeats_openIndex (home : Schema) (table : String) : Repeats (openIndex home table) := by
  have counted : Repeats (tryCatch (do let _ ← segments home.name table) fun _ =>
      throw (Schema.damagedIndex table)) := by
    apply repeats_tryCatch
    · exact repeats_bind (repeats_segments _ _) fun _ => repeats_pure _
    · exact fun _ database => ⟨_, database, rfl⟩
  have noted : Repeats (modify fun database =>
      { database with unopened := database.unopened.erase (home.name, table) } : Change PUnit) :=
    repeats_modify fun database =>
      ⟨⟨rfl, rfl, rfl, rfl, id, List.erase_subset⟩, fun _ _ known => known⟩
  unfold openIndex
  apply repeats_bind_get
  · intro before after follows
    simp only [follows.main, follows.condition, follows.read]
  · intro database
    dsimp only
    split
    · exact repeats_throw_bind _ _
    · refine repeats_bind counted ?_
      intro _
      split
      · exact repeats_bind (repeats_lift _) fun _ => noted
      · exact repeats_throw_bind _ _

-- An index that has been opened need not be opened again.
theorem repeats_openTable (home : Schema) (held : Table) : Repeats (openTable home held) := by
  intro before value after done
  unfold openTable at done ⊢
  rw [bind_get] at done
  have same (later : Database) (follows : before.Follows later) :
      later.underlying later.tableFuel home held = before.underlying before.tableFuel home held := by
    rw [follows.underlying, Database.tableFuel, Database.tableFuel, follows.schemas]
  generalize before.underlying before.tableFuel home held = under at done same
  dsimp only at done
  split at done
  · obtain ⟨retains, again⟩ := repeats_openIndex under.1 under.2.name before value after done
    refine ⟨retains, fun later since => ?_⟩
    rw [bind_get, same later (retains.trans since).toFollows]
    dsimp only
    split
    · exact again later since
    · exact ⟨later, rfl, .refl later⟩
  · rename_i opened
    cases done
    refine ⟨.refl _, fun later since => ⟨later, ?_, .refl later⟩⟩
    rw [bind_get, same later since.toFollows]
    dsimp only
    rw [if_neg]
    · rfl
    · rw [List.contains_iff_mem] at opened ⊢
      exact fun unopened => opened (since.unopened unopened)

theorem repeats_openTarget {γ : Type} (statement : Statement γ) : Repeats (openTarget statement) := by
  apply repeats_forM
  intro target
  apply repeats_bind_get
  · intro before after follows
    rw [follows.locate]
  · intro database
    split
    · exact repeats_openTable _ _
    · exact repeats_pure _

theorem repeats_start (wording : Wording) (schema : String) : Repeats (start wording schema) := by
  intro before value after done
  rw [start_eq, touch_eq] at done
  obtain ⟨touched, rfl⟩ := Prod.mk.inj done
  have noted (database : Database) : database.Retains
      (if Text.sameName schema database.main.name then
        { database with sound := wording :: database.sound } else database) := by
    split
    · exact .noted database _ _
    · exact .refl database
  refine ⟨noted before, fun later since => ⟨_, ?_, noted later⟩⟩
  rw [start_eq, touch_eq, (noted later).touch, since.touch, touched]

theorem repeats_search (home table : String) (index : FullText) (query : Expression.Query) :
    Repeats (search home table index query) := by
  unfold search
  refine repeats_bind (repeats_segments home table) ?_
  intro count
  split
  · refine repeats_bind (repeats_schemaNow home) ?_
    intro schema
    refine repeats_bind (repeats_lift _) ?_
    intro _
    refine repeats_bind (repeats_lift _) ?_
    intro rows
    split
    · exact repeats_throw _
    · exact repeats_pure _
  · exact repeats_pure _

theorem repeats_matchProbe (target : Target) (expression : String) :
    Repeats (matchProbe target expression) := by
  unfold matchProbe
  refine repeats_bind (repeats_find fun follows => follows.locate _ _) ?_
  intro located
  dsimp only
  split
  · refine repeats_bind (repeats_start _ _) ?_
    intro _
    refine repeats_bind (repeats_lift _) ?_
    intro query
    exact repeats_forM fun found => repeats_search _ _ _ found
  · refine repeats_bind (repeats_find fun follows => follows.relationOf _ _) ?_
    intro relation
    refine repeats_bind (repeats_lift _) ?_
    intro _
    refine repeats_bind (repeats_start _ _) ?_
    intro _
    refine repeats_bind (repeats_lift _) ?_
    intro rows
    split
    · exact repeats_throw _
    · exact repeats_pure _

theorem indifferent_admits (wording : Wording) : Indifferent fun database => database.Admits wording where
  noted _ _ _ _ admits := admits
  read admits := admits
  checked fewer admits := admits.imp_right fun unknown known => unknown (fewer known)

-- A statement that begins to run with a lock on its schema fails, so it is not held up later.
theorem admits_start {wording : Wording} {schema : String} (admits : before.Admits wording)
    (done : start wording schema before = (.ok (), after)) : after.Admits wording := by
  rw [start_eq, touch_eq] at done
  obtain ⟨touched, rfl⟩ := Prod.mk.inj done
  split at touched
  · rename_i main
    rw [if_pos main]
    refine .inl fun locked => ?_
    simp only [Database.touch, Bool.and_eq_true, beq_iff_eq] at touched
    rw [if_pos ⟨locked, main⟩] at touched
    cases touched
  · rename_i other
    rw [if_neg other]
    exact admits

theorem admits_matchProbe {target : Target} {expression : String}
    (admits : before.Admits [(Statement.matchProbe target expression).text])
    (done : matchProbe target expression before = (.ok (), after)) :
    after.Admits [(Statement.matchProbe target expression).text] := by
  have steady := (indifferent_admits [(Statement.matchProbe target expression).text]).steady
  unfold matchProbe at done
  obtain ⟨⟨home, held⟩, middle, located, done⟩ := bind_eq_ok done
  obtain ⟨-, rfl⟩ := Prod.mk.inj located
  dsimp only at done
  cases body : held.body with
  | fullText index =>
    simp only [body] at done
    obtain ⟨_, begun, starting, done⟩ := bind_eq_ok done
    have kept := keeps_searches steady home.name held.name index expression begun
      (admits_start admits starting)
    rwa [done] at kept
  | ordinary | splitter | view | catalog =>
    simp only [body] at done
    obtain ⟨relation, middle, found, done⟩ := bind_eq_ok done
    obtain ⟨-, rfl⟩ := Prod.mk.inj found
    obtain ⟨_, middle, numbered, done⟩ := bind_eq_ok done
    obtain ⟨-, rfl⟩ := Prod.mk.inj numbered
    obtain ⟨_, begun, starting, done⟩ := bind_eq_ok done
    obtain ⟨rows, middle, listed, done⟩ := bind_eq_ok done
    obtain ⟨-, rfl⟩ := Prod.mk.inj listed
    have kept := admits_start admits starting
    cases empty : rows.isEmpty with
    | false =>
      simp only [empty] at done
      cases done
    | true =>
      simp only [empty] at done
      cases done
      exact kept

-- What a match runs once its wording is no longer known to be sound.
def matching (target : Target) (expression : String) : Change Unit := do
  readCatalog
  openTarget (.matchProbe target expression)
  matchProbe target expression

section

variable {target : Target} {expression : String}

theorem match_eq (writable : '\x00' ∉ (Statement.matchProbe target expression).text.toList)
    (admits : database.Admits [(Statement.matchProbe target expression).text]) :
    answer (.matchProbe target expression) database = matching target expression
      { database with
        sound := database.sound.filter (· != [(Statement.matchProbe target expression).text]) } := by
  have written : ¬(Statement.matchProbe target expression).text.toList.contains '\x00' = true := by
    simpa using writable
  have resuming := resume_eq admits
  generalize database.sound.filter (· != [(Statement.matchProbe target expression).text]) = sound
    at resuming ⊢
  unfold answer
  rw [if_neg written]
  dsimp only
  rw [bind_ok _ resuming]
  simp only [Database.pragmaSchema?, Database.usedSchema?, Database.looksUp, Option.forM, pure_bind, if_true]
  rfl

theorem repeats_matching (target : Target) (expression : String) : Repeats (matching target expression) :=
  repeats_bind repeats_readCatalog fun _ =>
    repeats_bind (repeats_openTarget _) fun _ => repeats_matchProbe target expression

theorem admits_matching (admits : before.Admits [(Statement.matchProbe target expression).text])
    (done : matching target expression before = (.ok (), after)) :
    after.Admits [(Statement.matchProbe target expression).text] := by
  have steady := (indifferent_admits [(Statement.matchProbe target expression).text]).steady
  unfold matching at done
  obtain ⟨_, read, reading, done⟩ := bind_eq_ok done
  obtain ⟨_, opened, opening, done⟩ := bind_eq_ok done
  have first := keeps_readCatalog steady before admits
  rw [reading] at first
  have second := keeps_openTarget steady (.matchProbe target expression) read first
  rw [opening] at second
  exact admits_matchProbe second done

theorem admits_of_resume {wording : Wording} (done : resume wording before = (.ok (), after)) :
    before.Admits wording := by
  by_cases known : wording ∈ before.sound
  · refine .inl fun locked => ?_
    have busy : before.touch before.main.name = .error .busy := by
      unfold Database.touch
      rw [if_pos (by simp [locked, Text.sameName_refl])]
    have touched : touch before.main.name before = (.error .busy, before) := by rw [touch_eq, busy]
    unfold resume at done
    rw [bind_get, if_pos (by simpa using known), bind_error _ touched] at done
    cases done
  · exact .inr known

-- A match that is answered could be written, and was not held up.
theorem begun_of_answer (done : answer (.matchProbe target expression) before = (.ok (), after)) :
    '\x00' ∉ (Statement.matchProbe target expression).text.toList ∧
      before.Admits [(Statement.matchProbe target expression).text] := by
  unfold answer at done
  split at done
  · cases done
  · rename_i written
    obtain ⟨_, resumed, resuming, -⟩ := bind_eq_ok done
    exact ⟨by simpa using written, admits_of_resume resuming⟩

end

end Change

/-- A database on which a match is accepted, now and as long as only notes are added. -/
structure Database.Accepts (target : Target) (expression : String) (database : Database) : Prop where
  admits : database.Admits [(Statement.matchProbe target expression).text]
  again : ∀ later, database.Retains later → later.Admits [(Statement.matchProbe target expression).text] →
    ∃ last, Engine.answer (.matchProbe target expression) later = (.ok (), last) ∧ later.Retains last ∧
      last.Admits [(Statement.matchProbe target expression).text]

namespace Database.Accepts

open Change

variable {target : Target} {expression : String} {before after database : Database}

theorem answer_ok (accepts : database.Accepts target expression) :
    ∃ last, Engine.answer (.matchProbe target expression) database = (.ok (), last) ∧
      database.Retains last ∧ last.Accepts target expression := by
  obtain ⟨last, answered, retains, admits⟩ := accepts.again database (.refl database) accepts.admits
  exact ⟨last, answered, retains, admits, fun later since => accepts.again later (retains.trans since)⟩

theorem of_answer (done : Engine.answer (.matchProbe target expression) before = (.ok (), after)) :
    after.Accepts target expression := by
  have forgotten (database : Database) : { database with
      sound := database.sound.filter (· != [(Statement.matchProbe target expression).text]) }.Admits
        [(Statement.matchProbe target expression).text] := .inr (by simp)
  obtain ⟨writable, admits⟩ := begun_of_answer done
  rw [show Engine.answer (.matchProbe target expression) before = _ from match_eq writable admits] at done
  obtain ⟨-, again⟩ := repeats_matching target expression _ _ _ done
  refine ⟨admits_matching (forgotten before) done, ?_⟩
  intro later since admits
  have noted := Retains.noted later
    (later.sound.filter (· != [(Statement.matchProbe target expression).text])) later.isTempUsed
  obtain ⟨last, repeated, retains⟩ := again _ (since.trans noted)
  refine ⟨last, ?_, noted.trans retains, admits_matching (forgotten later) repeated⟩
  exact (match_eq writable admits).trans repeated

end Database.Accepts

end TextQuery.Engine
