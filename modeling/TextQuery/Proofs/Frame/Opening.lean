import TextQuery.Proofs.Catalog.Looking
import TextQuery.Proofs.Frame.Growing

set_option autoImplicit false

namespace TextQuery.Engine

open Text

namespace Database

def counted (database : Database) (entry : String × String) : Except Fault Nat :=
  (database.schemaOr entry.1 (.unknownDatabase entry.1)).bind fun home =>
    (home.indexRows entry.2).bind fun rows =>
      match IndexRecord.segments? rows with
      | some count => .ok count
      | none => .error .malformedImage

def isCountable (database : Database) (entry : String × String) : Bool :=
  (database.segments.lookup entry).isSome || (database.counted entry).isOk

def settled (database : Database) (entry : String × String) : Except Fault Unit :=
  match (database.read entry.1 (FullText.indexName entry.2 FullText.settingsPart)).bind Schema.versionOf with
  | .ok version => Schema.checkVersion version
  | .error _ => .error (constructorFailed entry.2)

def opening (database : Database) (entry : String × String) : Except Fault Unit :=
  if entry.1 == database.main.name && database.condition == .locked then
    .error (constructorFailed entry.2)
  else if database.isCountable entry then database.settled entry
  else .error (Schema.damagedIndex entry.2)

def opens (database : Database) (entry : String × String) : Except Fault Unit :=
  if database.unopened.contains entry then database.opening entry else .ok ()

/-- A later state of a database in which nothing that was noted has been forgotten, and nothing has been
noted that is not so. -/
structure Recalls (before after : Database) : Prop extends Follows before after where
  locked : before.condition = .locked → after.isRead = before.isRead
  known : ∀ entry, (before.segments.lookup entry).isSome = true → (after.segments.lookup entry).isSome = true
  noted : ∀ entry, (after.segments.lookup entry).isSome = true → before.isCountable entry = true
  opened : ∀ entry ∈ before.unopened, entry ∉ after.unopened → before.opening entry = .ok ()

variable {before after database : Database}

theorem Recalls.refl (database : Database) : database.Recalls database where
  toFollows := .refl database
  locked _ := rfl
  known _ known := known
  noted entry known := by rw [isCountable, known, Bool.true_or]
  opened _ earlier later := absurd earlier later

theorem Follows.counted (follows : before.Follows after) (entry : String × String) :
    after.counted entry = before.counted entry := by
  unfold Database.counted
  rw [follows.schemaOr]

theorem Follows.settled (follows : before.Follows after) (entry : String × String) :
    after.settled entry = before.settled entry := by
  unfold Database.settled
  rw [follows.read]

theorem Recalls.isCountable (recalls : before.Recalls after) (entry : String × String) :
    after.isCountable entry = before.isCountable entry := by
  rw [Bool.eq_iff_iff]
  constructor
  · intro countable
    unfold Database.isCountable at countable
    rw [recalls.counted, Bool.or_eq_true] at countable
    rcases countable with known | counted
    · exact recalls.noted entry known
    · rw [Database.isCountable, counted, Bool.or_true]
  · intro countable
    unfold Database.isCountable at countable ⊢
    rw [recalls.counted]
    rcases Bool.or_eq_true .. ▸ countable with known | counted
    · rw [recalls.known entry known, Bool.true_or]
    · rw [counted, Bool.or_true]

theorem Recalls.opening (recalls : before.Recalls after) (entry : String × String) :
    after.opening entry = before.opening entry := by
  unfold Database.opening
  rw [recalls.main, recalls.condition, recalls.settled, recalls.isCountable]

theorem Recalls.opens (recalls : before.Recalls after) (entry : String × String) :
    after.opens entry = before.opens entry := by
  unfold Database.opens
  rw [recalls.opening]
  by_cases later : entry ∈ after.unopened
  · rw [if_pos (by simpa using later), if_pos (by simpa using recalls.unopened later)]
  · rw [if_neg (by simpa using later)]
    split
    · rename_i earlier
      exact (recalls.opened entry (by simpa using earlier) later).symm
    · rfl

theorem Recalls.reading (recalls : before.Recalls after) : after.reading = before.reading := by
  unfold Database.reading
  rw [recalls.condition]
  split
  · rfl
  · rename_i locked
    rw [recalls.locked locked]
  · rfl

end Database

namespace Change

variable {database : Database}

theorem segments_eq (home table : String) (database : Database) :
    segments home table database =
      match database.segments.lookup (home, table) with
      | some count => (.ok count, database)
      | none =>
        match database.counted (home, table) with
        | .ok count => (.ok count, { database with segments := ((home, table), count) :: database.segments })
        | .error fault => (.error fault, database) := by
  unfold segments
  rw [bind_get]
  cases database.segments.lookup (home, table) with
  | some count => rfl
  | none =>
    dsimp only
    unfold Database.counted schemaNow
    rw [bind_find]
    cases database.schemaOr home (.unknownDatabase home) with
    | error fault => rfl
    | ok found =>
      simp only [Except.bind, bind_lift]
      cases found.indexRows table with
      | error fault => rfl
      | ok rows =>
        dsimp only
        cases IndexRecord.segments? rows <;> rfl

theorem segments_recalls (home table : String) (database : Database) :
    (segments home table database).1.isOk = database.isCountable (home, table) ∧
      database.Recalls (segments home table database).2 := by
  rw [segments_eq]
  cases known : database.segments.lookup (home, table) with
  | some count =>
    refine ⟨?_, .refl database⟩
    rw [Database.isCountable, known]
    rfl
  | none =>
    cases counted : database.counted (home, table) with
    | error fault =>
      refine ⟨?_, .refl database⟩
      rw [Database.isCountable, known, counted]
      rfl
    | ok count =>
      refine ⟨?_, ⟨⟨rfl, rfl, rfl, rfl, id, List.Subset.refl _⟩, fun _ => rfl, ?_, ?_, ?_⟩⟩
      · rw [Database.isCountable, known, counted]
        rfl
      · intro entry found
        rw [List.lookup_cons]
        split
        · rfl
        · exact found
      · intro entry found
        rw [List.lookup_cons] at found
        split at found
        · rename_i same
          rw [beq_iff_eq.1 same, Database.isCountable, counted]
          exact Bool.or_true _
        · rw [Database.isCountable, found, Bool.true_or]
      · exact fun entry earlier later => absurd earlier later

theorem openIndex_eq (home : Schema) (table : String) (database : Database) :
    openIndex home table database =
      if home.name == database.main.name && database.condition == .locked then
        (.error (constructorFailed table), database)
      else match segments home.name table database with
        | (.error _, after) => (.error (Schema.damagedIndex table), after)
        | (.ok _, after) =>
          match database.settled (home.name, table) with
          | .error fault => (.error fault, after)
          | .ok _ => (.ok (), { after with unopened := after.unopened.erase (home.name, table) }) := by
  unfold openIndex
  rw [bind_get]
  split
  · rfl
  · dsimp only
    cases counted : segments home.name table database with
    | mk answer after =>
      cases answer with
      | error fault =>
        have failed : (do let _ ← segments home.name table : Change Unit) database = (.error fault, after) :=
          bind_error _ counted
        have damaged : (tryCatch (do let _ ← segments home.name table) fun _ =>
            throw (Schema.damagedIndex table) : Change Unit) database =
            (.error (Schema.damagedIndex table), after) := tryCatch_error _ failed
        exact bind_error _ damaged
      | ok count =>
        have done : (do let _ ← segments home.name table : Change Unit) database = (.ok (), after) := by
          rw [bind_ok _ counted]
          rfl
        rw [bind_ok _ (tryCatch_ok _ done)]
        unfold Database.settled
        cases (database.read home.name (FullText.indexName table FullText.settingsPart)).bind
          Schema.versionOf with
        | error fault => rfl
        | ok version =>
          dsimp only
          rw [bind_lift]
          cases Schema.checkVersion version <;> rfl

theorem openIndex_recalls (home : Schema) (table : String) (database : Database) :
    (openIndex home table database).1 = database.opening (home.name, table) ∧
      database.Recalls (openIndex home table database).2 := by
  obtain ⟨counted, recalls⟩ := segments_recalls home.name table database
  rw [openIndex_eq, Database.opening]
  split
  · exact ⟨rfl, .refl database⟩
  · cases result : segments home.name table database with
    | mk answer after =>
      rw [result] at counted recalls
      cases answer with
      | error fault =>
        rw [if_neg (by rw [← counted]; simp [Except.isOk, Except.toBool])]
        exact ⟨rfl, recalls⟩
      | ok count =>
        rw [if_pos (by rw [← counted]; rfl)]
        cases settled : database.settled (home.name, table) with
        | error fault => exact ⟨rfl, recalls⟩
        | ok _ =>
          have opened : database.opening (home.name, table) = .ok () := by
            rw [Database.opening, if_neg ‹_›, if_pos (by rw [← counted]; rfl), settled]
          refine ⟨rfl, ⟨{ recalls.toFollows with unopened := ?_ }, recalls.locked, recalls.known,
            recalls.noted, ?_⟩⟩
          · exact List.Subset.trans List.erase_subset recalls.unopened
          · intro entry earlier later
            by_cases same : entry = (home.name, table)
            · rw [same, opened]
            · refine recalls.opened entry earlier fun still => later ?_
              exact (List.mem_erase_of_ne same).2 still

end Change

-- What is kept as long as nothing is forgotten is kept by whatever only looks at a database. Something else that is
-- kept too may be needed for that.
theorem Steady.of_recalls {P Q : Database → Prop} (steady : Steady Q)
    (weaken : ∀ {database : Database}, P database → Q database)
    (kept : ∀ {before after : Database}, P before → before.Recalls after → Q after → P after) :
    Steady P where
  used schema database holds :=
    kept holds { Database.Recalls.refl database with
      toFollows := ⟨rfl, rfl, rfl, rfl, id, List.Subset.refl _⟩ } (steady.used schema database (weaken holds))
  read database holds := by
    refine kept holds ?_ (steady.read database (weaken holds))
    rw [Change.readCatalog_eq]
    split
    · exact .refl database
    · split <;> exact .refl database
    · rename_i usable
      refine { Database.Recalls.refl database with
        toFollows := ⟨rfl, rfl, rfl, rfl, fun _ => rfl, List.Subset.refl _⟩, locked := ?_ }
      intro locked
      rw [usable] at locked
      cases locked
  checked fewer holds :=
    kept holds { Database.Recalls.refl _ with toFollows := ⟨rfl, rfl, rfl, rfl, id, List.Subset.refl _⟩ }
      (steady.checked fewer (weaken holds))
  counted home table database holds :=
    kept holds (Change.segments_recalls home table database).2 (steady.counted home table database (weaken holds))
  opened home table database holds :=
    kept holds (Change.openIndex_recalls home table database).2 (steady.opened home table database (weaken holds))

namespace Database

def Indexed (database : Database) (entry : String × String) : Prop :=
  ∃ home ∈ database.schemas, ∃ table ∈ home.tables,
    home.name = entry.1 ∧ table.name = entry.2 ∧ table.isFullText = true

variable {base database : Database} {made : List Table}

-- The schema that stands for one of a name.
theorem Grows.stand (regular : base.Regular) (grows : base.Grows made database) {name : String}
    {home : Schema} (found : base.schema? name = some home) :
    ∃ later, database.schema? name = some later ∧ base.Stands made home later := by
  have related := grows.schema? regular name
  rw [found] at related
  generalize database.schema? name = looked at related
  cases related with
  | some stands => exact ⟨_, rfl, stands⟩

theorem Grows.locate (regular : base.Regular) (grows : base.Grows made database) {schema table : String}
    (knows : ∀ home, base.schema? schema = some home → home = base.temp → base.temp.Knows made table) :
    Alike (fun one other => base.Stands made one.1 other.1 ∧ other.2 = one.2 ∧
        base.schema? schema = some one.1 ∧ one.1.find? table = some one.2)
      (base.locate schema table) (database.locate schema table) := by
  unfold Database.locate Database.schemaOr
  have related := grows.schema? regular schema
  generalize found : base.schema? schema = one at related
  generalize database.schema? schema = other at related
  cases related with
  | none => exact .error _
  | @some home later stands =>
    simp only [bind, Except.bind]
    rw [stands.find? fun same => same ▸ knows home found same]
    cases looked : home.find? table with
    | none => exact .error _
    | some held => exact .ok ⟨stands, rfl, rfl, looked⟩

theorem Grows.read (regular : base.Regular) (grows : base.Grows made database) (covers : base.Covers made)
    {schema table : String}
    (knows : ∀ home, base.schema? schema = some home → home = base.temp → base.temp.Knows made table) :
    Alike Relation.Near (base.read schema table) (database.read schema table) := by
  refine (grows.locate regular knows).bind ?_
  rintro ⟨home, held⟩ ⟨later, other⟩ ⟨stands, rfl, -, looked⟩
  exact grows.relationOf regular covers stands (Schema.find?_there looked)

section

variable (regular : base.Regular) (grows : base.Grows made database) (covers : base.Covers made)
  {entry : String × String} (indexed : base.Indexed entry)
include regular grows covers indexed

omit grows in
-- The tables of an index are those that they were.
theorem Covers.knows_part {part : String} (member : part ∈ FullText.parts) {home : Schema}
    (found : base.schema? entry.1 = some home) (same : home = base.temp) :
    base.temp.Knows made (FullText.indexName entry.2 part) := by
  obtain ⟨inside, known, table, there, named, called, isFullText⟩ := indexed
  have here : inside = base.temp := by
    rw [← same]
    exact regular.home_eq found known (by rw [named, sameName_refl])
  refine covers table (here ▸ there) _ ?_
  rw [← called]
  unfold Table.isFullText at isFullText
  unfold Table.sources
  split at isFullText
  · rename_i index body
    rw [body]
    exact List.mem_append_right _ (List.mem_map_of_mem member)
  · cases isFullText

theorem Grows.counted : database.counted entry = base.counted entry := by
  obtain ⟨home, found⟩ : ∃ home, base.schema? entry.1 = some home := by
    obtain ⟨home, known, -, -, named, -⟩ := indexed
    exact ⟨home, named ▸ regular.schema?_eq known⟩
  obtain ⟨later, looked, stands⟩ := grows.stand regular found
  unfold Database.counted Database.schemaOr Schema.indexRows
  rw [found, looked]
  simp only [Except.bind]
  rw [stands.find? fun same => same ▸ covers.knows_part regular indexed (by decide) found same]

theorem Grows.settled : database.settled entry = base.settled entry := by
  have related := grows.read regular covers
    (fun home found same => covers.knows_part regular indexed
      (by decide : FullText.settingsPart ∈ FullText.parts) found same)
  unfold Database.settled
  generalize base.read entry.1 (FullText.indexName entry.2 FullText.settingsPart) = one at related
  generalize database.read entry.1 (FullText.indexName entry.2 FullText.settingsPart) = other at related
  cases related with
  | ok near =>
    simp only [Except.bind]
    rw [near.version]
  | error fault => rfl

end

/-- What has been noted of a database since it was another one was so of that one. -/
structure Since (base database : Database) : Prop where
  noted : ∀ entry, base.Indexed entry → (database.segments.lookup entry).isSome = true →
    base.isCountable entry = true
  opened : ∀ entry ∈ base.unopened, entry ∉ database.unopened → base.opening entry = .ok ()

theorem Since.refl (base : Database) : base.Since base where
  noted entry _ known := by rw [isCountable, known, Bool.true_or]
  opened _ earlier later := absurd earlier later

section

variable (regular : base.Regular) (grows : base.Grows made database) (covers : base.Covers made)
  (condition : database.condition = base.condition)
include regular grows covers

theorem Since.isCountable (since : base.Since database) {entry : String × String}
    (indexed : base.Indexed entry) (countable : database.isCountable entry = true) :
    base.isCountable entry = true := by
  unfold Database.isCountable at countable
  rcases Bool.or_eq_true .. ▸ countable with known | counted
  · exact since.noted entry indexed known
  · rw [Database.isCountable, ← grows.counted regular covers indexed, counted, Bool.or_true]

include condition

-- What can be opened could be opened.
theorem Since.opening (since : base.Since database) {entry : String × String}
    (indexed : base.Indexed entry) (opened : database.opening entry = .ok ()) :
    base.opening entry = .ok () := by
  have main : database.main.name = base.main.name := (Prod.mk.inj grows.main).1
  unfold Database.opening at opened ⊢
  rw [main, condition, grows.settled regular covers indexed] at opened
  split at opened
  · cases opened
  · rename_i unlocked
    split at opened
    · rename_i countable
      rw [if_neg unlocked, if_pos (since.isCountable regular grows covers indexed countable), opened]
    · cases opened

theorem Since.recalls {after : Database} (since : base.Since database) (recalls : database.Recalls after) :
    base.Since after where
  noted entry indexed known :=
    since.isCountable regular grows covers indexed (recalls.noted entry known)
  opened entry earlier later := by
    by_cases between : entry ∈ database.unopened
    · exact since.opening regular grows covers condition (regular.opened entry earlier)
        (recalls.opened entry between later)
    · exact since.opened entry earlier between

end

/-- A later state of a database in which nothing that was noted has been forgotten. -/
structure Remembers (before after : Database) : Prop where
  isRead : before.isRead = true → after.isRead = true
  unopened : after.unopened ⊆ before.unopened
  segments : ∀ entry, (before.segments.lookup entry).isSome = true →
    (after.segments.lookup entry).isSome = true

/-- Of a database that its catalogs can be read again, and that all its full-text tables can be opened
then. -/
def Rereads (database : Database) : Prop :=
  database.condition ≠ .locked ∧ ∀ entry ∈ database.forget.unopened, database.forget.opening entry = .ok ()

theorem mem_forget_unopened {entry : String × String} :
    entry ∈ database.forget.unopened ↔ database.Indexed entry := by
  obtain ⟨inside, called⟩ := entry
  simp only [forget, List.mem_flatMap, List.mem_map, List.mem_filter, Indexed, Prod.mk.injEq]
  constructor
  · rintro ⟨home, known, table, ⟨there, isFullText⟩, named, same⟩
    exact ⟨home, known, table, there, named, same, isFullText⟩
  · rintro ⟨home, known, table, there, named, same, isFullText⟩
    exact ⟨home, known, table, ⟨there, isFullText⟩, named, same⟩

theorem Grows.forget (grows : base.Grows made database) : base.Grows made database.forget where
  main := grows.main
  temp := grows.temp
  attached := by
    rw [← grows.attached]
    simp only [Database.forget, List.map_map]
    rfl

section

variable (regular : base.Regular) (grows : base.Grows made database) (covers : base.Covers made)
  (condition : database.condition = base.condition)
include regular grows covers condition

-- Whatever can be opened again can be opened whatever has been noted.
theorem Rereads.opens (rereads : base.Rereads) {entry : String × String} (indexed : base.Indexed entry) :
    database.opens entry = .ok () := by
  have again := rereads.2 entry (mem_forget_unopened.2 indexed)
  have forgotten : base.Grows [] base.forget := (Grows.refl base).forget
  unfold Database.opening at again
  rw [forgotten.settled regular base.covers_nil indexed] at again
  split at again
  · cases again
  · split at again
    · rename_i countable
      have counted : (base.counted entry).isOk = true := by
        rwa [Database.isCountable, forgotten.counted regular base.covers_nil indexed] at countable
      have unlocked : ¬(entry.1 == database.main.name && database.condition == .locked) = true := by
        rw [condition]
        simp [rereads.1]
      unfold Database.opens Database.opening
      rw [if_neg unlocked, Database.isCountable, grows.counted regular covers indexed, counted, Bool.or_true,
        if_pos rfl, grows.settled regular covers indexed, again, ite_self]
    · cases again

-- Full-text tables that were there before open as they did, unless what had been noted of them has been forgotten
-- and cannot be found out again.
theorem Since.opens (since : base.Since database) (remembers : base.Remembers database ∨ base.Rereads)
    {entry : String × String} (indexed : base.Indexed entry) : database.opens entry = base.opens entry := by
  rcases remembers with remembers | rereads
  · have countable : database.isCountable entry = base.isCountable entry := by
      rw [Bool.eq_iff_iff]
      refine ⟨since.isCountable regular grows covers indexed, ?_⟩
      intro countable
      unfold Database.isCountable at countable ⊢
      rcases Bool.or_eq_true .. ▸ countable with known | counted
      · rw [remembers.segments entry known, Bool.true_or]
      · rw [grows.counted regular covers indexed, counted, Bool.or_true]
    have main : database.main.name = base.main.name := (Prod.mk.inj grows.main).1
    unfold Database.opens
    by_cases later : entry ∈ database.unopened
    · rw [if_pos (by simpa using later), if_pos (by simpa using remembers.unopened later), Database.opening,
        Database.opening, main, condition, countable, grows.settled regular covers indexed]
    · rw [if_neg (by simpa using later)]
      split
      · rename_i earlier
        exact (since.opened entry (by simpa using earlier) later).symm
      · rfl
  · rw [rereads.opens regular grows covers condition indexed,
      rereads.opens regular (Grows.refl base) base.covers_nil rfl indexed]

end

theorem reading_of_remembers (condition : database.condition = base.condition)
    (fresh : base.condition = .locked → database.isRead = true → base.isRead = true)
    (remembers : base.Remembers database ∨ base.Rereads) : database.reading = base.reading := by
  unfold Database.reading
  rw [condition]
  split
  · rfl
  · rename_i locked
    rcases remembers with remembers | rereads
    · have same : database.isRead = base.isRead :=
        Bool.eq_iff_iff.2 ⟨fresh locked, remembers.isRead⟩
      rw [same]
    · exact absurd locked rereads.1
  · rfl

end Database

end TextQuery.Engine
