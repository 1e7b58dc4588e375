import TextQuery.Log

set_option autoImplicit false

namespace TextQuery

open Text

namespace FileTree

theorem lookup_cons_ne {entries : List (Location × FileEntry)} {place other : Location} {entry : FileEntry}
    (apart : other ≠ place) : ((place, entry) :: entries).lookup other = entries.lookup other := by
  have differ : (other == place) = false := by simpa using apart
  simp [List.lookup_cons, differ]

theorem lookup_replaced (entries : List (Location × FileEntry)) (location other : Location) (entry : FileEntry) :
    (entries.map fun held => if held.1 = location then (location, entry) else held).lookup other =
      if other = location ∧ (entries.lookup location).isSome then some entry else entries.lookup other := by
  induction entries with
  | nil => simp
  | cons held entries ih =>
    obtain ⟨place, present⟩ := held
    by_cases here : place = location
    · subst here
      by_cases same : other = place
      · subst same
        simp
      · simp [lookup_cons_ne same, same, ih]
    · have apart : location ≠ place := Ne.symm here
      by_cases found : other = place
      · subst found
        simp [here]
      · rw [lookup_cons_ne found, lookup_cons_ne apart, List.map_cons, if_neg here, lookup_cons_ne found, ih]

theorem entry?_put (tree : FileTree) {location : Location} (inside : location ≠ []) (entry : FileEntry)
    (other : Location) :
    FileTree.entry? (tree.put location entry) other = if other = location then some entry else tree.entry? other := by
  have within : location.isEmpty = false := by simpa using inside
  unfold put
  split
  · rename_i there
    simp only [FileTree.entry?, within, Bool.false_eq_true, if_false] at there
    by_cases same : other = location
    · subst same
      simp [FileTree.entry?, inside, lookup_replaced, there]
    · simp [FileTree.entry?, lookup_replaced, same]
  · rename_i missing
    simp only [FileTree.entry?, within, Bool.false_eq_true, if_false] at missing
    by_cases same : other = location
    · subst same
      simp only [Bool.not_eq_true, Option.isSome_eq_false_iff, Option.isNone_iff_eq_none] at missing
      simp [FileTree.entry?, inside, List.lookup_append, missing]
    · simp [FileTree.entry?, List.lookup_append, lookup_cons_ne same, same]

theorem entry?_append (tree : FileTree) (location other : Location) (added : String) (apart : other ≠ location) :
    FileTree.entry? (tree.append location added) other = tree.entry? other := by
  have root : tree.entry? [] = some .directory := rfl
  by_cases inside : location = []
  · subst inside
    rw [append, root]
  · unfold append
    split <;> simp [FileTree.entry?_put _ inside, apart]

theorem entry?_append_text {tree : FileTree} {location : Location} {content : String}
    (held : tree.entry? location = some (.text content)) (added : String) :
    FileTree.entry? (tree.append location added) location = some (.text (content ++ added)) := by
  have inside : location ≠ [] := by
    rintro rfl
    cases held
  simp [append, held, entry?_put _ inside]

end FileTree

def LogRequest.WantsFile (request : LogRequest) : Prop :=
  request.toFile = true ∧ Log.nameOr "" request.action ≠ ""

def LogRequest.IsOpen (request : LogRequest) : Prop := upper (Log.nameOr "INFO" request.level) = "NOTSET"

namespace Log

variable {log next : Log} {request : LogRequest} {moment : Moment} {tree left : FileTree} {path : Option Path}
  {level : Level} {console : Handler} {file : Option Handler}

theorem place?_isSome : (place? request moment).isSome = true ↔ request.WantsFile := by
  unfold place? LogRequest.WantsFile
  cases request.toFile with
  | false => simp
  | true => by_cases blank : nameOr "" request.action = "" <;> simp [blank]

theorem levelOf_eq_ok (known : levelOf request.level = .ok level) :
    (level = 0 ↔ request.IsOpen) ∧ (level = 0 ∨ Level.debug ≤ level) := by
  unfold LogRequest.IsOpen
  unfold levelOf at known
  generalize upper (nameOr "INFO" request.level) = capital at known ⊢
  simp only at known
  split at known
  · cases known
  · split at known
    · cases known
    · cases known
      cases found : levelNames.lookup capital with
      | none =>
        have other : capital ≠ "NOTSET" := by
          rintro rfl
          cases found
        simp [other, Level.info, Level.debug]
      | some level =>
        obtain ⟨front, rest, entries, -⟩ := List.lookup_eq_some_iff.1 found
        have member : (capital, level) ∈ levelNames := by simp [entries]
        simp only [levelNames, List.mem_cons, Prod.mk.injEq, List.not_mem_nil, or_false] at member
        rcases member with ⟨rfl, rfl⟩ | ⟨rfl, rfl⟩ | ⟨rfl, rfl⟩ | ⟨rfl, rfl⟩ | ⟨rfl, rfl⟩ | ⟨rfl, rfl⟩ |
          ⟨rfl, rfl⟩ | ⟨rfl, rfl⟩ <;> simp [Level.debug]

def Numbered (log : Log) : Prop := (log.closed ++ log.handlers).map Handler.number = List.range log.made

/-- A log as a call leaves it: one handler for the console, and one for a file if the call wants a file. All handlers
that were made before are closed. -/
structure Serves (log : Log) (request : LogRequest) (level : Level) (console : Handler) (file : Option Handler) :
    Prop where
  named : levelOf request.level = .ok level
  handlers : log.handlers = console :: file.toList
  keeping : log.level = if file.isSome then Level.debug else level
  shows : console.file = none ∧ console.level = level
  stores : ∀ handler, file = some handler → handler.file.isSome = true ∧ handler.level = Level.debug
  wanted : file.isSome = true ↔ request.WantsFile
  numbered : log.Numbered

theorem numbered_new : Numbered {} := by simp [Numbered, made]

theorem Numbered.replace (numbered : log.Numbered) {handlers : List Handler}
    (further : handlers.map Handler.number = List.range' log.made handlers.length) :
    (log.replace level handlers).Numbered := by
  simp only [Numbered, made] at numbered further ⊢
  simp only [Log.replace, List.map_append, List.length_append, further] at numbered ⊢
  have joined := @List.range'_append_1 0 (log.closed.length + log.handlers.length) handlers.length
  rw [numbered, List.range_eq_range', List.range_eq_range', ← joined, Nat.zero_add]

theorem serves_of_configure (numbered : log.Numbered)
    (configured : log.configure request moment tree = .ok (next, path, left)) :
    ∃ level console file, next.Serves request level console file ∧ (path = none ↔ file = none) ∧
      next.closed = log.closed ++ log.handlers := by
  have wanted := @place?_isSome request moment
  unfold configure at configured
  cases known : levelOf request.level with
  | error failure =>
    rw [known] at configured
    cases configured
  | ok level =>
    simp only [known, bind, Except.bind] at configured
    let console : Handler := { number := log.made, level }
    cases place : place? request moment with
    | none =>
      rw [place] at configured wanted
      cases configured
      refine ⟨level, console, none, ?_, by simp, rfl⟩
      exact {
        named := known
        handlers := rfl
        keeping := rfl
        shows := ⟨rfl, rfl⟩
        stores := by simp
        wanted
        numbered := numbered.replace rfl }
    | some place =>
      rw [place] at configured wanted
      simp only at configured
      split at configured
      · cases configured
      · rename_i opened _
        cases configured
        let file : Handler := { number := log.made + 1, level := Level.debug, file := some opened.1 }
        refine ⟨level, console, some file, ?_, by simp, rfl⟩
        exact {
          named := known
          handlers := rfl
          keeping := rfl
          shows := ⟨rfl, rfl⟩
          stores := by simp [file]
          wanted
          numbered := numbered.replace rfl }

/-- Whether a record is shown on the console. A level that is left open is a default one, or the least one if there is a
file. -/
def IsShown (level : Level) (file : Option Handler) (record : Record) : Prop :=
  level ≤ record.level ∧ (level = 0 → (if file.isSome then Level.debug else defaultLevel) ≤ record.level)

instance (level : Level) (file : Option Handler) (record : Record) : Decidable (IsShown level file record) :=
  inferInstanceAs (Decidable (_ ∧ _))

variable (record : Record)

theorem Serves.reached (serves : log.Serves request level console file) :
    log.reached record = (if IsShown level file record then [console] else []) ++
      if Level.debug ≤ record.level then file.toList else [] := by
  have known := (levelOf_eq_ok serves.named).2
  have usual : defaultLevel ≤ record.level → (0 : Level) ≤ record.level := Int.le_trans (by decide)
  have positive : Level.debug ≤ level → level ≠ 0 := by
    rintro high rfl
    exact absurd high (by decide)
  cases present : file with
  | none =>
    have nothing : (if Level.debug ≤ record.level then none.toList else []) = ([] : List Handler) := ite_self _
    simp only [Log.reached, keeps, serves.keeping, serves.handlers, present, IsShown, nothing]
    rcases known with rfl | high
    · by_cases shown : defaultLevel ≤ record.level <;> simp [shown, usual, serves.shows.2]
    · by_cases shown : level ≤ record.level <;> simp [positive high, shown, serves.shows.2]
  | some handler =>
    have stores := (serves.stores handler present).2
    have debug : Level.debug ≠ 0 := by decide
    simp only [Log.reached, keeps, serves.keeping, serves.handlers, present, IsShown]
    -- Beside a file the log itself lets all levels through that have a name.
    by_cases stored : Level.debug ≤ record.level
    · by_cases shown : level ≤ record.level <;> simp [debug, stored, shown, stores, serves.shows.2]
    · have below : level ≤ record.level → level = 0 := fun low =>
        known.resolve_right fun high => stored (Int.le_trans high low)
      simpa [debug, stored] using below

theorem Serves.emit (serves : log.Serves request level console file) (time : Moment) (tree : FileTree) :
    log.emit time tree record = (if IsShown level file record then line time record else "",
      match file.bind Handler.file with
      | some location => if Level.debug ≤ record.level then tree.append location (line time record) else tree
      | none => tree) := by
  have used : log.handlers.isEmpty = false := by simp [serves.handlers]
  rw [Log.emit, used, serves.reached]
  cases present : file with
  | none =>
    by_cases shown : IsShown level none record <;> simp [shown, handle, serves.shows.1]
  | some handler =>
    obtain ⟨location, stores⟩ := Option.isSome_iff_exists.1 (serves.stores handler present).1
    by_cases shown : IsShown level (some handler) record <;> by_cases stored : Level.debug ≤ record.level <;>
      simp [shown, stored, handle, serves.shows.1, stores]

theorem Serves.emitAll_shown (serves : log.Serves request level console file) (time : Moment) (tree : FileTree)
    (records : List Record) :
    (log.emitAll time tree records).1 =
      String.join ((records.filter fun record => IsShown level file record).map (line time)) := by
  have folded (shown : String) (tree : FileTree) : (records.foldl (fun written record =>
      (written.1 ++ (log.emit time written.2 record).1, (log.emit time written.2 record).2)) (shown, tree)).1 =
        shown ++ String.join ((records.filter fun record => IsShown level file record).map (line time)) := by
    induction records generalizing shown tree with
    | nil => simp [String.join]
    | cons record records ih =>
      by_cases isShown : IsShown level file record <;>
        simp [serves.emit record, isShown, ih, String.append_assoc]
  simpa [Log.emitAll] using folded "" tree

theorem Serves.reaches_open (serves : log.Serves request level console file) {handler : Handler}
    (past : handler ∈ log.closed) : handler ∉ log.reached record := by
  have distinct : ((log.closed ++ log.handlers).map Handler.number).Nodup := serves.numbered ▸ List.nodup_range
  rw [List.map_append, List.nodup_append] at distinct
  intro reaches
  have present : handler ∈ log.handlers := by
    simp only [Log.reached] at reaches
    split at reaches
    · exact (List.mem_filter.1 reaches).1
    · cases reaches
  exact distinct.2.2 _ (List.mem_map_of_mem past) _ (List.mem_map_of_mem present) rfl

theorem isShown_iff (given : level ≠ 0) : IsShown level file record ↔ level ≤ record.level := by
  simp [IsShown, given]

end Log

namespace Logging

open Log

/-- What was asked for by the latest call that came to an end. -/
def latest (logging : Logging) (before : Option LogRequest) : List LogStep → Option LogRequest
  | [] => before
  | next :: steps =>
    let (answer, left) := logging.step next
    let request := match next, answer with
      | .configure request _, .ok _ => some request
      | _, _ => before
    latest left request steps

/-- What has been asked for is served, and the handlers are told apart. -/
def Settled (logging : Logging) (request : Option LogRequest) : Prop :=
  logging.log.Numbered ∧
    ∀ asked, request = some asked → ∃ level console file, logging.log.Serves asked level console file

/-- What a record adds to a log in use, with a level and handlers. -/
structure Adds (logging : Logging) (level : Level) (console : Handler) (file : Option Handler) (record : Record)
    (time : Moment) : Prop where
  reached : logging.log.reached record = (if IsShown level file record then [console] else []) ++
    if Level.debug ≤ record.level then file.toList else []
  closed : ∀ handler ∈ logging.log.closed, handler ∉ logging.log.reached record
  log : (logging.step (.record record time)).2.log = logging.log
  shown : (logging.step (.record record time)).2.shown =
    logging.shown ++ if IsShown level file record then Log.line time record else ""
  stored : ∀ location content, file.bind Handler.file = some location →
    logging.tree.entry? location = some (.text content) →
    FileTree.entry? (logging.step (.record record time)).2.tree location =
      some (.text (content ++ if Level.debug ≤ record.level then Log.line time record else ""))
  others : ∀ location, file.bind Handler.file ≠ some location →
    FileTree.entry? (logging.step (.record record time)).2.tree location = logging.tree.entry? location

variable {logging : Logging} {request : Option LogRequest}

theorem adds_of_serves {asked : LogRequest} {level : Level} {console : Handler} {file : Option Handler}
    (serves : logging.log.Serves asked level console file) (record : Record) (time : Moment) :
    logging.Adds level console file record time := by
  have emitted := serves.emit record time logging.tree
  have tree : (logging.step (.record record time)).2.tree = (logging.log.emit time logging.tree record).2 := rfl
  rw [emitted] at tree
  exact {
    reached := serves.reached record
    closed := fun handler past => serves.reaches_open record past
    log := rfl
    shown := by simp [step, emitted]
    stored := by
      intro location content place held
      rw [tree, place]
      by_cases stored : Level.debug ≤ record.level <;> simp [stored, held, FileTree.entry?_append_text held]
    others := by
      intro other apart
      rw [tree]
      cases place : file.bind Handler.file with
      | none => rfl
      | some location =>
        have differ : other ≠ location := by
          rintro rfl
          exact apart place
        by_cases stored : Level.debug ≤ record.level <;>
          simp [stored, FileTree.entry?_append _ _ _ _ differ] }

/-- What a call comes to: it takes the place of the calls before, or leaves the log as it was. -/
def Called (logging : Logging) (asked : LogRequest) (next : Logging) : Except Failure (Option Path) → Prop
  | .ok path => next.shown = logging.shown ∧ next.log.closed = logging.log.closed ++ logging.log.handlers ∧
    ∃ level console file, next.log.Serves asked level console file ∧ (path = none ↔ file = none)
  | .error _ => next.shown = logging.shown ∧ next.log = logging.log

theorem called_step (numbered : logging.log.Numbered) (asked : LogRequest) (time : Moment) :
    logging.Called asked (logging.step (.configure asked time)).2 (logging.step (.configure asked time)).1 := by
  cases configured : logging.log.configure asked time logging.tree with
  | error failure => simp [step, configured, Called]
  | ok result =>
    obtain ⟨log, path, tree⟩ := result
    obtain ⟨level, console, file, serves, place, closed⟩ := serves_of_configure numbered configured
    simpa [step, configured, Called, closed] using ⟨level, console, file, serves, place⟩

theorem settled_latest (settled : logging.Settled request) (steps : List LogStep) :
    (logging.after steps).Settled (logging.latest request steps) := by
  -- A call that comes to an end settles anew, every other step leaves the log as it is.
  induction steps generalizing logging request with
  | nil => exact settled
  | cons next steps ih =>
    cases next with
    | record record time => exact ih settled
    | configure asked time =>
      have called := called_step settled.1 asked time
      simp only [latest]
      cases answer : (logging.step (.configure asked time)).1 with
      | error failure =>
        rw [answer] at called
        have same : (logging.step (.configure asked time)).2.Settled request := by
          rw [Settled, called.2]
          exact settled
        exact ih same
      | ok path =>
        rw [answer] at called
        obtain ⟨-, -, level, console, file, serves, -⟩ := called
        have served : (logging.step (.configure asked time)).2.Settled (some asked) := by
          refine ⟨serves.numbered, ?_⟩
          rintro _ ⟨⟩
          exact ⟨level, console, file, serves⟩
        exact ih served

/-- A record reaches the handlers that the latest call has made, which are the only ones that are not closed. -/
theorem records_served (tree : FileTree) (steps : List LogStep) :
    let logging := after { tree } steps
    (∀ asked time,
      logging.Called asked (logging.step (.configure asked time)).2 (logging.step (.configure asked time)).1) ∧
    ∀ asked, latest { tree } none steps = some asked →
      ∃ level console file, logging.log.Serves asked level console file ∧
        (∀ record time, logging.Adds level console file record time) ∧ (level = 0 ↔ asked.IsOpen) ∧
        (¬asked.IsOpen → ∀ record, IsShown level file record ↔ level ≤ record.level) := by
  intro logging
  have initial : Settled { tree } none := ⟨numbered_new, by simp⟩
  have settled := settled_latest initial steps
  refine ⟨called_step settled.1, fun asked called => ?_⟩
  obtain ⟨level, console, file, serves⟩ := settled.2 asked called
  have opened := (levelOf_eq_ok serves.named).1
  exact ⟨level, console, file, serves, adds_of_serves serves, opened,
    fun given record => isShown_iff record fun zero => given (opened.1 zero)⟩

theorem records_served_twice :
    let quiet : LogRequest := { level := some "warning" }
    let filed : LogRequest := { level := some "ERROR", action := some "compile", toFile := true }
    let time : Moment := ⟨2, 3, 4, 5, 6⟩
    let logging := after {} [.configure quiet time, .configure filed time]
    ∃ level console file, logging.log.Serves filed level console file ∧
      (∀ record time, logging.Adds level console file record time) ∧ (level = 0 ↔ filed.IsOpen) ∧
      (¬filed.IsOpen → ∀ record, IsShown level file record ↔ level ≤ record.level) :=
  (records_served {} _).2 _ (by decide +kernel)

end Logging

end TextQuery
