import TextQuery.Proofs.Log.Course
import TextQuery.Proofs.Program.Opening
import TextQuery.Proofs.Program.Reporting
import TextQuery.Proofs.Settings.Making

set_option autoImplicit false

namespace TextQuery

open Engine CommandLine

namespace Settings

variable {environment : Environment} {settings : Settings}

theorem exists_of_load {tree : FileTree} {default path : Path}
    (loaded : load tree environment default path = .ok settings) :
    ∃ root, ofEntries environment root = .ok settings := by
  unfold load at loaded
  obtain ⟨read, loose, plain⟩ := exists_of_bind_eq_ok loaded
  have is : read = settings.loose := ofLoose_eq_ok.1 (ok_of_mapError plain)
  subst is
  simp only [ofEntries_eq_ok]
  unfold loadLoose at loose
  obtain ⟨_, -, loose⟩ := exists_of_bind_eq_ok loose
  obtain ⟨base, -, loose⟩ := exists_of_bind_eq_ok loose
  split at loose
  · exact ⟨base, ok_of_mapError loose⟩
  · obtain ⟨_, -, loose⟩ := exists_of_bind_eq_ok loose
    obtain ⟨override, -, loose⟩ := exists_of_bind_eq_ok loose
    split at loose
    · cases loose
    · exact ⟨_, ok_of_mapError loose⟩

theorem level_of_load {tree : FileTree} {default path : Path}
    (loaded : load tree environment default path = .ok settings) (action : Action) :
    ¬(Program.logRequest settings.log action).IsOpen := by
  obtain ⟨root, read⟩ := exists_of_load loaded
  have known : settings.log.loose.level ∈ levels := by
    have read := ofEntries_eq_ok.1 read
    unfold readEntries at read
    obtain ⟨log, -, read⟩ := exists_of_bind_eq_ok read
    obtain ⟨_, -, read⟩ := exists_of_bind_eq_ok read
    obtain ⟨_, -, read⟩ := exists_of_bind_eq_ok read
    obtain ⟨_, checked, read⟩ := exists_of_bind_eq_ok read
    obtain ⟨_, -, read⟩ := exists_of_bind_eq_ok read
    obtain ⟨_, -, read⟩ := exists_of_bind_eq_ok read
    cases read
    by_contra unknown
    simp [checkLog, unknown] at checked
  let names := ["DEBUG", "INFO", "WARNING", "ERROR", "CRITICAL"]
  have listed : settings.log.level ∈ names := by
    simpa [names, levels, LogSettings.loose, Loose.ofString_inj] using known
  have given : ∀ name ∈ names, Text.upper (Log.nameOr "INFO" (some name)) ≠ "NOTSET" := by decide +kernel
  exact given _ listed

end Settings

namespace Program

/-- What is read before a command runs: the options and the name of the command, the settings, and what stands behind
the name. -/
def Reads (around : Surroundings) (arguments : List String) (settings : Settings) (command : Command)
    (format : Format) : Prop :=
  ∃ path rest action own,
    readOptions around.tree Settings.defaultPath.text arguments = .ok (path, rest) ∧
    readAction around.tree Settings.defaultPath.text rest = .ok (action, own) ∧
    Settings.load around.tree around.environment Settings.defaultPath path = .ok settings ∧
    readCommand action own = .ok (command, format)

/-- The answer of the library on a new connection to the database of the settings. -/
def consult (version : Storage.Version) (tree : FileTree) (settings : Settings) (command : Command) :
    Except Failure Answer := do
  let (session, _, _) ← Storage.connect version tree settings.storage.path
  answer settings.pattern session command

/-- What the console shows of some records at a level. -/
def shown (level : Level) (time : Moment) (records : List Record) : String :=
  String.join ((records.filter fun record => level ≤ record.level).map (Log.line time))

/-- What a run leaves, by the answer of the library: a report on it, or else one record of the failure behind the
others. Those records are shown that reach the level. -/
def Outcome.Tells (outcome : Outcome) (log : Log) (tree : FileTree) (level : Level) (time : Moment)
    (records : List Record) (command : Command) (format : Format) : Except Failure Answer → Prop
  | .ok answer =>
    (∃ report, Reports command answer report ∧ outcome.output = report.render format) ∧
      outcome.status = .ok (if answer.found then 0 else 1) ∧
      outcome.console = shown level time records ∧ outcome.tree = (log.emitAll time tree records).2
  | .error failure =>
    let failed : Record := ⟨Level.error, (actionOf command).name ++ " failed: " ++ failure.text⟩
    outcome.output = "" ∧ outcome.status = .ok 1 ∧
      outcome.console = shown level time records ++ (if level ≤ Level.error then Log.line time failed else "")
        ++ "Aborted!\n" ∧ outcome.tree = (log.emitAll time tree (records ++ [failed])).2

variable {around : Surroundings} {arguments : List String} {settings : Settings} {command : Command} {format : Format}

theorem run_of_reads (reads : Reads around arguments settings command format) :
    run around arguments = runCommand around settings command format ∧
      ∀ action, ¬(logRequest settings.log action).IsOpen := by
  obtain ⟨path, rest, action, own, options, found, loaded, given⟩ := reads
  exact ⟨by simp [run, options, found, loaded, given], Settings.level_of_load loaded⟩

theorem shown_append (level : Level) (time : Moment) (records : List Record) (record : Record) :
    shown level time (records ++ [record]) =
      shown level time records ++ if level ≤ record.level then Log.line time record else "" := by
  by_cases high : level ≤ record.level <;> simp [shown, high, List.filter_append, String.join_append]

theorem emitAll_shown {log : Log} {level : Level} {console : Handler} {file : Option Handler} {request : LogRequest}
    (serves : log.Serves request level console file) (given : ¬request.IsOpen) (time : Moment) (tree : FileTree)
    (records : List Record) : (log.emitAll time tree records).1 = shown level time records := by
  have isShown (record : Record) : Log.IsShown level file record ↔ level ≤ record.level :=
    Log.isShown_iff record (mt (Log.levelOf_eq_ok serves.named).1.1 given)
  simp [serves.emitAll_shown, shown, isShown]

section

variable {log : Log} {level : Level} {time : Moment} {tree : FileTree} {records : List Record}
  (shows : ∀ records, (log.emitAll time tree records).1 = shown level time records)
include shows

theorem aborted_tells (failure : Failure) (connection : Option Session) :
    (aborted log time tree records (actionOf command) failure connection).Tells log tree level time records command
      format (.error failure) := by
  have console := shows (records ++ [failedRecord (actionOf command) failure])
  rw [shown_append] at console
  exact ⟨rfl, rfl, congrArg (· ++ abortedText) console, rfl⟩

theorem finished_tells {report : Report} {answer : Answer} (reports : Reports command answer report)
    (connection : Session) :
    (finished log time tree records format report connection).Tells log tree level time records command format
      (.ok answer) := by
  have status : (finished log time tree records format report connection).status =
      .ok (if answer.found then 0 else 1) := by
    rw [← reports.found_eq]
    rfl
  exact ⟨⟨report, reports, rfl⟩, status, shows records, rfl⟩

end

theorem runCommand_cases {log : Log} {path : Option Path} {tree : FileTree}
    (proper : around.tree.All FileEntry.IsProper)
    (configured : Log.configure {} (logRequest settings.log (actionOf command)) around.moment around.tree =
      .ok (log, path, tree)) (format : Format) :
    (∃ failure, Storage.connect around.version tree settings.storage.path = .error failure ∧
      consult around.version tree settings command = .error failure ∧
      runCommand around settings command format =
        aborted log around.moment tree [] (actionOf command) failure none) ∨
    ∃ opened records left closed result, Storage.connect around.version tree settings.storage.path = .ok opened ∧
      (∀ record ∈ records, record.level < Level.error) ∧ closed.isClosed = true ∧
      Fits command result (consult around.version tree settings command) ∧
      runCommand around settings command format = match result with
        | .ok report => finished log around.moment left records format report closed
        | .error failure => aborted log around.moment left records (actionOf command) failure (some closed) := by
  cases connected : Storage.connect around.version tree settings.storage.path with
  | error failure =>
    refine .inl ⟨failure, rfl, ?_, ?_⟩
    · simp [consult, connected, bind, Except.bind]
    · simp [runCommand, configured, connected]
  | ok opened =>
    obtain ⟨session, first, left⟩ := opened
    obtain ⟨same, rfl, kept⟩ := Storage.kept_connect (Log.proper_configure proper configured) connected
    have isOpen : session.isClosed = false := by rw [same]
    have asked : consult around.version tree settings command = answer settings.pattern session command := by
      simp [consult, connected, bind, Except.bind]
    -- The report is settled by the answer of the library, and the records by what commands record at all.
    have fits := @fits_made settings.pattern session isOpen kept command
    obtain ⟨result, after, records, low, performed⟩ := mild_perform settings.pattern command session.database
    have ran : session.onDatabase (perform settings.pattern command).run =
        (result, records, { session with database := after }) := by
      simp only [Session.onDatabase, StateT.run, performed, List.nil_append]
    let closed : Session := ({ session with database := after }.step .close).2.2
    let all := Storage.openedRecord around.version settings.storage.path ::
      openedRecord settings.storage.path :: records
    have isClosed : closed.isClosed = true := by simp [closed, Session.step, Session.perform, Step.isClose]
    have lower : ∀ record ∈ all, record.level < Level.error := by
      simpa [all, Storage.openedRecord, openedRecord] using ⟨by decide, by decide, low⟩
    rw [made, performed, ← asked] at fits
    refine .inr ⟨_, all, left, closed, result, rfl, lower, isClosed, fits, ?_⟩
    cases result <;> simp [runCommand, configured, connected, ran, all, closed]

/-- A run prints the report on the answer of the library and tells by its status whether something was found. Without
an answer it prints nothing, records the failure once and aborts. Where the log cannot be set up that failure escapes,
and nothing is opened. What has been opened is closed. -/
theorem run_tells (reads : Reads around arguments settings command format)
    (proper : around.tree.All FileEntry.IsProper) :
    let configured := Log.configure {} (logRequest settings.log (actionOf command)) around.moment around.tree
    let outcome := run around arguments
    (∀ failure, configured = .error failure → outcome.status = .error failure ∧ outcome.output = "" ∧
      outcome.console = "" ∧ outcome.connection = none) ∧
    ∀ log path tree, configured = .ok (log, path, tree) →
      (∃ level records left, Log.levelOf (some settings.log.level) = .ok level ∧
        (∀ record ∈ records, record.level < Level.error) ∧
        outcome.Tells log left level around.moment records command format
          (consult around.version tree settings command)) ∧
      (outcome.connection.isSome = true ↔
        ∃ opened, Storage.connect around.version tree settings.storage.path = .ok opened) ∧
      ∀ connection, outcome.connection = some connection → connection.isClosed = true := by
  have read := run_of_reads reads
  rw [read.1]
  constructor
  · intro failure failed
    simp [runCommand, failed]
  · intro log path tree configured
    obtain ⟨level, console, file, serves, -⟩ := Log.serves_of_configure Log.numbered_new configured
    have shows := emitAll_shown serves (read.2 _) around.moment
    rcases runCommand_cases proper configured format with
      ⟨failure, unconnected, failed, outcome⟩ |
      ⟨opened, records, left, closed, result, connected, low, isClosed, fits, outcome⟩
    · simp only [outcome, unconnected, failed]
      exact ⟨⟨level, [], tree, serves.named, by simp, aborted_tells (shows tree) failure none⟩,
        by simp [aborted], by simp [aborted]⟩
    · simp only [outcome, connected]
      cases found : consult around.version tree settings command with
      | ok answer =>
        rw [found] at fits
        obtain ⟨report, rfl, reports⟩ := fits
        exact ⟨⟨level, records, left, serves.named, low, finished_tells (shows left) reports closed⟩,
          by simp [finished], by simp [finished, isClosed]⟩
      | error failure =>
        rw [found] at fits
        cases fits
        exact ⟨⟨level, records, left, serves.named, low, aborted_tells (shows left) failure (some closed)⟩,
          by simp [aborted], by simp [aborted, isClosed]⟩

-- A database without tables has no violation, and there is no table to list the keys of.
theorem run_tells_twice :
    let text := "log:\n level: error\n to_file: false\n dir: log\nstorage:\n db_path: \":memory:\"\n"
    let around : Surroundings := {
      tree := { entries := [(["config"], .directory), (["config", "default.yml"], .text text)] }
      moment := ⟨2, 3, 4, 5, 6⟩ }
    let checks := ["fk-check"]
    let lists := ["foreign-keys", "t", "--format", "json"]
    ((run around checks).output = (Report.violations []).render .text ∧ (run around checks).status = .ok 0 ∧
      ∀ connection, (run around checks).connection = some connection → connection.isClosed = true) ∧
    (run around lists).output = "" ∧ (run around lists).status = .ok 1 ∧
      ∀ connection, (run around lists).connection = some connection → connection.isClosed = true := by
  intro text around checks lists
  let settings : Settings := {
    log := { level := "ERROR", toFile := false, directory := "log" }
    storage := { path := ":memory:", pathVariable := "" }, pattern := {} }
  have loaded : Settings.load around.tree [] Settings.defaultPath Settings.defaultPath = .ok settings := by
    decide +kernel
  have check : Reads around checks settings (.check none none) .text :=
    ⟨Settings.defaultPath, checks, .check, [], by decide +kernel, by decide +kernel, loaded, by decide +kernel⟩
  have list : Reads around lists settings (.foreignKeys "t" none) .json :=
    ⟨Settings.defaultPath, lists, .foreignKeys, ["t", "--format", "json"],
      by decide +kernel, by decide +kernel, loaded, by decide +kernel⟩
  have proper : around.tree.All FileEntry.IsProper := by simp [FileTree.All, around, FileEntry.IsProper]
  have sound : consult around.version around.tree settings (.check none none) = .ok (.violations []) := by
    decide +kernel
  have missing : consult around.version around.tree settings (.foreignKeys "t" none) =
      .error (.diagnostic (.noSuchTable "t")) := by decide +kernel
  have configured (action : Action) : Log.configure {} (logRequest settings.log action) around.moment around.tree =
      .ok (({} : Log).replace Level.error [{ number := 0, level := Level.error }], none, around.tree) := by
    have known : Log.levelOf (some settings.log.level) = .ok Level.error := by decide +kernel
    simp [Log.configure, logRequest, known, Log.place?, settings, Log.made, bind, Except.bind, pure, Except.pure]
  have told := (run_tells check proper).2 _ _ _ (configured .check)
  have failed := (run_tells list proper).2 _ _ _ (configured .foreignKeys)
  simp only [sound, missing] at told failed
  obtain ⟨⟨_, _, _, -, -, ⟨report, reports, output⟩, status, -⟩, -, isClosed⟩ := told
  obtain ⟨⟨_, _, _, -, -, silent, aborts, -⟩, -, closes⟩ := failed
  rw [reports.violations_eq] at output
  exact ⟨⟨output, status, isClosed⟩, silent, aborts, closes⟩

end Program

end TextQuery
