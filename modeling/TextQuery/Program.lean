import TextQuery.CommandLine
import TextQuery.Log
import TextQuery.Settings.Files
import TextQuery.Storage

set_option autoImplicit false

namespace TextQuery.Program

open CommandLine Engine

structure Surroundings where
  environment : Settings.Environment := []
  tree : FileTree := {}
  moment : Moment
  version : Storage.Version := Storage.engineVersion
deriving Repr

structure Outcome where
  status : Except Failure Nat
  output : String := ""
  console : String := ""
  tree : FileTree
  connection : Option Session := none

variable {σ : Type} [Engine σ]

def textOr (default : String) (text : Option String) : String := text.getD default

def createCompiler (settings : CompilerSettings) : Attempt σ Compiler := do
  Attempt.debug ("Creating pattern compiler tokenizer=" ++ settings.tokenizer ++ " args="
    ++ Text.quotedTuple settings.arguments ++ " probe_table=" ++ textOr "None" settings.probeTable)
  ExceptT.mk (return Compiler.create settings)

def warn (message : String) : Attempt σ Unit := ExceptT.lift (Run.record Level.warning message)

def compile (settings : CompilerSettings) (text : String) (mode : Mode) : Attempt σ Report := do
  let compiler ← createCompiler settings
  Attempt.debug ("Compiling mode=" ++ mode.name ++ " text=" ++ Text.quoted text)
  let (answer, _) ← ExceptT.lift (compiler.compileMode mode text)
  let made ← ExceptT.mk (return answer)
  if made.isNone then
    warn ("No searchable token in input (mode=" ++ mode.name ++ ")")
  return .pattern text mode made

def tokenize (settings : CompilerSettings) (text : String) : Attempt σ Report := do
  let compiler ← createCompiler settings
  let (answer, _) ← ExceptT.lift (compiler.tokenize text)
  let tokens ← ExceptT.mk (return answer)
  Attempt.debug ("Tokenized into " ++ toString tokens.length ++ " tokens")
  -- The connection is new, so the helper table is the one of the tokenizer and holds texts only.
  return .tokens text (tokens.filterMap Cell.text?)

def foreignKeys (table : String) (schema : Option String) : Attempt σ Report := do
  let keys ← ForeignKey.declared table schema
  Attempt.debug ("Table " ++ table ++ " has " ++ toString keys.length ++ " foreign keys")
  return .foreignKeys table keys

def check (table schema : Option String) : Attempt σ Report := do
  let rows ← ForeignKey.violations table schema
  if !rows.isEmpty then warn ("Found " ++ toString rows.length ++ " foreign key violations")
  return .violations rows

def perform (settings : CompilerSettings) : Command → Attempt σ Report
  | .compile text mode => compile settings text mode
  | .tokenize text => tokenize settings text
  | .foreignKeys table schema => foreignKeys table schema
  | .check table schema => check table schema

def actionOf : Command → Action
  | .compile _ _ => .compile
  | .tokenize _ => .tokenize
  | .foreignKeys _ _ => .foreignKeys
  | .check _ _ => .check

def usageStatus : Nat := 2

def negativeStatus : Nat := 1

def abortedText : String := "Aborted!\n"

def logRequest (settings : LogSettings) (action : Action) : LogRequest where
  level := some settings.level
  action := some action.name
  toFile := settings.toFile
  directory := some settings.directory

def openedRecord (path : String) : Record := ⟨Level.info, "Database opened: " ++ path⟩

def failedRecord (action : Action) (failure : Failure) : Record :=
  ⟨Level.error, action.name ++ " failed: " ++ failure.text⟩

def aborted (log : Log) (moment : Moment) (tree : FileTree) (records : List Record)
    (action : Action) (failure : Failure) (connection : Option Session) : Outcome :=
  let (shown, tree) := log.emitAll moment tree (records ++ [failedRecord action failure])
  { status := .ok negativeStatus, console := shown ++ abortedText, tree, connection }

def finished (log : Log) (moment : Moment) (tree : FileTree) (records : List Record)
    (format : Format) (report : Report) (connection : Session) : Outcome :=
  let (shown, tree) := log.emitAll moment tree records
  { status := .ok (if report.found then 0 else negativeStatus)
    output := report.render format
    console := shown
    tree
    connection := some connection }

/-- Runs a command on the database of the settings. The connection is closed whatever comes out. -/
def runCommand (around : Surroundings) (settings : Settings) (command : Command)
    (format : Format) : Outcome :=
  let action := actionOf command
  match Log.configure {} (logRequest settings.log action) around.moment around.tree with
  | .error failure => { status := .error failure, tree := around.tree }
  | .ok (log, _, tree) =>
    match Storage.connect around.version tree settings.storage.path with
    | .error failure => aborted log around.moment tree [] action failure none
    | .ok (session, opened, tree) =>
      let (answer, records, session) := session.onDatabase (perform settings.pattern command).run
      -- The connection is closed before anything is reported.
      let closed := (session.step .close).2.2
      let records := opened ++ openedRecord settings.storage.path :: records
      match answer with
      | .ok report => finished log around.moment tree records format report closed
      | .error failure => aborted log around.moment tree records action failure (some closed)

def usageOutcome (around : Surroundings) (place : Place) (fault : UsageFault) : Outcome :=
  { status := .ok usageStatus, console := report place fault, tree := around.tree }

def refusedOutcome (around : Surroundings) : Refusal → Outcome
  | .usage fault => usageOutcome around none fault
  | .file fault => { status := .error (.file fault), tree := around.tree }

/-- Runs the program. The command is looked up before the settings are loaded, and its own arguments are
read after that. -/
def run (around : Surroundings) (arguments : List String) : Outcome :=
  let default := Settings.defaultPath
  match readOptions around.tree default.text arguments with
  | .error refusal => refusedOutcome around refusal
  | .ok (path, rest) =>
    match readAction around.tree default.text rest with
    | .error refusal => refusedOutcome around refusal
    | .ok (action, rest) =>
      match Settings.load around.tree around.environment default path with
      -- Settings are none of the command's business: their failures are not reported as its own.
      | .error failure => { status := .error failure, tree := around.tree }
      | .ok settings =>
        match readCommand action rest with
        | .error fault => usageOutcome around (some action) fault
        | .ok (command, format) => runCommand around settings command format

end TextQuery.Program
