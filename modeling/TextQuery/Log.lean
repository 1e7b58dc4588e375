import TextQuery.FileTree
import TextQuery.Journal
import TextQuery.Text.Case

set_option autoImplicit false

namespace TextQuery

structure Moment where
  month : Nat
  day : Nat
  hour : Nat
  minute : Nat
  second : Nat
deriving DecidableEq, Repr

namespace Moment

def twoDigits (number : Nat) : String :=
  String.ofList (Number.digitsOf (number / 10 % 10) ++ Number.digitsOf (number % 10))

def text (moment : Moment) : String :=
  twoDigits moment.month ++ "-" ++ twoDigits moment.day ++ " " ++ twoDigits moment.hour ++ ":"
    ++ twoDigits moment.minute ++ ":" ++ twoDigits moment.second

def stamp (moment : Moment) : String :=
  String.join ([moment.month, moment.day, moment.hour, moment.minute, moment.second].map twoDigits)

end Moment

structure Handler where
  number : Nat
  level : Level
  file : Option Location := none
deriving DecidableEq, Repr

/-- Records below the level are dropped. The level zero leaves it to a default. Handlers that have been
replaced are closed. -/
structure Log where
  level : Level := 0
  handlers : List Handler := []
  closed : List Handler := []
deriving DecidableEq, Repr

structure LogRequest where
  level : Option String := some "INFO"
  action : Option String := none
  toFile : Bool := false
  directory : Option String := some "log"
deriving DecidableEq, Repr

namespace Log

def defaultLevel : Level := Level.warning

def levelNames : List (String × Level) := [
  ("CRITICAL", 50), ("FATAL", 50), ("ERROR", 40), ("WARNING", 30), ("WARN", 30), ("INFO", 20),
  ("DEBUG", 10), ("NOTSET", 0)]

def formatName : String := "BASIC_FORMAT"

def formatText : String := "%(levelname)s:%(name)s:%(message)s"

def stylesName : String := "_STYLES"

def stylesText : String :=
  "\x7b'%': (<class 'logging.PercentStyle'>, '%(levelname)s:%(name)s:%(message)s'), '\x7b': "
    ++ "(<class 'logging.StrFormatStyle'>, '\x7blevelname\x7d:\x7bname\x7d:\x7bmessage\x7d'), '$': "
    ++ "(<class 'logging.StringTemplateStyle'>, '$\x7blevelname\x7d:$\x7bname\x7d:$\x7bmessage\x7d')\x7d"

def nameOr (default : String) (name : Option String) : String :=
  match name with
  | some name => if name.isEmpty then default else name
  | none => default

/-- The level of a name in any case. Unknown names stand for the usual level. -/
def levelOf (name : Option String) : Except Failure Level :=
  let name := Text.upper (nameOr "INFO" name)
  if name == formatName then .error (.unknownLevel formatText)
  else if name == stylesName then .error (.notALevel stylesText)
  else .ok ((levelNames.lookup name).getD Level.info)

def place? (request : LogRequest) (moment : Moment) : Option (Path × Path) :=
  match request.toFile, nameOr "" request.action with
  | true, action =>
    if action.isEmpty then none
    else
      let directory := (Path.ofText (nameOr "log" request.directory)).append (.ofText action)
      some (directory, directory.append (.ofText (action ++ "_" ++ moment.stamp ++ ".log")))
  | false, _ => none

def openFile (tree : FileTree) (directory path : Path) : Except Failure (Location × FileTree) := do
  let tree ← (tree.makeDirectories directory).mapError .file
  let location ← (tree.locate path).mapError fun obstacle => .file (FileTree.fault path obstacle)
  if tree.isDirectoryAt location then throw (.file (.isADirectory path.text))
  return (location, tree.append location "")

def made (log : Log) : Nat := log.closed.length + log.handlers.length

def replace (log : Log) (level : Level) (handlers : List Handler) : Log where
  level
  handlers
  closed := log.closed ++ log.handlers

def configure (log : Log) (request : LogRequest) (moment : Moment) (tree : FileTree) :
    Except Failure (Log × Option Path × FileTree) := do
  let level ← levelOf request.level
  let console : Handler := { number := log.made, level }
  match place? request moment with
  | none => return (log.replace level [console], none, tree)
  | some (directory, path) =>
    -- If the file cannot be opened the log stays as it is.
    let (location, tree) ← openFile tree directory path
    let file : Handler := { number := log.made + 1, level := Level.debug, file := some location }
    -- The log lets everything through, and the console keeps its own level.
    return (log.replace Level.debug [console, file], some path, tree)

def mark (level : Level) : String :=
  if level == Level.debug then "DEBG"
  else if level == Level.info then "INFO"
  else if level == Level.warning then "WARN"
  else if level == Level.error || level == Level.critical then "ERRO"
  else String.ofList (level.name.toList.take 4)

def line (moment : Moment) (record : Record) : String :=
  moment.text ++ " [" ++ mark record.level ++ "] " ++ record.message ++ "\n"

def keeps (log : Log) (record : Record) : Bool :=
  record.level ≥ (if log.level == 0 then defaultLevel else log.level)

def reached (log : Log) (record : Record) : List Handler :=
  if log.keeps record then log.handlers.filter fun handler => record.level ≥ handler.level else []

def handle (line : String) (written : String × FileTree) (handler : Handler) : String × FileTree :=
  match handler.file with
  | none => (written.1 ++ line, written.2)
  | some location => (written.1, written.2.append location line)

/-- What a record adds to the console and to the files. Without handlers the console shows the bare
message of a record that is grave enough. -/
def emit (log : Log) (moment : Moment) (tree : FileTree) (record : Record) : String × FileTree :=
  if log.handlers.isEmpty then
    (if log.keeps record && record.level ≥ defaultLevel then record.message ++ "\n" else "", tree)
  else (log.reached record).foldl (handle (line moment record)) ("", tree)

def emitAll (log : Log) (moment : Moment) (tree : FileTree) (records : List Record) :
    String × FileTree :=
  records.foldl (fun (shown, tree) record =>
    let (added, tree) := log.emit moment tree record
    (shown ++ added, tree)) ("", tree)

end Log

inductive LogStep where
  | configure (request : LogRequest) (moment : Moment)
  | record (record : Record) (moment : Moment)
deriving DecidableEq, Repr

structure Logging where
  log : Log := {}
  tree : FileTree := {}
  shown : String := ""
deriving Repr

namespace Logging

/-- The path that a step answers with, and the log after it. A log that cannot be set up stays as it is. -/
def step (logging : Logging) : LogStep → Except Failure (Option Path) × Logging
  | .configure request moment =>
    match logging.log.configure request moment logging.tree with
    | .ok (log, path, tree) => (.ok path, { logging with log, tree })
    | .error failure => (.error failure, logging)
  | .record record moment =>
    let (shown, tree) := logging.log.emit moment logging.tree record
    (.ok none, { logging with tree, shown := logging.shown ++ shown })

def after (logging : Logging) (steps : List LogStep) : Logging :=
  steps.foldl (fun logging next => (logging.step next).2) logging

end Logging

end TextQuery
