import TextQuery.Compiler
import TextQuery.Datum
import TextQuery.Settings.Merge

set_option autoImplicit false

namespace TextQuery

structure LogSettings where
  level : String
  toFile : Bool
  directory : String
deriving DecidableEq, Repr

structure StorageSettings where
  path : String
  pathVariable : String
deriving DecidableEq, Repr

structure Settings where
  log : LogSettings
  storage : StorageSettings
  pattern : CompilerSettings
deriving DecidableEq, Repr

-- Settings as they are read and checked. Their texts need not be ones that can be encoded.
structure LooseLog where
  level : Loose
  toFile : Bool
  directory : Loose
deriving DecidableEq, Repr

structure LooseStorage where
  path : Loose
  pathVariable : Loose
deriving DecidableEq, Repr

structure LoosePattern where
  tokenizer : Loose
  arguments : List Loose := []
  probeTable : Option Loose := none
  probeSchema : Option Loose := none
  columns : List Loose := []
deriving DecidableEq, Repr

structure LooseSettings where
  log : LooseLog
  storage : LooseStorage
  pattern : LoosePattern
deriving DecidableEq, Repr

namespace Settings

open Datum

abbrev Check := Except SettingFault

abbrev Environment := List (String × String)

abbrev LooseEnvironment := List (Loose × Loose)

/-- A section of the settings; an empty one where a section that may be missing is null or missing. -/
def sectionOf (root : Entries) (key : String) (required : Bool) : Check Entries :=
  match root.get? key with
  | none | some .null => if required then .error (.missing key) else .ok []
  | some (.mapping entries) => .ok entries
  | some _ => .error (.notAnObject key)

def requiredValue (entries : Entries) (field key : String) : Check Datum :=
  match entries.get? field with
  | some value => .ok value
  | none => .error (.missing key)

def asString (key : String) : Datum → Check Loose
  | .text value => .ok value
  | _ => .error (.notAString key)

def asOptionalString (key : String) : Datum → Check (Option Loose)
  | .null => .ok none
  | value => (asString key value).map some

def asBool (key : String) : Datum → Check Bool
  | .bool value => .ok value
  | _ => .error (.notABoolean key)

def itemKey (key : String) (index : Nat) : String := key ++ "[" ++ toString index ++ "]"

def asStringsFrom (key : String) : Nat → List Datum → Check (List Loose)
  | _, [] => .ok []
  | index, item :: rest => do
    let text ← asString (itemKey key index) item
    let texts ← asStringsFrom key (index + 1) rest
    return text :: texts

def asStrings (key : String) : Datum → Check (List Loose)
  | .list items => asStringsFrom key 0 items
  | _ => .error (.notAList key)

def loadLog (root : Entries) : Check LooseLog := do
  let entries ← sectionOf root "log" true
  let level ← asString "log.level" (← requiredValue entries "level" "log.level")
  let toFile ← asBool "log.to_file" (← requiredValue entries "to_file" "log.to_file")
  let directory ← asString "log.dir" (← requiredValue entries "dir" "log.dir")
  return { level := level.upper, toFile, directory }

-- The names of variables are bytes, so names that differ can be the same variable.
def valueOf (environment : LooseEnvironment) (name : Loose) : Loose :=
  match name.bytes? with
  | some bytes => ((environment.find? fun entry => entry.1.bytes? == some bytes).map Prod.snd).getD ""
  | none => ""

def givenPath (environment : LooseEnvironment) (name : Loose) : Loose :=
  if name.isEmpty then "" else (valueOf environment name).trim

-- A variable is asked for by the bytes of its name, so the name is encoded first.
def pathFrom (environment : LooseEnvironment) (name : Loose) : Check Loose :=
  if name.isEncodable then .ok (givenPath environment name) else .error (.unencodable name)

def loadStorage (environment : LooseEnvironment) (root : Entries) : Check LooseStorage := do
  let entries ← sectionOf root "storage" true
  let path ← asString "storage.db_path" (← requiredValue entries "db_path" "storage.db_path")
  let pathVariable ←
    asString "storage.db_path_env" ((entries.get? "db_path_env").getD (.text ""))
  let given ← pathFrom environment pathVariable
  return { path := if given.isEmpty then path else given, pathVariable }

def loadPattern (root : Entries) : Check LoosePattern := do
  let entries ← sectionOf root "pattern" false
  let value (field : String) (default : Datum) := (entries.get? field).getD default
  let tokenizer ← asString "pattern.tokenizer" (value "tokenizer" (.text "simple"))
  let arguments ← asStrings "pattern.tokenizer_args" (value "tokenizer_args" (.list []))
  let probeTable ← asOptionalString "pattern.probe_table" (value "probe_table" .null)
  let probeSchema ← asOptionalString "pattern.probe_schema" (value "probe_schema" .null)
  let columns ← asStrings "pattern.columns" (value "columns" (.list []))
  return { tokenizer, arguments, probeTable, probeSchema, columns }

def levels : List Loose := ["DEBUG", "INFO", "WARNING", "ERROR", "CRITICAL"]

def checkLog (log : LooseLog) : Check Unit :=
  if !levels.contains log.level then .error .unknownLevel
  else if log.toFile && log.directory.isBlank then .error .blankLogDirectory
  else .ok ()

def checkStorage (storage : LooseStorage) : Check Unit :=
  if storage.path.isBlank then .error .blankDatabasePath else .ok ()

def blankColumn? (columns : List Loose) : Option Nat := columns.findIdx? Loose.isBlank

def checkProbe (pattern : LoosePattern) : Check Unit :=
  match pattern.probeTable, pattern.probeSchema with
  | some table, _ =>
    if table.isBlank then .error .blankProbeTable
    else if pattern.columns.isEmpty then .ok () else .error .columnsBesideProbeTable
  | none, some _ => .error .schemaWithoutProbeTable
  | none, none => .ok ()

def checkColumns (columns : List Loose) : Check Unit :=
  match blankColumn? columns with
  | some index => .error (.blankColumn index)
  | none =>
    if (columns.map Loose.lower).Nodup then .ok () else .error .duplicateColumns

def checkPattern (pattern : LoosePattern) : Check Unit := do
  if !pattern.tokenizer.isIdentifier then throw (.notAnIdentifier "pattern.tokenizer")
  checkProbe pattern
  checkColumns pattern.columns

/-- Reads the settings that a document holds. All values are read before any is checked further. -/
def readEntries (environment : LooseEnvironment) (root : Entries) : Check LooseSettings := do
  let log ← loadLog root
  let storage ← loadStorage environment root
  let pattern ← loadPattern root
  checkLog log
  checkStorage storage
  checkPattern pattern
  return { log, storage, pattern }

def plainText (text : Loose) : Check String :=
  match text.plain? with
  | some plain => .ok plain
  | none => .error (.unencodable text)

def plainOption : Option Loose → Check (Option String)
  | none => .ok none
  | some text => (plainText text).map some

-- Runs are modelled for texts that can be encoded. Settings with others are refused here, before anything runs.
def ofLoose (settings : LooseSettings) : Check Settings := do
  let log : LogSettings := {
    level := ← plainText settings.log.level, toFile := settings.log.toFile
    directory := ← plainText settings.log.directory }
  let storage : StorageSettings := {
    path := ← plainText settings.storage.path, pathVariable := ← plainText settings.storage.pathVariable }
  let pattern : CompilerSettings := {
    tokenizer := ← plainText settings.pattern.tokenizer
    arguments := ← settings.pattern.arguments.mapM plainText
    probeTable := ← plainOption settings.pattern.probeTable
    probeSchema := ← plainOption settings.pattern.probeSchema
    columns := ← settings.pattern.columns.mapM plainText }
  return { log, storage, pattern }

def looseEnvironment (environment : Environment) : LooseEnvironment :=
  environment.map fun (name, value) => (name, value)

def ofEntries (environment : Environment) (root : Entries) : Check Settings := do
  ofLoose (← readEntries (looseEnvironment environment) root)

end Settings

end TextQuery
