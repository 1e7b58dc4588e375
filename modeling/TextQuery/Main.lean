import Std.Time.Zoned
import TextQuery.Program

-- The program on a real file system. The entries that a run may ask for are read first, the run itself is pure,
-- and what it leaves is written afterwards. Of the databases in files only the empty ones are known: the tables
-- of a run are not kept.

set_option autoImplicit false

namespace TextQuery.Program

def unreadable : String := "\x00"

def readEntry (path : Path) : IO (Option FileEntry) := do
  match ← (IO.FS.realPath path.text).toBaseIO with
  | .error _ => return none
  | .ok place =>
    if ← place.isDir then return some .directory
    else match ← (IO.FS.readFile place).toBaseIO with
      | .ok content => return some (.text content)
      | .error _ => return some (.text unreadable)

def explore (tree : FileTree) (path : Path) : IO FileTree :=
  (List.range path.parts.length).foldlM (fun tree index => do
    let above : Path := { path with parts := path.parts.take (index + 1) }
    match ← readEntry above with
    | some entry => return tree.add above entry
    | none => return tree) tree

def logDirectory (settings : Settings) : Path := .ofText settings.log.directory

def settingsPath (arguments : List String) : Path :=
  match CommandLine.readOptions {} Settings.defaultPath.text arguments with
  | .ok (path, _) => path
  | .error _ => Settings.defaultPath

def readEnvironment (tree : FileTree) (path : Path) : IO Settings.Environment := do
  match Settings.load tree [] Settings.defaultPath path with
  | .error _ => return []
  | .ok settings =>
    let variableName := settings.storage.pathVariable
    match ← IO.getEnv variableName with
    | some value => return [(variableName, value)]
    | none => return []

def readMoment : IO Moment := do
  let now ← Std.Time.PlainDateTime.now
  return ⟨now.month.val.toNat, now.day.val.toNat, now.hour.val.toNat, now.minute.val.toNat,
    now.second.val.toNat⟩

def readSurroundings (arguments : List String) : IO Surroundings := do
  let path := settingsPath arguments
  let base := (← IO.currentDir).toString.utf8ByteSize
  let tree ← explore (← explore { baseLength := base } Settings.defaultPath) path
  let environment ← readEnvironment tree path
  let moment ← readMoment
  match Settings.load tree environment Settings.defaultPath path with
  | .error _ => return { environment, tree, moment }
  | .ok settings =>
    let tree ← explore tree (.ofText settings.storage.path)
    return { environment, tree := ← explore tree (logDirectory settings), moment }

def writeEntries (before after : FileTree) : IO Unit :=
  after.entries.forM fun (location, entry) => do
    if (before.entry? location).isNone then
      let path := Path.text { parts := location }
      match entry with
      | .directory => IO.FS.createDirAll path
      | .text content => IO.FS.withFile path .append fun file => file.putStr content
      | .database _ => IO.FS.withFile path .append fun file => file.putStr ""

end TextQuery.Program

open TextQuery in
def main (arguments : List String) : IO UInt32 := do
  let around ← Program.readSurroundings arguments
  let outcome := Program.run around arguments
  Program.writeEntries around.tree outcome.tree
  IO.print outcome.output
  IO.eprint outcome.console
  match outcome.status with
  | .ok status => return status.toUInt32
  | .error failure =>
    IO.eprintln failure.message
    return 1
