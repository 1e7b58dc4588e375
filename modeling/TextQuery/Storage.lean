import TextQuery.FileTree
import TextQuery.Session

set_option autoImplicit false

namespace TextQuery.Storage

open Engine

abbrev Version := List Nat

def oldest : Version := [3, 9, 0]

def engineVersion : Version := [3, 40, 1]

def versionText (version : Version) : String := String.intercalate "." (version.map toString)

def before : Version → Version → Bool
  | [], [] => false
  | [], _ :: _ => true
  | _ :: _, [] => false
  | a :: as, b :: bs => a < b || (a == b && before as bs)

/-- The database that a text file is taken for. Only an empty file is one, and so is one of a single
byte. -/
def ofText (content : String) : Database :=
  if content.utf8ByteSize ≤ 1 then {} else { condition := .notADatabase }

/-- How many bytes the whole path of a database may have. There has to be room for the name of its
journal as well. -/
def longestPath : Nat := 504

def wholeLength (tree : FileTree) (path : Path) : Nat :=
  let parts := path.parts.foldl
    (fun parts part => if part == ".." then parts.drop 1 else part :: parts) []
  parts.foldl (fun length part => length + 1 + part.utf8ByteSize)
    (if path.fromRoot then 0 else tree.baseLength)

def openFile (tree : FileTree) (path : Path) : Except Failure (Database × FileTree) := do
  path.checkNul.mapError .file
  if wholeLength tree path > longestPath then throw (.engine .cannotOpen)
  match tree.locate path with
  | .error _ => throw (.engine .cannotOpen)
  | .ok location =>
    match tree.entry? location with
    | some .directory => throw (.engine .cannotOpen)
    | some (.text content) => return (ofText content, tree)
    | some (.database held) => return (held.reopened, tree)
    | none => return ({}, tree.put location (.database {}))

def openPath (tree : FileTree) (path : String) : Except Failure (Database × FileTree) :=
  if path == Session.memoryPath || path.isEmpty then .ok ({}, tree)
  else do
    -- Directories are made before the file is looked for.
    let place := Path.ofText path
    let tree ← (tree.makeDirectories place.parent).mapError .file
    openFile tree place

def openedRecord (version : Version) (path : String) : Record :=
  ⟨Level.debug, "Opened database " ++ path ++ " (SQLite " ++ versionText version ++ ")"⟩

def connect (version : Version) (tree : FileTree) (path : String) :
    Except Failure (Session × List Record × FileTree) :=
  if before version oldest then .error (.engineTooOld (versionText version))
  else do
    let (database, tree) ← openPath tree path
    return ({ path, database }, [openedRecord version path], tree)

end TextQuery.Storage
