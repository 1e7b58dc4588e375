import TextQuery.Engine.Answer
import TextQuery.Failure

set_option autoImplicit false

namespace TextQuery

/-- A path by its parts. Empty parts and single points in it mean nothing. -/
structure Path where
  fromRoot : Bool := false
  parts : List String := []
deriving DecidableEq, Repr

namespace Path

def separator : Char := '/'

def split : List Char → List (List Char)
  | [] => [[]]
  | c :: rest =>
    if c == separator then [] :: split rest
    else match split rest with
      | part :: parts => (c :: part) :: parts
      | [] => [[c]]

def ofText (text : String) : Path where
  fromRoot := text.toList.head? == some separator
  parts := ((split text.toList).map String.ofList).filter fun part => part != "" && part != "."

def text (path : Path) : String :=
  let joined := String.intercalate "/" path.parts
  if path.fromRoot then "/" ++ joined else if path.parts.isEmpty then "." else joined

def append (path other : Path) : Path :=
  if other.fromRoot then other else { path with parts := path.parts ++ other.parts }

def parent (path : Path) : Path := { path with parts := path.parts.dropLast }

def checkNul (path : Path) : Except FileFault Unit :=
  if path.parts.any fun part => part.toList.contains '\x00' then .error .nulInPath else .ok ()

end Path

inductive FileEntry where
  | directory
  | text (content : String)
  | database (held : Engine.Database)
deriving Repr

abbrev Location := List String

/-- The entries that there are besides the directory in which the program runs, and how many bytes the
path of that directory has. -/
structure FileTree where
  entries : List (Location × FileEntry) := []
  baseLength : Nat := 0
deriving Repr

inductive Obstacle where
  | missing
  | occupied
  | notADirectory
  | tooLong
deriving DecidableEq, Repr

namespace FileTree

def longestName : Nat := 255

def longestPath : Nat := 4095

def entry? (tree : FileTree) (location : Location) : Option FileEntry :=
  if location.isEmpty then some .directory else tree.entries.lookup location

def isDirectoryAt (tree : FileTree) (location : Location) : Bool :=
  match tree.entry? location with
  | some .directory => true
  | _ => false

def put (tree : FileTree) (location : Location) (entry : FileEntry) : FileTree :=
  if (tree.entry? location).isSome then
    { tree with
      entries := tree.entries.map fun held => if held.1 == location then (location, entry) else held }
  else { tree with entries := tree.entries ++ [(location, entry)] }

def follow (tree : FileTree) : Location → List String → Except Obstacle Location
  | here, [] => .ok here
  | here, part :: rest =>
    match tree.entry? here with
    | none => .error .missing
    | some .directory =>
      if part.utf8ByteSize > longestName then .error .tooLong
      -- Above the directory of the program nothing is known, so going up from it stays there.
      else follow tree (if part == ".." then here.dropLast else here ++ [part]) rest
    | some _ => .error .notADirectory

def locate (tree : FileTree) (path : Path) : Except Obstacle Location :=
  if path.text.utf8ByteSize > longestPath then .error .tooLong
  else if path.fromRoot then .error .missing
  else tree.follow [] path.parts

def isDirectory (tree : FileTree) (path : Path) : Bool :=
  match tree.locate path with
  | .ok location => tree.isDirectoryAt location
  | .error _ => false

def fault (path : Path) : Obstacle → FileFault
  | .missing => .notFound path.text
  | .occupied => .occupied path.text
  | .notADirectory => .notADirectory path.text
  | .tooLong => .tooLong path.text

def read (tree : FileTree) (path : Path) : Except Failure String := do
  path.checkNul.mapError .file
  match tree.locate path with
  | .error obstacle => throw (.file (fault path obstacle))
  | .ok location =>
    match tree.entry? location with
    | some (.text content) => return content
    | some .directory => throw (.file (.isADirectory path.text))
    | some (.database _) => throw .malformed
    | none => throw (.file (.notFound path.text))

def append (tree : FileTree) (location : Location) (added : String) : FileTree :=
  match tree.entry? location with
  | some (.text content) => tree.put location (.text (content ++ added))
  | none => tree.put location (.text added)
  | some _ => tree

def makeDirectory (tree : FileTree) (path : Path) : Except Obstacle FileTree := do
  let location ← tree.locate path
  match tree.entry? location with
  | some _ => throw .occupied
  | none => return tree.put location .directory

def settle (tree : FileTree) (path : Path) : Except Obstacle FileTree → Except FileFault FileTree
  | .ok tree => .ok tree
  | .error .missing => .error (.notFound path.text)
  | .error obstacle => if tree.isDirectory path then .ok tree else .error (fault path obstacle)

def makeAbove (fromRoot : Bool) (tree : FileTree) : List String → Except FileFault FileTree
  | [] => .ok tree
  | last :: above =>
    let path : Path := ⟨fromRoot, (last :: above).reverse⟩
    -- The directory above is made only if the first attempt finds it missing.
    match tree.makeDirectory path with
    | .error .missing =>
      match above with
      | [] => .error (.notFound path.text)
      | above => do
        let tree ← makeAbove fromRoot tree above
        tree.settle path (tree.makeDirectory path)
    | made => tree.settle path made

def makeDirectories (tree : FileTree) (path : Path) : Except FileFault FileTree := do
  path.checkNul
  makeAbove path.fromRoot tree path.parts.reverse

def add (tree : FileTree) (path : Path) (entry : FileEntry) : FileTree :=
  let tree := match tree.makeDirectories path.parent with
    | .ok tree => tree
    | .error _ => tree
  match tree.locate path with
  | .ok location => tree.put location entry
  | .error _ => tree

def directories (tree : FileTree) : List String :=
  tree.entries.filterMap fun (location, entry) =>
    match entry with
    | .directory => some (Path.text { parts := location })
    | _ => none

end FileTree

end TextQuery
