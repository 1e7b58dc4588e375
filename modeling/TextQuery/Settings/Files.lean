import TextQuery.Datum.YamlReader
import TextQuery.FileTree
import TextQuery.Settings

set_option autoImplicit false

namespace TextQuery.Settings

open Datum

def defaultPath : Path := .ofText "config/default.yml"

/-- The entries of a root. A root that is an entry of its own is written out there. -/
def opened (root : Entries) : Entries :=
  root.map fun (key, value) =>
    match value with
    | .again _ => (key, .mapping root)
    | value => (key, value)

def parse (text : String) : Except Failure Entries := do
  let root ← Datum.ofYaml? text
  if root.isNothing then return []
  else match root with
    | .mapping entries => return opened entries
    | _ => throw (.setting .rootNotAMapping)

def ofDatum (environment : LooseEnvironment) (root : Entries) : Except Failure LooseSettings :=
  (readEntries environment root).mapError .setting

/-- Loads the default settings with those of a file over them. The default file stands alone when it is
asked for itself. -/
def loadLoose (tree : FileTree) (environment : LooseEnvironment) (default path : Path) :
    Except Failure LooseSettings := do
  let base ← parse (← tree.read default)
  -- The default file has been read already.
  if path = default then ofDatum environment base
  else
    let override ← parse (← tree.read path)
    if mergesEndlessly base override then throw .endless
    ofDatum environment (merge base override)

def load (tree : FileTree) (environment : Environment) (default path : Path) : Except Failure Settings := do
  (ofLoose (← loadLoose tree (looseEnvironment environment) default path)).mapError .setting

end TextQuery.Settings
