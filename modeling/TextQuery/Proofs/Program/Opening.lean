import TextQuery.Program
import TextQuery.Proofs.Session.Helpers

set_option autoImplicit false

namespace TextQuery

open Engine

theorem ok_of_mapError {ε ε' α : Type} {result : Except ε α} {report : ε → ε'} {value : α}
    (done : result.mapError report = .ok value) : result = .ok value := by
  cases result with
  | ok found => exact congrArg Except.ok (Except.ok.inj done)
  | error fault => cases done

namespace FileTree

variable {P : FileEntry → Prop} {tree next : FileTree} {path : Path} {entry : FileEntry}

def All (P : FileEntry → Prop) (tree : FileTree) : Prop := ∀ held ∈ tree.entries, P held.2

theorem All.put (all : tree.All P) (location : Location) (fits : P entry) : (tree.put location entry).All P := by
  unfold FileTree.put
  split
  · intro held member
    obtain ⟨other, there, rfl⟩ := List.mem_map.1 member
    split
    · exact fits
    · exact all other there
  · intro held member
    rcases List.mem_append.1 member with there | added
    · exact all held there
    · cases List.mem_singleton.1 added
      exact fits

theorem All.entry? (all : tree.All P) (directory : P .directory) {location : Location}
    (found : tree.entry? location = some entry) : P entry := by
  unfold FileTree.entry? at found
  split at found
  · cases found
    exact directory
  · obtain ⟨front, rest, entries, -⟩ := List.lookup_eq_some_iff.1 found
    exact all (location, entry) (by simp [entries])

variable (directory : P .directory)
include directory

theorem All.makeDirectory (all : tree.All P) (made : tree.makeDirectory path = .ok next) : next.All P := by
  unfold FileTree.makeDirectory at made
  cases place : tree.locate path with
  | error obstacle =>
    rw [place] at made
    cases made
  | ok location =>
    simp only [place, bind, Except.bind] at made
    split at made
    · cases made
    · cases made
      exact all.put location directory

theorem All.settle (all : tree.All P) (made : tree.settle path (tree.makeDirectory path) = .ok next) :
    next.All P := by
  cases attempt : tree.makeDirectory path with
  | ok other =>
    rw [attempt] at made
    cases made
    exact all.makeDirectory directory attempt
  | error obstacle =>
    rw [attempt] at made
    unfold FileTree.settle at made
    split at made
    next same => cases same
    next => cases made
    next =>
      split at made
      · cases made
        exact all
      · cases made

theorem All.makeAbove {fromRoot : Bool} (parts : List String) (all : tree.All P)
    (made : makeAbove fromRoot tree parts = .ok next) : next.All P := by
  induction parts generalizing next with
  | nil =>
    cases made
    exact all
  | cons last above ih =>
    unfold FileTree.makeAbove at made
    simp only at made
    split at made
    · split at made
      · cases made
      · obtain ⟨middle, first, made⟩ := exists_of_bind_eq_ok made
        exact (ih first).settle directory made
    · exact all.settle directory made

theorem All.makeDirectories (all : tree.All P) (made : tree.makeDirectories path = .ok next) : next.All P := by
  obtain ⟨_, -, made⟩ := exists_of_bind_eq_ok made
  exact all.makeAbove directory _ made

end FileTree

def FileEntry.IsProper : FileEntry → Prop
  | .database held => held.main.name = "main"
  | _ => True

variable {tree left : FileTree}

theorem FileTree.All.append (proper : tree.All FileEntry.IsProper) (location : Location) (added : String) :
    (tree.append location added).All FileEntry.IsProper := by
  unfold FileTree.append
  split
  · exact proper.put location trivial
  · exact proper.put location trivial
  · exact proper

theorem Log.proper_configure {log next : Log} {request : LogRequest} {moment : Moment} {path : Option Path}
    (proper : tree.All FileEntry.IsProper)
    (configured : log.configure request moment tree = .ok (next, path, left)) : left.All FileEntry.IsProper := by
  obtain ⟨level, -, configured⟩ := exists_of_bind_eq_ok configured
  cases place : place? request moment with
  | none =>
    rw [place] at configured
    cases configured
    exact proper
  | some paths =>
    obtain ⟨directory, path⟩ := paths
    rw [place] at configured
    obtain ⟨⟨location, middle⟩, opened, configured⟩ := exists_of_bind_eq_ok configured
    cases configured
    obtain ⟨above, made, opened⟩ := exists_of_bind_eq_ok opened
    obtain ⟨_, -, opened⟩ := exists_of_bind_eq_ok opened
    have settled := proper.makeDirectories trivial (ok_of_mapError made)
    dsimp only at opened
    split at opened
    · cases opened
    · cases opened
      exact settled.append location ""

namespace Storage

variable {database : Database} {path : String}

theorem kept_openPath (proper : tree.All FileEntry.IsProper) (opened : openPath tree path = .ok (database, left)) :
    database.Kept := by
  have new (condition : Condition) : Database.Kept { condition } := Database.Kept.outlasting.opened condition
  unfold openPath at opened
  split at opened
  · cases opened
    exact new .usable
  · obtain ⟨above, made, opened⟩ := exists_of_bind_eq_ok opened
    have settled := proper.makeDirectories trivial (ok_of_mapError made)
    obtain ⟨_, -, opened⟩ := exists_of_bind_eq_ok opened
    simp only at opened
    split at opened
    · cases opened
    · split at opened
      · cases opened
      · split at opened
        · cases opened
        · cases opened
          unfold ofText
          split
          · exact new .usable
          · exact new .notADatabase
        · rename_i held found
          cases opened
          have main : held.main.name = "main" := settled.entry? trivial found
          exact ⟨main, rfl, by simp [Database.reopened, Database.forget], .nil⟩
        · cases opened
          exact new .usable

theorem kept_connect {version : Version} {session : Session} {records : List Record}
    (proper : tree.All FileEntry.IsProper) (connected : connect version tree path = .ok (session, records, left)) :
    session = { path, database := session.database } ∧ records = [openedRecord version path] ∧
      session.database.Kept := by
  unfold connect at connected
  split at connected
  · cases connected
  · obtain ⟨⟨database, middle⟩, opened, connected⟩ := exists_of_bind_eq_ok connected
    cases connected
    exact ⟨rfl, rfl, kept_openPath proper opened⟩

end Storage

end TextQuery
