import TagOrigin.Proofs.Files.Resolution

/-!
The walk as a recursion on paths. A walk lists the directory that its path leads to and asks of each
entry, by its whole path, whether it is a directory; below those that are it walks again. The places
that the walk carries along are those that the paths lead to.
-/
namespace TagOrigin.Files

variable {fs : FileSystem} {path : Path} {place : Place}

/-- The files at or below a path: those of a walk if it leads to a directory, else the path itself. -/
def examine (fs : FileSystem) (path : Path) : Except Fault (List Path) :=
  match fs.isDirectory path with
  | .error fault => .error fault
  | .ok true => walk fs path
  | .ok false => .ok [path]

/-- Two results one after the other: the files of both, or the first fault. -/
def inOrder : Except Fault (List Path) → Except Fault (List Path) → Except Fault (List Path)
  | .error fault, _ => .error fault
  | .ok here, later => later.map (here ++ ·)

/-- A walk begins at the place of a directory. -/
theorem walk_eq_walkDirectory (located : fs.locate path = .ok place)
    (directory : fs.isDirectoryAt place.location = true) :
    walk fs path = walkDirectory fs place path := by
  rw [walk, located]
  simp only [directory, if_true]

theorem walkDirectory_of_listable {searchable : Bool}
    (listable : fs.node? place.location = some (.directory true searchable)) :
    walkDirectory fs place path = walkEntries fs place path (fs.names place.location) := by
  rw [walkDirectory, listable]

theorem walkDirectory_of_closed
    (closed : ∀ searchable, fs.node? place.location ≠ some (.directory true searchable)) :
    walkDirectory fs place path = .ok [] := by
  rw [walkDirectory]
  split
  · next searchable listable => exact absurd listable (closed searchable)
  · rfl

/-- Entries are examined one after the other, each by its whole path. -/
theorem walkEntries_cons {name : Text} (proper : IsName name) (clean : path.hasNull = false)
    (located : fs.locate path = .ok place) (rest : List Text) :
    walkEntries fs place path (name :: rest) =
      inOrder (examine fs (path.child name)) (walkEntries fs place path rest) := by
  have step := FileSystem.locate_child proper located
  have clean := Path.hasNull_child clean proper
  rw [walkEntries, examine, FileSystem.isDirectory, clean, step]
  by_cases long : (path.child name).isTooLong = true
  · simp [long, Cause.meansAbsent, inOrder]
  · rw [if_neg long] at step
    rw [if_neg long, if_neg long]
    cases entered : fs.enter place name with
    | error cause =>
      cases absent : cause.meansAbsent with
      | true => simp [absent, inOrder]
      | false => simp [absent, inOrder]
    | ok next =>
      rw [entered] at step
      cases directory : fs.isDirectoryAt next.location with
      | true =>
        rw [walk_eq_walkDirectory step directory]
        simp only [directory, if_true]
        cases walkDirectory fs next (path.child name) with
        | error fault => rfl
        | ok below => rfl
      | false => simp [directory, inOrder]

end TagOrigin.Files
