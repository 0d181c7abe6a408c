import TagOrigin.Files.Tree

/-!
Walking a directory: the paths of all files below it, in the order of their names at every level.
Links are followed, so one file can be met under several paths; the limit on links ends every cycle.
A directory that may not be listed contributes nothing. An entry that cannot be examined for
lack of permission is an error.
-/
namespace TagOrigin.Files

mutual

/-- The files below the directory at a place. `path` is how the directory was reached. -/
def walkDirectory (fs : FileSystem) (place : Place) (path : Path) : Except Fault (List Path) :=
  match fs.node? place.location with
  | some (.directory true _) => walkEntries fs place path (fs.names place.location)
  | _ => .ok []
termination_by (place.budget, fs.depth - place.location.length, 1, 0)

/-- The files at and below some entries of the directory at a place. -/
def walkEntries (fs : FileSystem) (place : Place) (path : Path) (names : List Text) :
    Except Fault (List Path) :=
  match names with
  | [] => .ok []
  | name :: rest =>
    if (path.child name).isTooLong then
      .error { cause := .nameTooLong, path := (path.child name).text }
    else
      match _entered : fs.enter place name with
      | .ok next =>
        if fs.isDirectoryAt next.location then
          match walkDirectory fs next (path.child name) with
          | .error fault => .error fault
          | .ok below => (walkEntries fs place path rest).map (below ++ ·)
        else (walkEntries fs place path rest).map (path.child name :: ·)
      | .error cause =>
        if cause.meansAbsent then (walkEntries fs place path rest).map (path.child name :: ·)
        else .error { cause, path := (path.child name).text }
termination_by (place.budget, fs.depth - place.location.length, 0, names.length)
decreasing_by
  · rcases FileSystem.enter_descends _entered with fewer | ⟨same, node, there⟩
    · exact Prod.Lex.left _ _ fewer
    · have deep := FileSystem.length_le_depth there
      subst same
      refine Prod.Lex.right _ (Prod.Lex.left _ _ ?_)
      simp only [List.length_append, List.length_singleton] at deep ⊢
      omega
  all_goals exact Prod.Lex.right _ (Prod.Lex.right _ (Prod.Lex.right _ (Nat.lt_succ_self _)))

end

/-- All files below a directory. The directory itself must be reachable and be a directory; if it may
not be listed, the list is empty. Calls are nested as deep as the directories are: there is no bound on
this depth here, while an interpreter stops when its call stack is used up. -/
def walk (fs : FileSystem) (path : Path) : Except Fault (List Path) :=
  match fs.locate path with
  | .error .permissionDenied => .ok []
  | .error cause => .error { cause, path := path.text }
  | .ok place =>
    if fs.isDirectoryAt place.location then walkDirectory fs place path
    else .error { cause := .notADirectory, path := path.text }

end TagOrigin.Files
