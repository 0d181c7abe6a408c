import TagOrigin.Distinct
import TagOrigin.Encoding.Utf8
import TagOrigin.Files.Path

/-!
File systems. A file system is a finite list of locations with what lies there, seen by one user:
files and directories carry what this user may do with them. Resolving a path follows symbolic
links, at most `linkLimit` of them over the whole path.
-/
namespace TagOrigin.Files

/-- The names from the root down to an object. -/
abbrev Location := List Text

/-- What lies at a location. -/
inductive Node where
  | file (contents : Encoding.Bytes) (readable : Bool)
  /-- A directory may be listed if it is readable, and passed if it is searchable. -/
  | directory (readable searchable : Bool)
  | link (target : Text)
  deriving DecidableEq, Repr

structure FileSystem where
  entries : List (Location × Node)
  /-- Where relative paths begin. -/
  home : Location
  deriving DecidableEq, Repr

/-- The files after a request, and the fault that ended it, if one did. What was done before stays. -/
structure Change where
  files : FileSystem
  fault : Option Fault
  deriving DecidableEq, Repr

/-- Goes on with a further request, unless the one before ended with a fault. -/
def Change.andThen (change : Change) (next : FileSystem → Change) : Change :=
  match change.fault with
  | some _ => change
  | none => next change.files

/-- How many links one path may follow. -/
def linkLimit : Nat := 40

/-- How many bytes a name may have. -/
def nameLimit : Nat := 255

/-- How many bytes a written path may have. -/
def pathLimit : Nat := 4095

/-- A place on the way along a path: a location, and how many links may still be followed. -/
structure Place where
  location : Location
  budget : Nat
  deriving DecidableEq, Repr

/-- Whether a name has more bytes than a name may have. -/
def isTooLong (name : Text) : Bool :=
  nameLimit < (Encoding.Utf8.encode name).length

/-- Whether a path has more bytes than a path may have, whatever lies on its way. -/
def Path.isTooLong (path : Path) : Bool :=
  pathLimit < (Encoding.Utf8.encode path.text).length

/-- Where a link leads: from the root or from the link's own directory, and the components to walk.
A final slash asks for a directory, and so does a point. -/
def linkSteps (directory : Location) (target : Text) : Location × List Text :=
  let parts := (target.splitOn '/').filter (· ≠ [])
  let parts := if target.getLast? = some '/' then parts ++ [['.']] else parts
  (if target.head? = some '/' then [] else directory, parts)

namespace FileSystem

/-- An empty directory to work in. It lies below the root, so that a path that leaves it finds none
of its files. -/
def empty : FileSystem :=
  let home : Location := ["workspace".toList]
  { entries := [([], .directory true true), (home, .directory true true)], home }

/-- What lies at a location, links not followed. -/
def node? (fs : FileSystem) (location : Location) : Option Node :=
  (fs.entries.find? fun entry => entry.1 = location).map Prod.snd

/-- The length of the longest location. -/
def depth (fs : FileSystem) : Nat :=
  (fs.entries.map fun entry => entry.1.length).foldr max 0

theorem length_le_depth {fs : FileSystem} {location : Location} {node : Node}
    (h : fs.node? location = some node) : location.length ≤ fs.depth := by
  obtain ⟨entry, found, -⟩ := Option.map_eq_some_iff.1 h
  have same : entry.1 = location := by simpa using List.find?_some found
  have member := List.mem_of_find?_eq_some found
  rw [← same, depth]
  generalize fs.entries = entries at member
  induction entries with
  | nil => cases member
  | cons e rest ih =>
    rcases List.mem_cons.1 member with rfl | inside
    · simp only [List.map_cons, List.foldr_cons]
      exact Nat.le_max_left _ _
    · simp only [List.map_cons, List.foldr_cons]
      exact Nat.le_trans (ih inside) (Nat.le_max_right _ _)

/-- Whether names inside a location can be reached. -/
def passable (fs : FileSystem) (location : Location) : Except Cause Unit :=
  match fs.node? location with
  | some (.directory _ searchable) => if searchable then .ok () else .error .permissionDenied
  | some _ => .error .notADirectory
  | none => .error .notFound

/-- The entry of a directory with a given name, links not followed. -/
def child (fs : FileSystem) (location : Location) (name : Text) : Except Cause Node := do
  fs.passable location
  if isTooLong name then .error .nameTooLong
  else
    match fs.node? (location ++ [name]) with
    | some node => .ok node
    | none => .error .notFound

/-- Walks components from a location, following links. -/
def resolve (fs : FileSystem) (budget : Nat) (location : Location) (parts : List Text) :
    Except Cause Place :=
  match parts with
  | [] => .ok ⟨location, budget⟩
  | part :: rest =>
    if part = ['.'] then
      match fs.passable location with
      | .error cause => .error cause
      | .ok () => resolve fs budget location rest
    else if part = ['.', '.'] then
      match fs.passable location with
      | .error cause => .error cause
      | .ok () => resolve fs budget location.dropLast rest
    else
      match fs.child location part with
      | .error cause => .error cause
      | .ok (.link target) =>
        match budget with
        | 0 => .error .tooManyLinks
        | budget + 1 =>
          resolve fs budget (linkSteps location target).1 ((linkSteps location target).2 ++ rest)
      | .ok _ => resolve fs budget (location ++ [part]) rest
termination_by (budget, parts.length)

/-- Resolving never gains links. -/
theorem resolve_budget_le {fs : FileSystem} {budget : Nat} {location : Location}
    {parts : List Text} {place : Place} (h : fs.resolve budget location parts = .ok place) :
    place.budget ≤ budget := by
  fun_induction resolve fs budget location parts with
  | case1 => cases h; exact Nat.le_refl _
  | case2 => cases h
  | case3 _ _ _ _ ih => exact ih h
  | case4 => cases h
  | case5 _ _ _ _ _ ih => exact ih h
  | case6 => cases h
  | case7 => cases h
  | case8 _ _ _ _ _ _ _ _ ih => exact Nat.le_succ_of_le (ih h)
  | case9 _ _ _ _ _ _ _ _ _ ih => exact ih h

/-- Enters the entry `name` of the directory at a place, following links. -/
def enter (fs : FileSystem) (place : Place) (name : Text) : Except Cause Place :=
  match fs.child place.location name with
  | .error cause => .error cause
  | .ok (.link target) =>
    match place.budget with
    | 0 => .error .tooManyLinks
    | budget + 1 =>
      fs.resolve budget (linkSteps place.location target).1 (linkSteps place.location target).2
  | .ok _ => .ok ⟨place.location ++ [name], place.budget⟩

/-- Entering either follows a link and uses up the budget, or goes one name deeper. -/
theorem enter_descends {fs : FileSystem} {place next : Place} {name : Text}
    (h : fs.enter place name = .ok next) :
    next.budget < place.budget ∨
      (next = ⟨place.location ++ [name], place.budget⟩ ∧
        ∃ node, fs.node? (place.location ++ [name]) = some node) := by
  unfold enter at h
  cases found : fs.child place.location name with
  | error cause => simp [found] at h
  | ok node =>
    have exists_node : ∃ node, fs.node? (place.location ++ [name]) = some node := by
      unfold child at found
      cases through : fs.passable place.location with
      | error cause => simp [through, bind, Except.bind] at found
      | ok =>
        simp only [through, bind, Except.bind] at found
        split at found
        · cases found
        · split at found
          · next node there => exact ⟨node, there⟩
          · cases found
    cases node with
    | file contents readable =>
      simp only [found, Except.ok.injEq] at h
      exact Or.inr ⟨h.symm, exists_node⟩
    | directory readable searchable =>
      simp only [found, Except.ok.injEq] at h
      exact Or.inr ⟨h.symm, exists_node⟩
    | link target =>
      simp only [found] at h
      split at h
      · cases h
      · next budget same =>
        have := resolve_budget_le h
        exact Or.inl (by omega)

/-- Where a path begins. -/
def start (fs : FileSystem) (path : Path) : Location :=
  if path.isAbsolute then [] else fs.home

/-- The place that a path leads to. -/
def locate (fs : FileSystem) (path : Path) : Except Cause Place :=
  if path.isTooLong then .error .nameTooLong
  else fs.resolve linkLimit (fs.start path) path.parts

/-- Whether the object at a location is a directory. -/
def isDirectoryAt (fs : FileSystem) (location : Location) : Bool :=
  match fs.node? location with
  | some (.directory _ _) => true
  | _ => false

/-- Whether a path leads to a directory. What cannot exist is no directory, but a name that is too
long or a directory that may not be passed is an error. -/
def isDirectory (fs : FileSystem) (path : Path) : Except Fault Bool :=
  if path.hasNull then .ok false
  else
    match fs.locate path with
    | .ok place => .ok (fs.isDirectoryAt place.location)
    | .error cause =>
      if cause.meansAbsent then .ok false else .error { cause, path := path.text }

/-- Names in the order of their characters, each once. -/
def sortNames (names : List Text) : List Text :=
  (distinct names).mergeSort Text.precedes

/-- The names of the entries of a directory, in order. -/
def names (fs : FileSystem) (location : Location) : List Text :=
  sortNames (fs.entries.filterMap fun entry =>
    if entry.1.dropLast = location then entry.1.getLast? else none)

/-- Puts a node at a location, in place of what lies there. -/
def put (fs : FileSystem) (location : Location) (node : Node) : FileSystem :=
  { fs with entries := fs.entries.filter (fun entry => entry.1 ≠ location) ++ [(location, node)] }

/-- Removes a location and everything below it. -/
def removeAt (fs : FileSystem) (location : Location) : FileSystem :=
  { fs with entries := fs.entries.filter fun entry => !location.isPrefixOf entry.1 }

/-- Makes a directory in one that is there. A directory that is there already is left as it is. -/
def addDirectory (fs : FileSystem) (path : Path) : Except Cause FileSystem :=
  if path.isTooLong then .error .nameTooLong
  else
    match path.parts.getLast?, fs.resolve linkLimit (fs.start path) path.parts.dropLast with
    | none, _ => .ok fs
    | _, .error cause => .error cause
    | some name, .ok place =>
      if name = ['.', '.'] then (fs.passable place.location).map fun _ => fs
      else
        match fs.child place.location name, fs.locate path with
        | .ok _, .ok found =>
          if fs.isDirectoryAt found.location then .ok fs else .error .alreadyExists
        | .ok _, .error _ => .error .alreadyExists
        | .error .notFound, _ => .ok (fs.put (place.location ++ [name]) (.directory true true))
        | .error cause, _ => .error cause

/-- Makes a directory with its parents, the outermost first. -/
def makeDirectory (fs : FileSystem) (path : Path) : Change :=
  match fs.addDirectory path with
  | .ok files => ⟨files, none⟩
  | .error cause =>
    if _inner : cause = .notFound ∧ path.parts ≠ [] then
      (makeDirectory fs path.parent).andThen fun files =>
        match files.addDirectory path with
        | .ok files => ⟨files, none⟩
        | .error cause => ⟨files, some { cause, path := path.text }⟩
    else ⟨fs, some { cause, path := path.text }⟩
termination_by path.parts.length
decreasing_by
  have := List.length_pos_iff.2 _inner.2
  simp only [Path.parent, List.length_dropLast]
  omega

/-- Where a file with the given components is or comes to lie. Links are followed at the end too, also
those that lead to what is not there yet; only a link that asks for a directory is none to a file. -/
def newLocation (fs : FileSystem) (budget : Nat) (location : Location) (parts : List Text) :
    Except Cause Location :=
  match parts.getLast? with
  | none => .ok location
  | some name =>
    if name = ['.'] || name = ['.', '.'] then
      (fs.resolve budget location parts).map Place.location
    else
      match _found : fs.resolve budget location parts.dropLast with
      | .error cause => .error cause
      | .ok place =>
        match fs.child place.location name with
        | .ok (.link target) =>
          match _left : place.budget with
          | 0 => .error .tooManyLinks
          | budget + 1 =>
            let (base, parts) := linkSteps place.location target
            if target.getLast? = some '/' then
              match fs.resolve budget base (parts.take (parts.length - 2)) with
              | .error cause => .error cause
              | .ok place =>
                match fs.passable place.location with
                | .error cause => .error cause
                | .ok () => .error .isADirectory
            else newLocation fs budget base parts
        | .ok _ | .error .notFound => .ok (place.location ++ [name])
        | .error cause => .error cause
termination_by budget
decreasing_by
  have := resolve_budget_le _found
  omega

/-- Writes a file, with its parent directories. A link is written through. -/
def write (fs : FileSystem) (path : Path) (contents : Encoding.Bytes) : Change :=
  (fs.makeDirectory path.parent).andThen fun made =>
    let refused (cause : Cause) : Change := ⟨made, some { cause, path := path.text }⟩
    if path.isTooLong then refused .nameTooLong
    else
      match made.newLocation linkLimit (made.start path) path.parts with
      | .error cause => refused cause
      | .ok location =>
        if made.isDirectoryAt location then refused .isADirectory
        else ⟨made.put location (.file contents true), none⟩

/-- Makes a symbolic link, with its parent directories. -/
def makeLink (fs : FileSystem) (path : Path) (target : Text) : Change :=
  (fs.makeDirectory path.parent).andThen fun made =>
    let refused (cause : Cause) : Change :=
      ⟨made, some { cause, path := path.text, target := some target }⟩
    if target = [] then refused .notFound
    else if pathLimit < (Encoding.Utf8.encode target).length || path.isTooLong then
      refused .nameTooLong
    else
      match path.parts.getLast?, made.resolve linkLimit (made.start path) path.parts.dropLast with
      | none, _ | some ['.', '.'], .ok _ => refused .alreadyExists
      | _, .error cause => refused cause
      | some name, .ok place =>
        match made.child place.location name with
        | .ok _ => refused .alreadyExists
        | .error .notFound => ⟨made.put (place.location ++ [name]) (.link target), none⟩
        | .error cause => refused cause

/-- Removes a file, a link or a directory with everything in it. -/
def remove (fs : FileSystem) (path : Path) : Change :=
  let refused (cause : Cause) : Change := ⟨fs, some { cause, path := path.text }⟩
  match fs.resolve linkLimit (fs.start path) path.parts.dropLast with
  | .error cause => refused cause
  | .ok place =>
    match fs.child place.location (path.parts.getLastD []) with
    | .error cause => refused cause
    | .ok _ => ⟨fs.removeAt (place.location ++ [path.parts.getLastD []]), none⟩

end FileSystem

end TagOrigin.Files
