import TagOrigin.Text.Quoted

/-!
Paths and what can go wrong with them. A path is kept in normal form: empty components, `.` and
trailing slashes are dropped, `..` is kept because links may give it a meaning of its own.
-/
namespace TagOrigin.Files

/-- A path in normal form. `anchor` is empty for a relative path, else one or two slashes. -/
structure Path where
  anchor : Text
  parts : List Text
  deriving DecidableEq, Repr

namespace Path

/-- The components of a written path that count. -/
def components (t : Text) : List Text :=
  (t.splitOn '/').filter fun part => part ≠ [] && part ≠ ['.']

/-- The anchor of a written path. Exactly two slashes are kept, more count as one. -/
def anchorOf (t : Text) : Text :=
  match (t.takeWhile (· = '/')).length with
  | 0 => []
  | 2 => "//".toList
  | _ => ['/']

def ofText (t : Text) : Path :=
  ⟨anchorOf t, components t⟩

/-- The path as it is written. A path without components is a single point. -/
def text (path : Path) : Text :=
  match path.anchor ++ Text.join ['/'] path.parts with
  | [] => ['.']
  | t => t

/-- The path without its last component. -/
def parent (path : Path) : Path :=
  { path with parts := path.parts.dropLast }

/-- The path of an entry of the directory at `path`. -/
def child (path : Path) (name : Text) : Path :=
  { path with parts := path.parts ++ [name] }

def isAbsolute (path : Path) : Bool :=
  path.anchor ≠ []

/-- Whether the path holds a character that no file name can hold. -/
def hasNull (path : Path) : Bool :=
  path.parts.any fun part => part.contains (Char.ofNat 0)

end Path

/-- Why the file system refuses a request. -/
inductive Cause where
  | notFound
  | permissionDenied
  | alreadyExists
  | notADirectory
  | isADirectory
  | nameTooLong
  | tooManyLinks
  deriving DecidableEq, Repr

/-- The number of a cause in messages. -/
def Cause.number : Cause → Nat
  | .notFound => 2
  | .permissionDenied => 13
  | .alreadyExists => 17
  | .notADirectory => 20
  | .isADirectory => 21
  | .nameTooLong => 36
  | .tooManyLinks => 40

def Cause.message : Cause → Text
  | .notFound => "No such file or directory".toList
  | .permissionDenied => "Permission denied".toList
  | .alreadyExists => "File exists".toList
  | .notADirectory => "Not a directory".toList
  | .isADirectory => "Is a directory".toList
  | .nameTooLong => "File name too long".toList
  | .tooManyLinks => "Too many levels of symbolic links".toList

/-- Whether a failure to reach something means that nothing is there. -/
def Cause.meansAbsent : Cause → Bool
  | .notFound | .notADirectory | .tooManyLinks => true
  | _ => false

/-- A refused request: the cause and the path that it was about. -/
structure Fault where
  cause : Cause
  path : Text
  /-- Where a link was to lead, if making one was refused. -/
  target : Option Text := none
  deriving DecidableEq, Repr

def Fault.message (fault : Fault) : Text :=
  "[Errno ".toList ++ Text.ofNat fault.cause.number ++ "] ".toList ++ fault.cause.message ++
    ": ".toList ++
    match fault.target with
    | none => Text.quoted fault.path
    | some target => Text.quoted target ++ " -> ".toList ++ Text.quoted fault.path

end TagOrigin.Files
