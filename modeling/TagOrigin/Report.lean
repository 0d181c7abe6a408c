import TagOrigin.Failure
import TagOrigin.Files.Walk
import TagOrigin.Filter
import TagOrigin.Usage

/-!
Reports on files: reading under an encoding, and what a file imports and uses. A file that the
file system refuses gets a report of its own with the reason; a wrong encoding ends the scan.
-/
namespace TagOrigin

/-- The bytes of a file. -/
def Files.FileSystem.readBytes (fs : Files.FileSystem) (path : Files.Path) :
    Except Files.Cause Encoding.Bytes :=
  match fs.locate path with
  | .error cause => .error cause
  | .ok place =>
    match fs.node? place.location with
    | some (.file contents readable) => if readable then .ok contents else .error .permissionDenied
    | some (.directory readable _) =>
      if readable then .error .isADirectory else .error .permissionDenied
    | _ => .error .notFound

/-- The text of a file under a named encoding. The file is opened before the encoding is looked
up, so a missing file is reported first. -/
def readText [Encoding.Charts] (fs : Files.FileSystem) (path encoding : Text) : Except Failure Text :=
  let place := Files.Path.ofText path
  if encoding.contains (Char.ofNat 0) then .error .nullCharacter
  else if place.hasNull then .error .nullByte
  else
    match fs.readBytes place with
    | .error cause => .error (.file { cause, path := place.text })
    | .ok bytes =>
      match Encoding.forReading encoding with
      | .error fault => .error (.encoding fault)
      | .ok encoding =>
        match encoding.decode bytes with
        | .error fault => .error (.encoding fault)
        | .ok t => .ok (Encoding.normaliseLineEnds t)

/-- What one file imports and uses, or why it could not be read. -/
structure Report where
  path : Text
  error : Option Text
  bindings : Import.Bindings
  usages : Register (List Usage)
  deriving DecidableEq, Repr

namespace Report

/-- The report on a text. -/
def ofText (path t : Text) : Report :=
  let bindings := Import.bindings t
  { path, error := none, bindings, usages := TagOrigin.usages t bindings }

/-- The report on a file that could not be read. -/
def unreadable (path : Text) (fault : Files.Fault) : Report :=
  { path, error := some fault.message, bindings := [], usages := [] }

end Report

/-- Reads one file and reports on it. -/
def scanFile [Encoding.Charts] (fs : Files.FileSystem) (encoding path : Text) : Except Failure Report :=
  match readText fs path encoding with
  | .ok t => .ok (.ofText path t)
  | .error (.file fault) => .ok (.unreadable path fault)
  | .error failure => .error failure

/-- One report per path, in order. -/
def scanFiles [Encoding.Charts] (fs : Files.FileSystem) (encoding : Text) (paths : List Text) :
    Except Failure (List Report) :=
  paths.mapM (scanFile fs encoding)

/-- The paths of all files below a directory. -/
def allFiles (fs : Files.FileSystem) (root : Text) : Except Failure (List Text) :=
  let path := Files.Path.ofText root
  if path.hasNull then .error .nullByte
  else
    match Files.walk fs path with
    | .error fault => .error (.file fault)
    | .ok paths => .ok (paths.map Files.Path.text)

/-- The files below a directory that have one of the extensions and that no pattern matches. -/
def collectFiles (fs : Files.FileSystem) (root : Text) (extensions patterns : List Text) :
    Except Failure (List Text) := do
  let files ← allFiles fs root
  match filterIgnored (filterByExtension files extensions) patterns with
  | .error fault => .error (.pattern fault)
  | .ok paths => .ok paths

end TagOrigin
