import TagOrigin.Glob.Pattern

/-!
Choosing paths: by the extension of their last component and by ignore patterns. Lists of patterns
and extensions are written with commas.
-/
namespace TagOrigin

/-- Extensions of files that may hold tags. -/
def defaultExtensions : List Text :=
  [".js".toList, ".ts".toList, ".jsx".toList, ".tsx".toList]

/-- What follows the last slash. -/
def baseName (path : Text) : Text :=
  (path.reverse.takeWhile (· ≠ '/')).reverse

/-- The extension of a path: from the last point of its last component on, provided a character
other than a point stands before it. -/
def extension (path : Text) : Text :=
  let name := (baseName path).reverse
  match name.dropWhile (· ≠ '.') with
  | [] => []
  | _ :: stem =>
    if stem.any (· ≠ '.') then '.' :: (name.takeWhile (· ≠ '.')).reverse else []

/-- Keeps the paths with one of the extensions, in order. -/
def filterByExtension (paths extensions : List Text) : List Text :=
  paths.filter fun path => extensions.contains (extension path)

/-- The pieces of a comma separated list, stripped; blank pieces are dropped. -/
def parseList (raw : Text) : List Text :=
  ((raw.splitOn ',').map Text.strip).filter (· ≠ [])

/-- Whether an expression matches a path or its last component. -/
def isIgnoredBy (path : Text) (expression : Glob.Expression) : Bool :=
  expression.accepts path || expression.accepts (baseName path)

/-- Drops the paths that some pattern matches. All patterns are compiled first, so the first one at
fault is reported whatever the paths are. -/
def filterIgnored (paths patterns : List Text) : Except Glob.Fault (List Text) := do
  let expressions ← patterns.mapM Glob.compile
  return paths.filter fun path => !expressions.any (isIgnoredBy path)

/-- Puts a point before an extension that lacks it. -/
def normaliseExtension (ext : Text) : Text :=
  match ext with
  | '.' :: _ => ext
  | _ => '.' :: ext

end TagOrigin
