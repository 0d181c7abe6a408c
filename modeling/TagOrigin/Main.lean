import TagOrigin.CommandLine.Run

/-!
The command line on the real file system. The part of it that the arguments name, and the variables
file, are loaded into a `FileSystem` value; links are followed while loading. The rest is
`CommandLine.run`. No charts are brought along, so of the encodings that need them only ASCII is read.
-/
namespace TagOrigin

/-- How many levels below an argument are loaded. -/
def loadLimit : Nat := 64

/-- The location that a path names from a directory, with `..` taken as the level above. -/
def locationOf (home : Files.Location) (path : Files.Path) : Files.Location :=
  path.parts.foldl (fun location part =>
    if part = ['.', '.'] then location.dropLast else location ++ [part])
    (if path.isAbsolute then [] else home)

/-- The directories above a location. -/
def ancestors (location : Files.Location) : List (Files.Location × Files.Node) :=
  (List.range location.length).map fun n => (location.take n, .directory true true)

/-- What lies at a place of the disk, down to some levels. What may not be read is kept as such. -/
def loadEntry (location : Files.Location) :
    Nat → IO.FS.DirEntry → IO (List (Files.Location × Files.Node))
  | levels, entry => do
    if ← entry.path.isDir then
      match levels with
      | 0 => return [(location, .directory true true)]
      | levels + 1 =>
        match ← entry.path.readDir.toBaseIO with
        | .error _ => return [(location, .directory false true)]
        | .ok children =>
          let below ← children.toList.mapM fun child =>
            loadEntry (location ++ [child.fileName.toList]) levels child
          return (location, .directory true true) :: below.flatten
    else if ← entry.path.pathExists then
      match ← (IO.FS.readBinFile entry.path).toBaseIO with
      | .error _ => return [(location, .file [] false)]
      | .ok contents => return [(location, .file contents.data.toList true)]
    else return []

/-- Loads what an argument names. -/
def loadArgument (home : Files.Location) (arg : Text) :
    IO (List (Files.Location × Files.Node)) := do
  let path := Files.Path.ofText arg
  let location := locationOf home path
  let entries ← loadEntry location loadLimit
    { root := ".", fileName := String.ofList path.text }
  return ancestors location ++ entries

/-- The names of variables that the settings and a variables file refer to. -/
def variableNames (fs : Files.FileSystem) : List Text :=
  let settled := ["TAGSCOPE_EXTENSIONS", "TAGSCOPE_IGNORE", "TAGSCOPE_ENCODING"].map String.toList
  let bindings := match Environment.variablesText fs Settings.defaultFile with
    | .ok t => Variables.readBindings t
    | .error _ => []
  Environment.disablingVariable :: settled ++ bindings.flatMap fun binding =>
    binding.key ::
      (Scan.matchesOf Variables.Reference.read (binding.value.getD [])).map (·.name)

/-- The environment of this process, as far as it matters. -/
def loadEnvironment (fs : Files.FileSystem) : IO Environment := do
  let entries ← (distinct (variableNames fs)).mapM fun name => do
    return (← IO.getEnv (String.ofList name)).map fun value => (name, value.toList)
  return entries.filterMap id

end TagOrigin

open TagOrigin in
def main (args : List String) : IO UInt32 := do
  let home := Files.Path.components (← IO.currentDir).toString.toList
  let args := args.map String.toList
  let loaded ← (Settings.defaultFile.text :: args).mapM (loadArgument home)
  let fs : Files.FileSystem := { entries := ([], .directory true true) :: loaded.flatten, home }
  let env ← loadEnvironment fs
  match CommandLine.run fs env (Display.Console.ofEncoding "utf-8".toList) args with
  | .finished transcript =>
    IO.print (String.ofList transcript.stdout)
    IO.eprint (String.ofList transcript.stderr)
    return UInt32.ofNat transcript.exitCode
  | .wrongUsage =>
    IO.eprintln "wrong usage"
    return 2
  | .failed failure =>
    IO.eprintln (String.ofList failure.message)
    return 1
