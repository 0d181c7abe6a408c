import TagOrigin.Text

/-!
The arguments of the command line. Options and positional arguments mix freely behind the name of
the command; `--` ends the options. Long options take a value behind an equals sign or as the next
argument, short ones may be written together. Whatever is no such request is wrong usage, without
further distinction.
-/
namespace TagOrigin.CommandLine

/-- What a command line asks for. -/
inductive Request where
  | version
  /-- Without extensions of its own the command takes those of the settings. The flag says whether
  the scanned files are listed. -/
  | scan (root ignore : Text) (extensions : List Text) (listFiles : Bool)
  | imports (file : Text)
  | compare (path pattern : Text)
  deriving DecidableEq, Repr

/-- An option as it was given. -/
inductive Switch where
  | extension (value : Text)
  | listFiles (wanted : Bool)
  | quiet
  deriving DecidableEq, Repr

/-- What the name of an option stands for. -/
inductive SwitchName where
  | flag (switch : Switch)
  /-- The option for extensions, which needs a value. -/
  | extension
  deriving DecidableEq, Repr

/-- The commands. Only `scan` has options. -/
inductive Command where
  | scan
  | imports
  | compare
  deriving DecidableEq, Repr

def Command.named? (name : Text) : Option Command :=
  if name = "scan".toList then some .scan
  else if name = "imports".toList then some .imports
  else if name = "match".toList then some .compare
  else none

/-- The option of a command with a long name. -/
def Command.long? (command : Command) (name : Text) : Option SwitchName :=
  match command with
  | .scan =>
    if name = "--ext".toList then some .extension
    else if name = "--show-files".toList then some (.flag (.listFiles true))
    else if name = "--hide-files".toList then some (.flag (.listFiles false))
    else if name = "--quiet".toList then some (.flag .quiet)
    else none
  | _ => none

/-- The option of a command with a short name. -/
def Command.short? (command : Command) (letter : Char) : Option SwitchName :=
  match command, letter with
  | .scan, 'e' => some .extension
  | .scan, 'q' => some (.flag .quiet)
  | _, _ => none

/-- What an argument that holds options amounts to. -/
inductive Given where
  | complete (switches : List Switch)
  /-- An extension is to follow as the next argument. -/
  | needsValue (switches : List Switch)
  deriving DecidableEq, Repr

/-- Reads a long option, with its value if one stands behind an equals sign. -/
def readLong (command : Command) (arg : Text) : Option Given :=
  let name := arg.takeWhile (· ≠ '=')
  let value := (arg.dropWhile (· ≠ '=')).tail?
  match command.long? name, value with
  | some (.flag switch), none => some (.complete [switch])
  | some .extension, some value => some (.complete [.extension value])
  | some .extension, none => some (.needsValue [])
  | _, _ => none

/-- Reads short options written together. What follows the letter of an option with a value is the
value. -/
def readShort (command : Command) : Text → Option Given
  | [] => some (.complete [])
  | letter :: rest =>
    match command.short? letter with
    | none => none
    | some .extension =>
      match rest with
      | [] => some (.needsValue [])
      | value => some (.complete [.extension value])
    | some (.flag switch) =>
      match readShort command rest with
      | some (.complete switches) => some (.complete (switch :: switches))
      | some (.needsValue switches) => some (.needsValue (switch :: switches))
      | none => none

/-- Reads an argument that begins with a dash and is longer than that. -/
def readSwitches (command : Command) (arg : Text) : Option Given :=
  match arg with
  | '-' :: '-' :: _ => readLong command arg
  | '-' :: letters => readShort command letters
  | _ => none

/-- Whether an argument holds options. -/
def isSwitch : Text → Bool
  | '-' :: _ :: _ => true
  | _ => false

/-- The options and the positional arguments among the arguments of a command. -/
def separate (command : Command) : List Text → Option (List Switch × List Text)
  | [] => some ([], [])
  | arg :: rest =>
    if arg = "--".toList then some ([], rest)
    else if isSwitch arg then
      match readSwitches command arg with
      | none => none
      | some (.complete given) =>
        (separate command rest).map fun (switches, positional) => (given ++ switches, positional)
      | some (.needsValue given) =>
        match rest with
        | [] => none
        | value :: rest =>
          (separate command rest).map fun (switches, positional) =>
            (given ++ .extension value :: switches, positional)
    else (separate command rest).map fun (switches, positional) => (switches, arg :: positional)

/-- The extensions given, in order. -/
def extensionsIn (switches : List Switch) : List Text :=
  switches.filterMap fun
    | .extension value => some value
    | _ => none

/-- Whether files are to be listed. The last option that says so counts, and without one they
are. -/
def listFilesIn (switches : List Switch) : Bool :=
  switches.foldl (fun wanted switch =>
    match switch with
    | .listFiles wanted => wanted
    | _ => wanted) true

/-- The request of a command with its arguments. -/
def Command.request (command : Command) (args : List Text) : Option Request :=
  match separate command args with
  | none => none
  | some (switches, positional) =>
    match command, positional with
    | .scan, [root] => some (.scan root [] (extensionsIn switches) (listFilesIn switches))
    | .scan, [root, ignore] =>
      some (.scan root ignore (extensionsIn switches) (listFilesIn switches))
    | .imports, [file] => some (.imports file)
    | .compare, [path, pattern] => some (.compare path pattern)
    | _, _ => none

/-- The request of a command line that begins with the name of a command. -/
def commandRequest : List Text → Option Request
  | [] => none
  | name :: args =>
    match Command.named? name with
    | some command => command.request args
    | none => none

/-- Reads the options before the command, then the command. Once the version is asked for, what
follows the options does not count. -/
def readRequest (versionAsked : Bool) : List Text → Option Request
  | [] => if versionAsked then some .version else none
  | arg :: rest =>
    if arg = "--version".toList then readRequest true rest
    else if arg = "--".toList then if versionAsked then some .version else commandRequest rest
    else if isSwitch arg then none
    else if versionAsked then some .version
    else commandRequest (arg :: rest)

/-- The request of a command line; `none` is wrong usage. -/
def Request.ofArguments (args : List Text) : Option Request :=
  readRequest false args

end TagOrigin.CommandLine
