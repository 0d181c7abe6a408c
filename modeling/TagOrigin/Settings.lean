import TagOrigin.Environment

/-!
Settings. They are read from environment variables, after a variables file has added those it
defines and the environment lacks. What was added stays, also when a value turns out to be wrong. A
process makes configurations at will and shares one of them.
-/
namespace TagOrigin

/-- What the program is told by its environment. -/
structure Settings where
  extensions : List Text
  ignorePatterns : List Text
  encoding : Text
  deriving DecidableEq, Repr

namespace Settings

/-- The extensions that a variable lists. An empty variable lists the default ones. -/
def extensionsOf : Option Text → List Text
  | none | some [] => defaultExtensions
  | some raw => parseList raw

/-- The settings that an environment gives. -/
def ofEnvironment (env : Environment) : Settings where
  extensions := extensionsOf (env.get? "TAGSCOPE_EXTENSIONS".toList)
  ignorePatterns := parseList ((env.get? "TAGSCOPE_IGNORE".toList).getD [])
  encoding := (env.get? "TAGSCOPE_ENCODING".toList).getD "utf-8".toList

/-- Whether an extension begins with a point. -/
def isDotted (ext : Text) : Bool :=
  ext.head? = some '.'

/-- Checks that every extension has its point and that the encoding is known. -/
def check (settings : Settings) : Except Failure Settings :=
  match settings.extensions.filter fun ext => !isDotted ext with
  | [] =>
    match Encoding.find? settings.encoding with
    | some _ => .ok settings
    | none => .error (.unknownEncoding settings.encoding)
  | entries => .error (.extensions entries)

/-- The variables file that is read unless another one is named. -/
def defaultFile : Files.Path :=
  ⟨[], [".env".toList]⟩

/-- Makes a configuration: loads a variables file and checks the settings. The environment keeps
what was loaded even if this fails. -/
def configure (fs : Files.FileSystem) (file : Option Files.Path) (env : Environment) :
    Environment × Except Failure Settings :=
  match env.load fs (file.getD defaultFile) with
  | (env, some failure) => (env, .error failure)
  | (env, none) => (env, (ofEnvironment env).check)

end Settings

/-- Makes configurations for one process. Configurations are told apart by their number. -/
structure Configurator where
  env : Environment
  /-- How many configurations have been made. -/
  made : Nat
  /-- The number of the shared configuration, once there is one. -/
  shared : Option Nat
  deriving DecidableEq, Repr

namespace Configurator

def fresh : Configurator :=
  { env := [], made := 0, shared := none }

/-- Makes a configuration of its own. -/
def configure (p : Configurator) (fs : Files.FileSystem) (file : Option Files.Path) :
    Configurator × Except Failure (Nat × Settings) :=
  match Settings.configure fs file p.env with
  | (env, .ok settings) => ({ p with env, made := p.made + 1 }, .ok (p.made, settings))
  | (env, .error failure) => ({ p with env }, .error failure)

/-- The shared configuration, made on the first request that succeeds. Its settings are always
those of the present environment. -/
def share (p : Configurator) (fs : Files.FileSystem) : Configurator × Except Failure (Nat × Settings) :=
  match p.shared with
  | some number => (p, .ok (number, Settings.ofEnvironment p.env))
  | none =>
    match p.configure fs none with
    | (p, .ok (number, settings)) => ({ p with shared := some number }, .ok (number, settings))
    | (p, .error failure) => (p, .error failure)

/-- Forgets the shared configuration. -/
def reset (p : Configurator) : Configurator :=
  { p with shared := none }

end Configurator

end TagOrigin
