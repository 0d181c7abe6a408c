import TagOrigin.Report
import TagOrigin.Variables

/-!
Environments: the variables of a process, and how a variables file adds to them. A variable that is
set keeps its value. Variables are set one after the other, so those before a failure stay.
-/
namespace TagOrigin

abbrev Environment := Register Text

namespace Environment

/-- Sets a variable, if its name and value can be those of one. -/
def set (env : Environment) (name value : Text) : Except Failure Environment :=
  if name.contains (Char.ofNat 0) || value.contains (Char.ofNat 0) then .error .nullByte
  else if name.contains '=' then .error .illegalVariable
  else if name = [] then .error .unnamedVariable
  else .ok (env.put name value)

/-- Sets the variables that are not set yet, in order, up to the first that cannot be set. -/
def adopt (env : Environment) : Register (Option Text) → Environment × Option Failure
  | [] => (env, none)
  | (name, value) :: rest =>
    match value, env.get? name with
    | none, _ => adopt env rest
    | _, some _ => adopt env rest
    | some value, none =>
      match set env name value with
      | .ok env => adopt env rest
      | .error failure => (env, some failure)

/-- The variable that keeps variables files from being read. -/
def disablingVariable : Text := "PYTHON_DOTENV_DISABLED".toList

/-- The values with which it does so. Case does not matter. -/
def disablingValues : List Text :=
  ["1", "true", "t", "yes", "y"].map String.toList

def isDisabled (env : Environment) : Bool :=
  match env.get? disablingVariable with
  | some value => disablingValues.contains (Text.foldCase value)
  | none => false

/-- Drops one byte order mark at the front. -/
def dropMark (t : Text) : Text :=
  match t with
  | c :: rest => if c.toNat = 0xfeff then rest else t
  | [] => []

/-- The text of a variables file. What is no file has no text. -/
def variablesText (fs : Files.FileSystem) (path : Files.Path) : Except Failure Text :=
  if path.hasNull then .error .nullByte
  else
    match fs.locate path with
    | .error _ => .ok []
    | .ok place =>
      match fs.node? place.location with
      | some (.file contents true) =>
        match Encoding.Utf8.decodeStrict contents with
        | .ok t => .ok (dropMark (Encoding.normaliseLineEnds t))
        | .error fault => .error (.undecodable fault)
      | some (.file _ false) => .error (.file { cause := .permissionDenied, path := path.text })
      | _ => .ok []

/-- Adds to an environment the variables that a file defines and the environment lacks. -/
def load (fs : Files.FileSystem) (path : Files.Path) (env : Environment) :
    Environment × Option Failure :=
  if isDisabled env then (env, none)
  else
    match variablesText fs path with
    | .error failure => (env, some failure)
    | .ok t => adopt env (Variables.evaluate env.get? (Variables.readBindings t))

end Environment

end TagOrigin
