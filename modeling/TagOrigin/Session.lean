import TagOrigin.CommandLine.Run

/-!
Sessions: a sequence of steps on one workspace with its files, its environment and its
configurations. A step that fails leaves the steps behind it to run. Once permission bits have been
changed, the program would have to run as a user whom they bind; becoming that user is not permitted,
so a session that comes to this point is refused as a whole.
-/
namespace TagOrigin

/-- One step of a session. -/
inductive Step where
  | write (path : Text) (contents : Encoding.Bytes)
  | makeDirectory (path : Text)
  | makeLink (path target : Text)
  | remove (path : Text)
  | changeMode (path mode : Text)
  | setVariable (name : Text) (value : Option Text)
  | walk (root : Text)
  | collect (root : Text) (extensions patterns : List Text)
  | scanFile (path encoding : Text)
  | scanFiles (paths : List Text) (encoding : Text)
  | configure (file : Option Text)
  | share
  /-- Reads the settings of the last configuration again. -/
  | settings
  | reset
  | run (args : List Text) (encoding : Text)
  deriving DecidableEq, Repr

/-- What a step answers. -/
inductive Answer where
  | done
  | paths (paths : List Text)
  | report (report : Report)
  | reports (reports : List Report)
  | settings (settings : Settings)
  /-- The shared configuration, and whether it is the one answered before. -/
  | shared (same : Bool) (settings : Settings)
  | ended (ending : CommandLine.Ending)
  | failed (failure : Failure)
  deriving DecidableEq, Repr

structure Session where
  files : Files.FileSystem
  configurator : Configurator
  /-- The number of the shared configuration that was answered last. -/
  answered : Option Nat
  /-- Whether permission bits have been changed. -/
  restricted : Bool
  deriving DecidableEq, Repr

/-- Whether a step only prepares the workspace, which its owner does. All others run the program. -/
def Step.prepares : Step → Bool
  | .write _ _ | .makeDirectory _ | .makeLink _ _ | .remove _ | .changeMode _ _
  | .setVariable _ _ => true
  | _ => false

/-- Why a session is refused as a whole. -/
inductive Refusal where
  | notPermitted
  deriving DecidableEq, Repr

def Refusal.message : Refusal → Text
  | .notPermitted => "[Errno 1] Operation not permitted".toList

namespace Session

/-- An empty workspace. -/
def fresh : Session :=
  { files := .empty, configurator := .fresh, answered := none, restricted := false }

/-- Takes over changed files. -/
def withFiles (s : Session) (change : Files.Change) : Session × Answer :=
  ({ s with files := change.files },
    match change.fault with
    | none => .done
    | some fault => .failed (.file fault))

/-- Answers without changing anything. -/
def answer {α : Type} (s : Session) (make : α → Answer) : Except Failure α → Session × Answer
  | .ok result => (s, make result)
  | .error failure => (s, .failed failure)

/-- Changes the files at a path that a file can have. -/
def change (s : Session) (path : Text) (edit : Files.Path → Files.Change) : Session × Answer :=
  let place := Files.Path.ofText path
  if place.hasNull then (s, .failed .nullByte) else s.withFiles (edit place)

/-- Adds something at a path. Its parent directories are made even if it cannot be added there. -/
def add (s : Session) (path : Text) (impossible : Bool) (edit : Files.Path → Files.Change) :
    Session × Answer :=
  let place := Files.Path.ofText path
  if place.parent.hasNull || !(impossible || place.hasNull) then s.change path edit
  else
    match s.withFiles (s.files.makeDirectory place.parent) with
    | (s, .done) => (s, .failed .nullByte)
    | refused => refused

/-- Changes permission bits. They bind other users alone, so nothing changes for the owner. -/
def restrict (s : Session) (path : Text) : Session × Answer :=
  let place := Files.Path.ofText path
  if place.hasNull then (s, .failed .nullByte)
  else
    match s.files.locate place with
    | .ok _ => ({ s with restricted := true }, .done)
    | .error cause => (s, .failed (.file { cause, path := place.text }))

/-- Runs one step. -/
def step [Encoding.Charts] (s : Session) : Step → Session × Answer
  | .write path contents => s.add path false fun place => s.files.write place contents
  | .makeDirectory path => s.change path s.files.makeDirectory
  | .makeLink path target =>
    s.add path (target.contains (Char.ofNat 0)) fun place => s.files.makeLink place target
  | .remove path => s.change path s.files.remove
  | .changeMode path _ => s.restrict path
  | .setVariable name none =>
    ({ s with configurator := { s.configurator with env := s.configurator.env.erase name } }, .done)
  | .setVariable name (some value) =>
    match s.configurator.env.set name value with
    | .ok env => ({ s with configurator := { s.configurator with env } }, .done)
    | .error failure => (s, .failed failure)
  | .walk root => s.answer .paths (allFiles s.files root)
  | .collect root extensions patterns =>
    s.answer .paths (collectFiles s.files root extensions patterns)
  | .scanFile path encoding => s.answer .report (TagOrigin.scanFile s.files encoding path)
  | .scanFiles paths encoding => s.answer .reports (TagOrigin.scanFiles s.files encoding paths)
  | .configure file =>
    let (configurator, result) := s.configurator.configure s.files (file.map Files.Path.ofText)
    Session.answer { s with configurator } (fun result => .settings result.2) result
  | .share =>
    match s.configurator.share s.files with
    | (configurator, .ok (number, settings)) =>
      ({ s with configurator, answered := some number }, .shared (s.answered = some number) settings)
    | (configurator, .error failure) => ({ s with configurator }, .failed failure)
  | .settings =>
    if s.configurator.made = 0 then (s, .done)
    else (s, .settings (Settings.ofEnvironment s.configurator.env))
  | .reset => ({ s with configurator := s.configurator.reset }, .done)
  | .run args encoding =>
    let console := Display.Console.ofEncoding encoding
    (s, .ended (CommandLine.run s.files s.configurator.env console args))

/-- The answers of a sequence of steps. -/
def steps [Encoding.Charts] (s : Session) : List Step → Except Refusal (List Answer)
  | [] => .ok []
  | step :: rest =>
    if s.restricted && !step.prepares then .error .notPermitted
    else
      let (s, answer) := s.step step
      (s.steps rest).map (answer :: ·)

end Session

/-- The answers of a session that starts in an empty workspace. -/
def runSession [Encoding.Charts] (steps : List Step) : Except Refusal (List Answer) :=
  Session.fresh.steps steps

end TagOrigin
