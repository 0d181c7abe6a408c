import TagOrigin.CommandLine.Arguments
import TagOrigin.Display.Table
import TagOrigin.Settings

/-!
Running requests. A command answers an exit code and the messages that it prints; what the
messages look like is decided when they are shown on a console. A failure that the command does not
report itself ends it without output.
-/
namespace TagOrigin.CommandLine

inductive Stream where
  | out
  | err
  deriving DecidableEq, Repr

/-- What is printed at once. -/
inductive Content where
  | line (markup : Text)
  | table (table : Display.Table)
  deriving DecidableEq, Repr

structure Message where
  stream : Stream
  content : Content
  deriving DecidableEq, Repr

/-- What a command answers. -/
structure Outcome where
  exitCode : Nat
  messages : List Message
  deriving DecidableEq, Repr

/-- What a finished command has written. -/
structure Transcript where
  exitCode : Nat
  stdout : Text
  stderr : Text
  deriving DecidableEq, Repr

def programVersion : Text := "1.0.0".toList

def say (markup : Text) : Message := ⟨.out, .line markup⟩

def complain (message : Text) : Message := ⟨.err, .line (Display.errorLine message)⟩

def warn (message : Text) : Message := ⟨.err, .line (Display.warningLine message)⟩

/-- A command that ends with one complaint. -/
def Outcome.refused (exitCode : Nat) (message : Text) : Outcome :=
  ⟨exitCode, [complain message]⟩

/-- Ends a report. -/
def separator : Text := List.replicate 20 '-'

/-- The lines on one usage. -/
def usageLines (usage : Usage) : List Text :=
  ("    Line ".toList ++ Text.ofNat usage.line ++ ": ".toList ++
      Display.Markup.escape usage.text) ::
    match usage.origin with
    | none | some [] => []
    | some statement =>
      ["      [dim]imported from[/dim] ".toList ++ Display.Markup.escape statement]

/-- The lines on the usages of one name. -/
def componentLines (entry : Text × List Usage) : List Text :=
  ("  [cyan]Component:[/cyan] ".toList ++ Display.Markup.escape entry.1) ::
    entry.2.flatMap usageLines

/-- The lines that show the usages of a file. -/
def reportLines (report : Report) : List Text :=
  ["[bold]File:[/bold] ".toList ++ Display.Markup.escape report.path,
    "React Component Instances:".toList] ++
    report.usages.flatMap componentLines ++ [separator]

/-- The line on a file that could not be read. -/
def unreadableLine (path error : Text) : Text :=
  "[bold red]Error reading file ".toList ++ Display.Markup.escape path ++
    ":[/bold red] ".toList ++ Display.Markup.escape error

/-- The messages on one file. A file without usages is not mentioned. -/
def reportMessages (report : Report) : List Message :=
  match report.error with
  | some (c :: error) => [⟨.err, .line (unreadableLine report.path (c :: error))⟩]
  | _ => if report.usages = [] then [] else (reportLines report).map say

/-- The lines that list the scanned files. -/
def fileLines (files : List Text) : List Text :=
  ("[bold]Scanned Files (".toList ++ Text.ofNat files.length ++ "):[/bold]".toList) ::
    files.map fun path => "  ".toList ++ Display.Markup.escape path

/-- Scans the chosen files and reports on them. -/
def scanChosen [Encoding.Charts] (fs : Files.FileSystem) (encoding root : Text) (extensions files : List Text)
    (listFiles : Bool) : Except Failure Outcome := do
  let warnings :=
    if files = [] then
      [warn ("No files with extensions ".toList ++ Text.join ", ".toList extensions ++
        " found in ".toList ++ root)]
    else []
  let reports ← scanFiles fs encoding files
  let listing := if listFiles then (fileLines files).map say else []
  return ⟨0, warnings ++ reports.flatMap reportMessages ++ listing⟩

/-- Scans below a directory under some settings. Patterns of the settings come before those of the
command, and extensions of the command replace those of the settings. -/
def scanWith [Encoding.Charts] (fs : Files.FileSystem) (settings : Settings) (root ignore : Text)
    (given : List Text) (listFiles : Bool) : Except Failure Outcome :=
  match fs.isDirectory (Files.Path.ofText root) with
  | .error fault => .error (.file fault)
  | .ok false => .ok (.refused 1 ("Not a directory: ".toList ++ root))
  | .ok true =>
    let extensions :=
      if given = [] then settings.extensions else given.map normaliseExtension
    match collectFiles fs root extensions (settings.ignorePatterns ++ parseList ignore) with
    | .error (.pattern fault) =>
      .ok (.refused 1 ("Invalid ignore pattern: ".toList ++ fault.message))
    | .error failure => .error failure
    | .ok files => scanChosen fs settings.encoding root extensions files listFiles

/-- The table of the imports of a file. -/
def importTable (file : Text) (bindings : Import.Bindings) : Display.Table where
  title := "Import Bindings: ".toList ++ Display.Markup.escape file
  heads := ("Local Name".toList, "Statement".toList)
  rows := bindings.map fun entry =>
    (Display.Markup.escape entry.1, Display.Markup.escape entry.2)

/-- Shows the imports of a file under some settings. -/
def importsWith [Encoding.Charts] (fs : Files.FileSystem) (settings : Settings) (file : Text) :
    Except Failure Outcome :=
  match readText fs file settings.encoding with
  | .error (.file fault) =>
    .ok (.refused 1 ("Cannot read ".toList ++ file ++ ": ".toList ++ fault.message))
  | .error failure => .error failure
  | .ok t =>
    match Import.bindings t with
    | [] => .ok ⟨0, [say ("No import bindings found in ".toList ++ Display.Markup.escape file)]⟩
    | bindings => .ok ⟨0, [⟨.out, .table (importTable file bindings)⟩]⟩

/-- Tells whether a path matches a pattern: in words, and by the exit code. -/
def verdict (path pattern : Text) : Outcome :=
  match Glob.pathMatches path pattern with
  | .error fault =>
    .refused 2 ("Invalid pattern ".toList ++ Text.quoted pattern ++ ": ".toList ++ fault.message)
  | .ok true =>
    ⟨0, [say ("[green]✓[/green] ".toList ++ Display.Markup.escape path ++ " matches ".toList ++
      Display.Markup.escape pattern)]⟩
  | .ok false =>
    ⟨1, [say ("[red]✗[/red] ".toList ++ Display.Markup.escape path ++
      " does not match ".toList ++ Display.Markup.escape pattern)]⟩

/-- Runs a command under the settings of an environment. Wrong settings are reported. -/
def withSettings (fs : Files.FileSystem) (env : Environment)
    (command : Settings → Except Failure Outcome) : Except Failure Outcome :=
  match (Settings.configure fs none env).2 with
  | .ok settings => command settings
  | .error failure =>
    if failure.isInvalidValue then .ok (.refused 1 failure.message) else .error failure

/-- Runs a request. -/
def Request.run [Encoding.Charts] (fs : Files.FileSystem) (env : Environment) :
    Request → Except Failure Outcome
  | .version => .ok ⟨0, [say ("tagscope ".toList ++ programVersion)]⟩
  | .scan root ignore extensions listFiles =>
    withSettings fs env fun settings => scanWith fs settings root ignore extensions listFiles
  | .imports file => withSettings fs env fun settings => importsWith fs settings file
  | .compare path pattern => .ok (verdict path pattern)

/-- The characters that a message writes. -/
def Message.written (console : Display.Console) (message : Message) :
    Except Display.Markup.Fault Text :=
  match message.content with
  | .line markup => console.line [.markup markup]
  | .table table => table.draw console

/-- The characters that messages write on one stream. -/
def onStream (stream : Stream) (shown : List (Stream × Text)) : Text :=
  shown.flatMap fun entry => if entry.1 = stream then entry.2 else []

/-- What an outcome writes on a console. -/
def Outcome.transcript (console : Display.Console) (outcome : Outcome) : Except Failure Transcript :=
  match outcome.messages.mapM fun message => (message.written console).map (message.stream, ·) with
  | .error fault => .error (.markup fault)
  | .ok shown =>
    .ok { exitCode := outcome.exitCode, stdout := onStream .out shown, stderr := onStream .err shown }

/-- How a command line can end. -/
inductive Ending where
  | finished (transcript : Transcript)
  | wrongUsage
  | failed (failure : Failure)
  deriving DecidableEq, Repr

/-- Runs a command line on a console. -/
def run [Encoding.Charts] (fs : Files.FileSystem) (env : Environment) (console : Display.Console)
    (args : List Text) : Ending :=
  match Request.ofArguments args with
  | none => .wrongUsage
  | some request =>
    match request.run fs env with
    | .error failure => .failed failure
    | .ok outcome =>
      match outcome.transcript console with
      | .error failure => .failed failure
      | .ok transcript => .finished transcript

end TagOrigin.CommandLine
