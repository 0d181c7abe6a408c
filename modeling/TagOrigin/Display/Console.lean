import TagOrigin.Display.Markup
import TagOrigin.Display.Terminal
import TagOrigin.Text.CellWidth

/-!
Printing lines. The parts of a line are joined by spaces; texts are markup, numbers are decimal. The
styles of the whole line are looked up. Tabs reach to the next multiple of eight columns. Nothing is
wrapped or cut.
-/
namespace TagOrigin.Display

/-- One argument of a printed line. -/
inductive Part where
  | markup (t : Text)
  | number (n : Int)
  deriving DecidableEq, Repr

/-- Fills up a line with spaces behind each of its tabs. `column` is where its first part begins; a part
before a tab counts together with the space that stands for the tab. -/
def fillTabs (column : Nat) : List Text → Text
  | [] => []
  | [part] => part
  | part :: rest =>
    let behind := column + Text.cells (part ++ [' '])
    let pad := (8 - behind % 8) % 8
    part ++ ' ' :: List.replicate pad ' ' ++ fillTabs (behind + pad) rest

/-- Replaces the tabs of a text. Columns are counted from the beginning of each line. -/
def expandTabs (t : Text) : Text :=
  Text.join ['\n'] ((Text.lines t).map fun line => fillTabs 0 (line.splitOn '\t'))

/-- A console, known by the name of its encoding in small letters. -/
structure Console where
  encoding : Text
  deriving DecidableEq, Repr

namespace Console

/-- The console on an output with the given encoding. An output without one counts as UTF-8. -/
def ofEncoding (encoding : Text) : Console :=
  { encoding := Terminal.encoding { stdout := some encoding, locale := some "utf-8".toList } }

/-- Whether glyphs are shown rather than replaced. -/
def showsGlyphs (console : Console) : Bool :=
  Display.showsGlyphs console.encoding

/-- The markup that is really printed for a text: glyphs are replaced where they cannot be shown. -/
def present (console : Console) (t : Text) : Text :=
  if console.showsGlyphs then t else withoutGlyphs t

/-- What one part of a line shows. -/
def showPart (console : Console) : Part → Except Markup.Fault Styled
  | .markup t => Markup.styled (console.present t)
  | .number n => .ok (.plain (Text.ofInt n))

/-- The characters that printing a line writes. -/
def line (console : Console) (parts : List Part) : Except Markup.Fault Text := do
  let shown ← parts.mapM console.showPart
  let whole := Styled.join [' '] shown
  whole.resolve.mapError .ofAmount
  return expandTabs whole.text ++ ['\n']

end Console

/-- The line that reports an error. The message is shown as it is. -/
def errorLine (message : Text) : Text :=
  "[bold red]Error:[/bold red] ".toList ++ Markup.escape message

/-- The line that gives a warning. The message is shown as it is. -/
def warningLine (message : Text) : Text :=
  "[bold yellow]⚠ Warning:[/bold yellow] ".toList ++ Markup.escape message

end TagOrigin.Display
