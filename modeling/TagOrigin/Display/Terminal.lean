import TagOrigin.Text.LowerCase

/-!
What a terminal can show. A terminal is known by the name of its encoding; when it does not show
UTF-8, the few glyphs that the reports use are replaced by ASCII.
-/
namespace TagOrigin.Display

/-- What is known about the encoding of the output. -/
structure Terminal where
  /-- The encoding of the standard output, if it has one. -/
  stdout : Option Text
  /-- The encoding that the locale prefers, if it can be asked. -/
  locale : Option Text
  deriving DecidableEq, Repr

/-- The name of the encoding in small letters: that of the output, else that of the locale, else
ASCII. An empty name is no name of an output. -/
def Terminal.encoding (terminal : Terminal) : Text :=
  match terminal.stdout, terminal.locale with
  | some (c :: name), _ => Text.lower (c :: name)
  | _, some name => Text.lower name
  | _, none => "ascii".toList

/-- The names under which an encoding counts as UTF-8. -/
def utf8Names : List Text :=
  ["utf-8".toList, "utf8".toList, "utf_8".toList]

/-- Whether an encoding, given by its name in small letters, shows all glyphs. -/
def showsGlyphs (encoding : Text) : Bool :=
  utf8Names.contains encoding

def Terminal.showsGlyphs (terminal : Terminal) : Bool :=
  Display.showsGlyphs terminal.encoding

/-- The ASCII form of a glyph. All other characters stay. -/
def plainGlyph : Char → Text
  | '✓' => "ok".toList
  | '✗' => "x".toList
  | '⚠' => "!".toList
  | c => [c]

/-- A text without glyphs. -/
def withoutGlyphs (t : Text) : Text :=
  t.flatMap plainGlyph

/-- The text that a terminal is given. `force` replaces the glyphs in any case. -/
def Terminal.present (terminal : Terminal) (force : Bool) (t : Text) : Text :=
  if !force && terminal.showsGlyphs then t else withoutGlyphs t

end TagOrigin.Display
