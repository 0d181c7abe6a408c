import TagOrigin.Import.Binding

/-!
Usages: places where a text opens a tag with a capitalised name. A `<` counts wherever it stands,
so a generic argument is a usage too.
-/
namespace TagOrigin

/-- One opening of a tag. Lines count from one, and `text` is the line without its outer white
space. `origin` is the import statement that bound the name. -/
structure Usage where
  name : Text
  line : Nat
  text : Text
  origin : Option Text
  deriving DecidableEq, Repr

namespace Usage

/-- Characters of a tag name: ASCII letters, digits and underscore. -/
def isTagChar (c : Char) : Bool :=
  c.isAlphanum || c == '_'

/-- Whether a word begins or ends between two characters: one of them alone is part of it. -/
def isWordBoundary (before behind : Option Char) : Bool :=
  before.any isTagChar != behind.any isTagChar

/-- Reads the opening of a tag: a `<`, a capital and as many more characters of a name as there are. The
name gives characters back until a word ends behind it. -/
def readOpening : Text → Option (Text × Nat)
  | '<' :: c :: rest =>
    if c.isUpper then
      let longest := (rest.takeWhile isTagChar).length
      let fits := fun n => isWordBoundary (c :: rest)[n]? rest[n]?
      ((List.range (longest + 1)).reverse.find? fits).map fun n => (c :: rest.take n, n + 2)
    else none
  | _ => none

/-- The names of the tags opened in a text, from left to right. -/
def tagNames (t : Text) : List Text :=
  Scan.matchesOf readOpening t

/-- The usages on one line. -/
def ofLine (bindings : Import.Bindings) (line : Nat) (content : Text) : List Usage :=
  let text := Text.strip content
  (tagNames content).map fun name =>
    { name, line, text, origin := Register.get? name bindings }

/-- The usages of a text in the order of their offsets. -/
def ofText (bindings : Import.Bindings) (t : Text) : List Usage :=
  ((Text.lines t).zipIdx 1).flatMap fun (content, line) => ofLine bindings line content

/-- Adds a usage to a register, behind those of its name. -/
def addTo (register : Register (List Usage)) (usage : Usage) : Register (List Usage) :=
  register.put usage.name ((register.get? usage.name).getD [] ++ [usage])

/-- Usages by name. Names come in the order of their first usage. -/
def byName (usages : List Usage) : Register (List Usage) :=
  usages.foldl addTo []

end Usage

/-- The usages of a text by name, each with the origin that `bindings` gives for it. -/
def usages (t : Text) (bindings : Import.Bindings) : Register (List Usage) :=
  Usage.byName (Usage.ofText bindings t)

/-- The usages of a text by name, with the origins that its own imports give. -/
def scanSource (t : Text) : Register (List Usage) :=
  usages t (Import.bindings t)

/-- How many usages a register holds. -/
def usageCount (register : Register (List Usage)) : Nat :=
  register.foldr (fun entry count => entry.2.length + count) 0

end TagOrigin
