import TagOrigin.Display.Colour
import TagOrigin.Register
import TagOrigin.Text.LowerCase

/-!
Names of styles. A style is written as a sequence of words: attributes, `not` with an attribute, a
colour, `on` with a colour, `link` with a target. Two spellings of one style have the same canonical
name: attributes in a fixed order, then the colour, the background and the target. A sequence with an
unknown word is its own name in small letters. Only a colour with an amount that cannot be read leaves a
sequence without a name.
-/
namespace TagOrigin.Display.Style

/-- The attributes in the order of canonical names. -/
def attributes : List Text :=
  ["bold", "dim", "italic", "underline", "blink", "blink2", "reverse", "conceal", "strike",
    "underline2", "frame", "encircle", "overline"].map String.toList

/-- Short names of attributes. -/
def shortNames : Register Text :=
  [("d", "dim"), ("b", "bold"), ("i", "italic"), ("u", "underline"), ("r", "reverse"),
    ("c", "conceal"), ("s", "strike"), ("uu", "underline2"), ("o", "overline")].map
    fun (short, name) => (short.toList, name.toList)

/-- The attribute that a word names. -/
def attribute? (word : Text) : Option Text :=
  if attributes.contains word then some word else Register.get? word shortNames

/-- What a sequence of words asks for. -/
structure Request where
  flags : Register Bool := []
  colour : Option Text := none
  background : Option Text := none
  target : Option Text := none
  deriving DecidableEq, Repr

/-- Why a sequence of words is no style. -/
inductive Fault where
  /-- A word has no meaning, or what must follow it is not there. -/
  | meaningless
  /-- An amount of a colour cannot be read. -/
  | amount (fault : Colour.AmountFault)
  deriving DecidableEq, Repr

/-- The name of a colour, which is its spelling in small letters. -/
def colourName (word : Text) : Except Fault Text :=
  let name := Text.lower word
  match Colour.read name with
  | .colour => .ok name
  | .other => .error .meaningless
  | .unreadable fault => .error (.amount fault)

/-- Reads the words of a style. What follows `not` must be in small letters, and what follows `link` is
kept as it is; elsewhere capitals do not matter. -/
def Request.read (request : Request) : List Text → Except Fault Request
  | [] => .ok request
  | word :: rest =>
    let name := Text.lower word
    if name = "on".toList then
      match rest with
      | [] => .error .meaningless
      | colour :: rest =>
        match colourName colour with
        | .ok name => Request.read { request with background := some name } rest
        | .error fault => .error fault
    else if name = "not".toList then
      match rest with
      | [] => .error .meaningless
      | word :: rest =>
        match attribute? word with
        | some a => Request.read { request with flags := request.flags.put a false } rest
        | none => .error .meaningless
    else if name = "link".toList then
      match rest with
      | [] => .error .meaningless
      | target :: rest => Request.read { request with target := some target } rest
    else
      match attribute? name with
      | some a => Request.read { request with flags := request.flags.put a true } rest
      | none =>
        match colourName word with
        | .ok name => Request.read { request with colour := some name } rest
        | .error fault => .error fault

/-- The canonical spelling of a request. -/
def Request.name (request : Request) : Text :=
  let flags := attributes.filterMap fun a =>
    (request.flags.get? a).map fun on => if on then a else "not ".toList ++ a
  let others := request.colour.toList ++ request.background.toList.map ("on ".toList ++ ·) ++
    request.target.toList.map ("link ".toList ++ ·)
  match flags ++ others with
  | [] => "none".toList
  | words => Text.join [' '] words

/-- The words of a text: its runs without white space. -/
def words (t : Text) : List Text :=
  (t.splitBy fun a b => Text.isBlank a == Text.isBlank b).filter fun run => !run.any Text.isBlank

/-- The canonical name of a style. There is none if an amount in it cannot be read. -/
def canonicalName (t : Text) : Except Colour.AmountFault Text :=
  let bare := Text.strip t
  if bare = [] || bare = "none".toList then .ok "none".toList
  else
    match Request.read {} (words t) with
    | .ok request => .ok request.name
    | .error .meaningless => .ok (Text.lower bare)
    | .error (.amount fault) => .error fault

/-- Looks up a style. Nothing is shown of it, so all that counts is whether it can be read. -/
def lookUp (t : Text) : Except Colour.AmountFault Unit :=
  (canonicalName t).map fun _ => ()

end TagOrigin.Display.Style
