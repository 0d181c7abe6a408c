import TagOrigin.Display.Action
import TagOrigin.Display.Emoji
import TagOrigin.Display.Styled

/-!
Bracket markup. A tag is a bracket whose first character is a small ASCII letter, `#`, `/` or `@`
and that holds no opening bracket. Backslashes before a tag are halved; an odd number of them makes
the tag plain text. A closing tag ends the innermost open tag of its name. What a tag gives behind an equals
sign belongs to its style, not to its name. `escape` writes a text so that none of its brackets is a tag
any more.
-/
namespace TagOrigin.Display.Markup

/-- A bracket in the shape of a tag, with the backslashes right before it. -/
structure Bracket where
  slashes : Nat
  body : Text
  deriving DecidableEq, Repr

/-- The first character of a tag. -/
def startsTag (c : Char) : Bool :=
  ('a' ≤ c && c ≤ 'z') || c == '#' || c == '/' || c == '@'

/-- Reads what stands between the brackets of a tag. -/
def readBody : Text → Option Text
  | '[' :: c :: rest =>
    let inner := fun d => d ≠ '[' && d ≠ ']'
    if startsTag c then
      match rest.dropWhile inner with
      | ']' :: _ => some (c :: rest.takeWhile inner)
      | _ => none
    else none
  | _ => none

namespace Bracket

/-- The bracket as it is written. -/
def text (b : Bracket) : Text :=
  List.replicate b.slashes '\\' ++ '[' :: b.body ++ [']']

/-- Reads a bracket together with all backslashes before it. -/
def read (t : Text) : Option (Bracket × Nat) :=
  (readBody (t.dropWhile (· = '\\'))).map fun body =>
    let b : Bracket := ⟨(t.takeWhile (· = '\\')).length, body⟩
    (b, b.text.length)

/-- The bracket with twice its backslashes and one more. -/
def escaped (b : Bracket) : Bracket :=
  { b with slashes := 2 * b.slashes + 1 }

end Bracket

/-- Whether a text ends in exactly one backslash. -/
def endsInLoneSlash (t : Text) : Bool :=
  match t.reverse with
  | '\\' :: '\\' :: _ => false
  | '\\' :: _ => true
  | _ => false

/-- Writes a text so that markup shows it as it is. -/
def escape (t : Text) : Text :=
  let escaped := Scan.substitute Bracket.read (fun b => b.escaped.text) t
  if endsInLoneSlash escaped then escaped ++ ['\\'] else escaped

/-- A stretch of plain characters, or a bracket with the position of its first backslash. -/
inductive Piece where
  | stretch (t : Text)
  | bracket (b : Bracket) (position : Nat)
  deriving DecidableEq, Repr

/-- Gathers the tokens of a scan that begins at `position` into pieces. -/
def gather : Nat → List (Scan.Token Char Bracket) → List Piece
  | _, [] => []
  | position, .found b :: rest => .bracket b position :: gather (position + b.text.length) rest
  | position, .other c :: rest =>
    match gather (position + 1) rest with
    | .stretch t :: pieces => .stretch (c :: t) :: pieces
    | pieces => .stretch [c] :: pieces

def pieces (t : Text) : List Piece :=
  gather 0 (Scan.tokens Bracket.read 0 t)

/-- Why a text is no markup. -/
inductive Fault where
  /-- A closing tag, by what stands between its brackets, with no open tag of its name. -/
  | unmatched (body : Text) (position : Nat)
  /-- A closing tag without a name where no tag is open. -/
  | nothingToClose (position : Nat)
  /-- A closed action whose arguments are no literal values. `given` is all that its tag gives. -/
  | action (arguments given : Text) (fault : Argument.Fault)
  /-- A colour that lacks one of its amounts. -/
  | missingAmount
  /-- A colour with an amount of too many digits. -/
  | amountTooLong (digits : Nat)
  deriving DecidableEq, Repr

def Fault.ofAmount : Colour.AmountFault → Fault
  | .missing => .missingAmount
  | .tooLong digits => .amountTooLong digits

def Fault.message : Fault → Text
  | .unmatched body position =>
    "closing tag '[".toList ++ body ++ "]' at position ".toList ++ Text.ofNat position ++
      " doesn't match any open tag".toList
  | .nothingToClose position =>
    "closing tag '[/]' at position ".toList ++ Text.ofNat position ++
      " has nothing to close".toList
  | .action arguments given fault =>
    let cited :=
      if fault.concernsValue then Text.quoted given
      else Text.quoted arguments ++ " in ".toList ++ Text.quoted given
    "error parsing ".toList ++ cited ++ "; ".toList ++ fault.message
  | .missingAmount => "invalid literal for int() with base 10: ''".toList
  | .amountTooLong digits =>
    "Exceeds the limit (".toList ++ Text.ofNat Colour.mostDigits ++
      " digits) for integer string conversion: value has ".toList ++ Text.ofNat digits ++
      " digits; use sys.set_int_max_str_digits() to increase the limit".toList

/-- Controls that are never shown: bell, backspace, vertical tab, form feed, carriage return. -/
def isDropped (c : Char) : Bool :=
  [0x07, 0x08, 0x0b, 0x0c, 0x0d].contains c.toNat

/-- A stretch as it is shown, apart from its backslashes. -/
def shown (t : Text) : Text :=
  (Emoji.replace t).filter fun c => !isDropped c

/-- A stretch between tags as it is shown: a backslash before a bracket is not. -/
def shownStretch (t : Text) : Text :=
  shown (Scan.replace ['\\', '['] ['['] t)

/-- A tag that has been opened: its canonical name, and what stands behind an equals sign in it. -/
structure Opened where
  name : Text
  given : Text
  deriving DecidableEq, Repr

/-- Closes a tag. An action has its arguments checked. -/
def Opened.close (tag : Opened) : Except Fault Unit :=
  if tag.name.head? = some '@' then
    match Action.check tag.given with
    | .ok () => .ok ()
    | .error (arguments, fault) => .error (.action arguments tag.given fault)
  else .ok ()

/-- The style that an open tag asks for. -/
def Opened.style (tag : Opened) : Text :=
  tag.name ++ ' ' :: tag.given

/-- The canonical name of a tag. -/
def canonicalName (name : Text) : Except Fault Text :=
  (Style.canonicalName name).mapError .ofAmount

/-- What a tag does to the open tags: it is added to them, or it closes one of them, which is known by the
number of those inside it. -/
inductive Change where
  | opens (tag : Opened)
  | closes (place : Nat)
  deriving DecidableEq, Repr

/-- The open tags behind a change, innermost first. -/
def Change.apply (stack : List Opened) : Change → List Opened
  | .opens tag => tag :: stack
  | .closes place => stack.eraseIdx place

/-- The place of the open tag that a closing one ends: the innermost one of its name, or the innermost of all
if it has no name. `body` is all that stands between its brackets. -/
def closedPlace (stack : List Opened) (name body : Text) (position : Nat) : Except Fault Nat := do
  match Text.strip name, stack with
  | [], [] => .error (.nothingToClose position)
  | [], tag :: _ =>
    tag.close
    return 0
  | name, stack =>
    let canonical ← canonicalName name
    match stack.find? (·.name = canonical) with
    | none => .error (.unmatched body position)
    | some tag =>
      tag.close
      return stack.findIdx (·.name = canonical)

/-- Reads a tag behind some open tags. -/
def readTag (stack : List Opened) (body : Text) (position : Nat) : Except Fault Change :=
  match body.takeWhile (· ≠ '=') with
  | '/' :: name => (closedPlace stack name body position).map .closes
  | name =>
    (canonicalName name).map fun canonical => .opens ⟨canonical, body.drop (name.length + 1)⟩

/-- What a piece shows, and what it does to the open tags. -/
structure Step where
  shown : Text
  change : Option Change
  deriving DecidableEq, Repr

/-- The open tags behind a step. -/
def Step.behind (stack : List Opened) (step : Step) : List Opened :=
  match step.change with
  | none => stack
  | some change => change.apply stack

def Piece.step (stack : List Opened) : Piece → Except Fault Step
  | .stretch t => .ok ⟨shownStretch t, none⟩
  | .bracket b position =>
    let slashes := List.replicate (b.slashes / 2) '\\'
    if b.slashes % 2 = 1 then .ok ⟨slashes ++ shown ('[' :: b.body ++ [']']), none⟩
    else (readTag stack b.body (position + b.slashes)).map fun change => ⟨slashes, some change⟩

/-- The steps of a sequence of pieces. Tags may stay open at the end. -/
def trace : List Opened → List Piece → Except Fault (List Step)
  | _, [] => .ok []
  | stack, piece :: rest => do
    let step ← piece.step stack
    let steps ← trace (step.behind stack) rest
    return step :: steps

/-- The spans of some steps, in the order in which their tags are closed; those that stay open are closed at
the end, innermost first. `shown` characters stand before the steps, and the open tags are given by the
places where they have been opened and by their styles. -/
def spansFrom (shown : Nat) (opened : List (Nat × Text)) : List Step → List Span
  | [] => opened.map fun (start, style) => ⟨start, shown, style⟩
  | step :: rest =>
    let here := shown + step.shown.length
    match step.change with
    | none => spansFrom here opened rest
    | some (.opens tag) => spansFrom here ((here, tag.style) :: opened) rest
    | some (.closes place) =>
      opened[place]?.toList.map (fun (start, style) => ⟨start, here, style⟩) ++
        spansFrom here (opened.eraseIdx place) rest

/-- What some steps show, with the styles that their tags ask for. -/
def assemble (steps : List Step) : Styled :=
  ⟨steps.flatMap Step.shown, Span.inOrder (spansFrom 0 [] steps)⟩

/-- What a text in markup shows, with its styles. Without any opening bracket it is taken as it is. -/
def styled (t : Text) : Except Fault Styled :=
  if t.contains '[' then (trace [] (pieces t)).map assemble else .ok (.plain (shown t))

/-- The characters that a text in markup shows. -/
def render (t : Text) : Except Fault Text :=
  (styled t).map Styled.text

end TagOrigin.Display.Markup
