import TagOrigin.Display.EmojiNames
import TagOrigin.Register
import TagOrigin.Text.LowerCase
import TagOrigin.Text.Scan

/-!
Emoji codes: a known name between two colons, without white space, stands for its character. The
name may end in `-text` or `-emoji`, which adds the variation selector. Unknown codes stay as they
are, and the closing colon of one code does not open the next.
-/
namespace TagOrigin.Display.Emoji

/-- The most common names. -/
def commonNames : Register Text :=
  [("smile".toList, ['😄']), ("heart".toList, [Char.ofNat 0x2764])]

/-- What a name stands for. -/
def named? (name : Text) : Option Text :=
  match Register.get? name commonNames with
  | some t => some t
  | none => (furtherNames.lookup (String.ofList name)).map String.toList

/-- Reads a code: what stands between two colons. -/
def readCode : Text → Option (Text × Nat)
  | ':' :: rest =>
    let inner := fun c => c ≠ ':' && !Text.isBlank c
    match rest.dropWhile inner with
    | ':' :: _ => some (rest.takeWhile inner, (rest.takeWhile inner).length + 2)
    | _ => none
  | _ => none

/-- The part of a text before an ending. -/
def before? (ending t : Text) : Option Text :=
  (Text.after? ending.reverse t.reverse).map List.reverse

/-- The name in a code and the variation selector that its ending asks for. -/
def variant (code : Text) : Text × Text :=
  match before? "-emoji".toList code with
  | some name => (name, [Char.ofNat 0xfe0f])
  | none =>
    match before? "-text".toList code with
    | some name => (name, [Char.ofNat 0xfe0e])
    | none => (code, [])

/-- What a code stands for. -/
def resolve (code : Text) : Text :=
  let (name, selector) := variant code
  match named? (Text.lower name) with
  | some t => t ++ selector
  | none => ':' :: code ++ [':']

/-- Replaces the known codes of a text. -/
def replace (t : Text) : Text :=
  Scan.substitute readCode resolve t

end TagOrigin.Display.Emoji
