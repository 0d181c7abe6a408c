import TagOrigin.Text.Unprintable
import TagOrigin.Text.Quoted

/-!
Faults of the arguments of an action, with the text of each.
-/
namespace TagOrigin.Display.Argument

/-- Why arguments are no literal values. -/
inductive Fault where
  | ordinary
  | missingComma
  | missingElse
  /-- A command word with a value behind it in place of brackets. -/
  | missingBrackets (command : Text)
  | missingColon
  | missingValue
  | assignment
  | assignmentTo (target : Text)
  | namedAssignmentTo (target : Text)
  | assignmentInCall
  | emptyStar
  | starredGroup (isDouble : Bool)
  | starredValue
  | mixedTexts
  | bytesBeyondAscii
  | unclosed (bracket : Char)
  | unmatched (bracket : Char)
  /-- A closing bracket of another kind than the open one, which stands on an earlier line if it has a
  line number. -/
  | mismatched (closing opening : Char) (line : Option Nat)
  | unterminated (isLong : Bool) (line : Nat)
  | continuation
  | unexpectedEnd
  | unexpectedIndent
  | strayCharacter (c : Char)
  | malformedNumber (kind : Text)
  | wrongDigit (digit : Char) (kind : Text)
  | leadingZeros
  /-- Well formed, but not made of literal values alone. -/
  | notLiteral
  /-- A set or a map in the place of an element of a set or of a key of a map. -/
  | unhashable (kind : Text)
  deriving DecidableEq, Repr

namespace Fault

/-- The code point of a character as it is cited. -/
def citation (c : Char) : Text :=
  "U+".toList ++ (Text.hex 4 c.toNat).map Char.toUpper

def message : Fault → Text
  | .ordinary => "invalid syntax".toList
  | .missingComma => "invalid syntax. Perhaps you forgot a comma?".toList
  | .missingElse => "expected 'else' after 'if' expression".toList
  | .missingBrackets command =>
    "Missing parentheses in call to '".toList ++ command ++ "'. Did you mean ".toList ++ command ++
      "(...)?".toList
  | .missingColon => "':' expected after dictionary key".toList
  | .missingValue => "expression expected after dictionary key and ':'".toList
  | .assignment => "invalid syntax. Maybe you meant '==' or ':=' instead of '='?".toList
  | .assignmentTo target =>
    "cannot assign to ".toList ++ target ++
      " here. Maybe you meant '==' instead of '='?".toList
  | .namedAssignmentTo target => "cannot use assignment expressions with ".toList ++ target
  | .assignmentInCall =>
    "expression cannot contain assignment, perhaps you meant \"==\"?".toList
  | .emptyStar => "Invalid star expression".toList
  | .starredGroup isDouble =>
    "cannot use ".toList ++ (if isDouble then "double ".toList else []) ++
      "starred expression here".toList
  | .starredValue => "cannot use a starred expression in a dictionary value".toList
  | .mixedTexts => "cannot mix bytes and nonbytes literals".toList
  | .bytesBeyondAscii => "bytes can only contain ASCII literal characters".toList
  | .unclosed bracket => ['\'', bracket] ++ "' was never closed".toList
  | .unmatched bracket => "unmatched '".toList ++ [bracket, '\'']
  | .mismatched closing opening line =>
    "closing parenthesis '".toList ++ [closing] ++ "' does not match opening parenthesis '".toList ++
      [opening, '\''] ++
      match line with
      | none => []
      | some n => " on line ".toList ++ Text.ofNat n
  | .unterminated isLong line =>
    (if isLong then "unterminated triple-quoted string" else "unterminated string").toList ++
      " literal (detected at line ".toList ++ Text.ofNat line ++ [')']
  | .continuation => "unexpected character after line continuation character".toList
  | .unexpectedEnd => "unexpected EOF while parsing".toList
  | .unexpectedIndent => "unexpected indent".toList
  | .strayCharacter c =>
    if Text.isUnprintable c then "invalid non-printable character ".toList ++ citation c
    else "invalid character '".toList ++ [c] ++ "' (".toList ++ citation c ++ [')']
  | .malformedNumber kind => "invalid ".toList ++ kind ++ " literal".toList
  | .wrongDigit digit kind =>
    "invalid digit '".toList ++ [digit] ++ "' in ".toList ++ kind ++ " literal".toList
  | .leadingZeros =>
    "leading zeros in decimal integer literals are not permitted; use an 0o prefix for octal integers".toList
  | .notLiteral => "malformed node or string".toList
  | .unhashable kind => "unhashable type: '".toList ++ kind ++ ['\'']

/-- Whether the words of the text are in order, so that only a value is at fault. -/
def concernsValue : Fault → Bool
  | .notLiteral | .unhashable _ => true
  | _ => false

end Fault

end TagOrigin.Display.Argument
