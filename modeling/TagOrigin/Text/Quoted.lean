import TagOrigin.Text.Unprintable

/-!
Quoted texts for messages. The quote is single, or double when the text holds a single quote and no
double one. The quote itself, backslashes, the common controls and characters that do not print are
written as escapes.
-/
namespace TagOrigin.Text

/-- The hexadecimal numeral of a number with at least `width` digits. -/
def hex (width n : Nat) : Text :=
  let digits := Nat.toDigits 16 n
  List.replicate (width - digits.length) '0' ++ digits

/-- One character between quotes. -/
def quotedChar (quote c : Char) : Text :=
  if c = quote || c = '\\' then ['\\', c]
  else if c = '\n' then "\\n".toList
  else if c = '\t' then "\\t".toList
  else if c = '\r' then "\\r".toList
  else if isUnprintable c then
    if c.toNat ≤ 0xff then "\\x".toList ++ hex 2 c.toNat
    else if c.toNat ≤ 0xffff then "\\u".toList ++ hex 4 c.toNat
    else "\\U".toList ++ hex 8 c.toNat
  else [c]

/-- The text in quotes. -/
def quoted (t : Text) : Text :=
  let quote := if t.contains '\'' && !t.contains '"' then '"' else '\''
  quote :: t.flatMap (quotedChar quote) ++ [quote]

end TagOrigin.Text
