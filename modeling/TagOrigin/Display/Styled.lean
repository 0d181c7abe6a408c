import TagOrigin.Display.Style

/-!
Texts with styles. A style is asked for a span of characters and looked up when the text is printed. What
has no meaning as a style does not count; an amount that cannot be read is a fault. A text that holds line
feeds or tabs is cut there before, and a span is lost that covers nothing else than line feeds.
-/
namespace TagOrigin.Display

/-- The characters from `start` on and before `stop`, and the style that is asked for them. -/
structure Span where
  start : Nat
  stop : Nat
  style : Text
  deriving DecidableEq, Repr

namespace Span

/-- The span if its text stands behind `offset` characters. -/
def shift (offset : Nat) (span : Span) : Span :=
  { span with start := offset + span.start, stop := offset + span.stop }

/-- Puts a span before all that do not begin before it. -/
def insert (span : Span) : List Span → List Span
  | [] => [span]
  | other :: rest =>
    if span.start ≤ other.start then span :: other :: rest else other :: insert span rest

/-- Spans by their beginnings. Of those that begin together the later ones come first. -/
def inOrder (spans : List Span) : List Span :=
  spans.foldl (fun sorted span => span.insert sorted) []

end Span

structure Styled where
  text : Text
  spans : List Span
  deriving DecidableEq, Repr

namespace Styled

/-- A text without styles. -/
def plain (t : Text) : Styled := ⟨t, []⟩

def append (front back : Styled) : Styled :=
  ⟨front.text ++ back.text, front.spans ++ back.spans.map (Span.shift front.text.length)⟩

/-- Texts one after the other, with a separator between them. -/
def join (separator : Text) : List Styled → Styled
  | [] => plain []
  | [last] => last
  | first :: rest => (first.append (plain separator)).append (join separator rest)

/-- The spans whose styles are looked up. -/
def printed (styled : Styled) : List Span :=
  if styled.text.any fun c => c = '\n' || c = '\t' then
    styled.spans.filter fun span => (styled.text.extract span.start span.stop).any (· ≠ '\n')
  else styled.spans

/-- Looks up the styles of a text, one after the other. -/
def resolve (styled : Styled) : Except Colour.AmountFault Unit :=
  styled.printed.forM fun span => Style.lookUp span.style

end Styled

end TagOrigin.Display
