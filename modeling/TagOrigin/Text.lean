/-!
Texts are lists of characters. This module holds the operations that every other part shares:
the white space class, stripping, splitting at a separator and decimal numerals.
-/
namespace TagOrigin

/-- A text is the list of its characters. -/
abbrev Text := List Char

namespace Text

/-- White space in the sense of the Unicode standard: the separators, the line ends and the
information separators. Zero width characters are not white space. -/
def isBlank (c : Char) : Bool :=
  let n := c.toNat
  (0x09 ≤ n && n ≤ 0x0d) || (0x1c ≤ n && n ≤ 0x20) || n == 0x85 || n == 0xa0 || n == 0x1680 ||
    (0x2000 ≤ n && n ≤ 0x200a) || n == 0x2028 || n == 0x2029 || n == 0x202f || n == 0x205f ||
    n == 0x3000

/-- Whether a number lies in one of some closed ranges. -/
def inRanges (ranges : List (Nat × Nat)) (n : Nat) : Bool :=
  ranges.any fun (first, last) => first ≤ n && n ≤ last

/-- Removes white space at the front. -/
def stripLeft (t : Text) : Text :=
  t.dropWhile isBlank

/-- Removes white space at the end. -/
def stripRight (t : Text) : Text :=
  (t.reverse.dropWhile isBlank).reverse

/-- Removes white space at both ends. -/
def strip (t : Text) : Text :=
  stripRight (stripLeft t)

/-- What follows `word` in a text that begins with it. -/
def after? : Text → Text → Option Text
  | [], t => some t
  | _ :: _, [] => none
  | w :: word, c :: t => if w = c then after? word t else none

/-- A text begins with a word exactly if it is the word and a rest. -/
theorem after?_eq_some_iff {word t rest : Text} :
    after? word t = some rest ↔ t = word ++ rest := by
  induction word generalizing t with
  | nil => simp [after?, eq_comm]
  | cons w word ih =>
    cases t with
    | nil => simp [after?]
    | cons c t =>
      by_cases h : w = c
      · subst h
        simp [after?, ih]
      · simp [after?, h, Ne.symm h]

/-- The parts of a text before and after the first occurrence of a non-empty separator. -/
def breakOn (sep : Text) : Text → Option (Text × Text)
  | [] => none
  | c :: t =>
    match after? sep (c :: t) with
    | some rest => some ([], rest)
    | none => (breakOn sep t).map fun (before, rest) => (c :: before, rest)

/-- A non-empty run of characters of a class at the front, and what follows it. -/
def run? (p : Char → Bool) (t : Text) : Option (Text × Text) :=
  match t.takeWhile p with
  | [] => none
  | taken => some (taken, t.dropWhile p)

/-- A run and its rest make up the text, and the run is a non-empty sequence of the class. -/
theorem run?_eq_some {p : Char → Bool} {t taken rest : Text} (h : run? p t = some (taken, rest)) :
    t = taken ++ rest ∧ taken ≠ [] ∧ ∀ c ∈ taken, p c = true := by
  unfold run? at h
  split at h
  · cases h
  · next nonempty =>
    obtain ⟨rfl, rfl⟩ := Prod.mk.inj (Option.some.inj h)
    refine ⟨List.takeWhile_append_dropWhile.symm, nonempty, ?_⟩
    intro c member
    exact List.all_eq_true.1 List.all_takeWhile c member

/-- The lines of a text: what lies between its line feeds. -/
def lines (t : Text) : List Text :=
  t.splitOn '\n'

/-- The decimal numeral of a number. -/
def ofNat (n : Nat) : Text :=
  Nat.toDigits 10 n

/-- The decimal numeral of an integer, with a sign only when it is negative. -/
def ofInt : Int → Text
  | .ofNat n => ofNat n
  | .negSucc n => '-' :: ofNat (n + 1)

/-- Whether a text comes before another or equals it, by the code points of the first characters in
which they differ. -/
def precedes : Text → Text → Bool
  | [], _ => true
  | _ :: _, [] => false
  | a :: s, b :: t => if a = b then precedes s t else a.toNat < b.toNat

/-- Texts joined by a separator. -/
def join (sep : Text) (pieces : List Text) : Text :=
  sep.intercalate pieces

end Text

end TagOrigin
