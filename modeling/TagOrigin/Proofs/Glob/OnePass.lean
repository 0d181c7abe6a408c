import Mathlib.Data.List.Basic
import TagOrigin.Glob.Pattern
import TagOrigin.Proofs.Text.Search

/-!
The expression text of a pattern in one pass. The chain of replacements works on the whole text four
times, and later ones see what earlier ones wrote. A pattern is cut into pieces here, from left to
right, and each piece has an expression text of its own; for a pattern without the character that
marks double stars, the chain writes exactly these texts one after the other. `onePassText` is the text of
a whole pattern, written from left to right without replacements.
-/
namespace TagOrigin.Glob

/-- A unit of a pattern behind its leading directories. -/
inductive Piece where
  /-- Two stars. -/
  | anyRun
  /-- A star that is not part of a pair. -/
  | segmentRun
  | query
  /-- Any other character. -/
  | char (c : Char)
  deriving DecidableEq, Repr

/-- The pieces of a pattern. Of several stars in sequence the first two make a pair. -/
def pieces : Text → List Piece
  | [] => []
  | '*' :: '*' :: rest => .anyRun :: pieces rest
  | '*' :: rest => .segmentRun :: pieces rest
  | '?' :: rest => .query :: pieces rest
  | c :: rest => .char c :: pieces rest

/-- A character of a piece stands in the pattern and is neither a star nor a question mark. -/
theorem of_char_mem_pieces {c : Char} {body : Text} (member : Piece.char c ∈ pieces body) :
    c ∈ body ∧ c ≠ '*' ∧ c ≠ '?' := by
  fun_induction pieces body with
  | case1 => cases member
  | case2 rest ih =>
    obtain ⟨inside, ordinary⟩ := ih (by simpa using member)
    exact ⟨by simp [inside], ordinary⟩
  | case3 rest _ ih =>
    obtain ⟨inside, ordinary⟩ := ih (by simpa using member)
    exact ⟨by simp [inside], ordinary⟩
  | case4 rest ih =>
    obtain ⟨inside, ordinary⟩ := ih (by simpa using member)
    exact ⟨by simp [inside], ordinary⟩
  | case5 a rest _ noStar noQuery ih =>
    rcases List.mem_cons.1 member with same | later
    · cases same
      exact ⟨by simp, noStar, noQuery⟩
    · obtain ⟨inside, ordinary⟩ := ih later
      exact ⟨by simp [inside], ordinary⟩

namespace Piece

/-- The piece once double stars are marked. -/
def marked : Piece → Text
  | .anyRun => marker
  | .segmentRun => ['*']
  | .query => ['?']
  | .char c => [c]

/-- The expression text of a piece. -/
def expressionText : Piece → Text
  | .anyRun => ".*".toList
  | .segmentRun => "[^/]*".toList
  | .query => ['?']
  | .char c => if isSpecial c then ['\\', c] else [c]

/-- The expression text of a piece while a double star is still marked. -/
def pendingText : Piece → Text
  | .anyRun => marker
  | piece => piece.expressionText

end Piece

theorem replace_doubleStar (body : Text) :
    Scan.replace ['*', '*'] marker body = (pieces body).flatMap Piece.marked := by
  fun_induction pieces body with
  | case1 => rfl
  | case2 rest ih =>
    rw [List.flatMap_cons, ← ih]
    exact Scan.replace_append (List.cons_ne_nil _ _) rest
  | case3 rest single ih =>
    have absent : Text.after? ['*', '*'] ('*' :: rest) = none := by
      cases rest with
      | nil => rfl
      | cons c rest =>
        have other : '*' ≠ c := by
          rintro rfl
          exact single rest rfl
        simp [Text.after?, other]
    rw [List.flatMap_cons, ← ih, Scan.replace_cons_of_none absent]
    rfl
  | case4 rest ih =>
    have absent : Text.after? ['*', '*'] ('?' :: rest) = none := by simp [Text.after?]
    rw [List.flatMap_cons, ← ih, Scan.replace_cons_of_none absent]
    rfl
  | case5 c rest _ noStar _ ih =>
    have absent : Text.after? ['*', '*'] (c :: rest) = none := by
      simp [Text.after?, Ne.symm noStar]
    rw [List.flatMap_cons, ← ih, Scan.replace_cons_of_none absent]
    rfl

/-- Escaping and replacing single stars, piece by piece. The marker passes through unchanged. -/
theorem replace_star_escapeSpecial {ps : List Piece} (ordinary : ∀ c, .char c ∈ ps → c ≠ '*') :
    Scan.replace ['*'] "[^/]*".toList (escapeSpecial (ps.flatMap Piece.marked)) =
      ps.flatMap Piece.pendingText := by
  rw [Scan.replace_singleton, escapeSpecial, List.flatMap_assoc, List.flatMap_assoc]
  apply List.flatMap_congr
  intro piece member
  cases piece with
  | anyRun => decide
  | segmentRun => decide
  | query => decide
  | char c =>
    have other := ordinary c member
    by_cases special : isSpecial c = true
    · simp [Piece.marked, Piece.pendingText, Piece.expressionText, special, other]
    · simp [Piece.marked, Piece.pendingText, Piece.expressionText, special, other]

/-- A text without the first character of the marker holds no marker, also where it ends. -/
theorem replace_marker_append {new front : Text} (clean : '\x00' ∉ front) (t : Text) :
    Scan.replace marker new (front ++ t) = front ++ Scan.replace marker new t := by
  induction front with
  | nil => rfl
  | cons c front ih =>
    have other := List.ne_of_not_mem_cons clean
    have absent : Text.after? marker (c :: (front ++ t)) = none := by
      simp [marker, Text.after?, other]
    rw [List.cons_append, Scan.replace_cons_of_none absent, ih (List.not_mem_of_not_mem_cons clean),
      List.cons_append]

theorem nul_not_mem_expressionText {piece : Piece} (clean : piece ≠ .char '\x00') :
    '\x00' ∉ piece.expressionText := by
  cases piece with
  | anyRun => decide
  | segmentRun => decide
  | query => decide
  | char c =>
    have other : '\x00' ≠ c := fun same => clean (congrArg Piece.char same.symm)
    by_cases special : isSpecial c = true
    · simp [Piece.expressionText, special, other]
    · simp [Piece.expressionText, special, other]

theorem replace_marker_pendingText {ps : List Piece} (clean : .char '\x00' ∉ ps) :
    Scan.replace marker ".*".toList (ps.flatMap Piece.pendingText) =
      ps.flatMap Piece.expressionText := by
  induction ps with
  | nil => rfl
  | cons piece ps ih =>
    have untouched := nul_not_mem_expressionText (List.ne_of_not_mem_cons clean).symm
    rw [List.flatMap_cons, List.flatMap_cons, ← ih (List.not_mem_of_not_mem_cons clean)]
    cases piece with
    | anyRun => exact Scan.replace_append (List.cons_ne_nil _ _) _
    | segmentRun => exact replace_marker_append untouched _
    | query => exact replace_marker_append untouched _
    | char c => exact replace_marker_append untouched _

/-- The chain of replacements writes the texts of the pieces, one after the other. -/
theorem bodyText_eq {body : Text} (clean : '\x00' ∉ body) :
    bodyText body = (pieces body).flatMap Piece.expressionText := by
  have ordinary : ∀ c, Piece.char c ∈ pieces body → c ≠ '*' :=
    fun c member => (of_char_mem_pieces member).2.1
  have unmarked : Piece.char '\x00' ∉ pieces body :=
    fun member => clean (of_char_mem_pieces member).1
  rw [bodyText, replace_doubleStar, replace_star_escapeSpecial ordinary,
    replace_marker_pendingText unmarked]

section WholePatterns

/-- The characters that stand for themselves only behind a backslash. -/
def escapedChars : List Char :=
  ['.', '+', '^', '$', '\x7b', '\x7d', '(', ')', '|', '[', ']', '\\']

/-- The expression text of a pattern behind its leading `**/`, written from left to right. -/
def onePassBody : Text → Text
  | [] => []
  | '*' :: '*' :: rest => ".*".toList ++ onePassBody rest
  | '*' :: rest => "[^/]*".toList ++ onePassBody rest
  | c :: rest => (if c ∈ escapedChars then ['\\', c] else [c]) ++ onePassBody rest

/-- The expression text of a pattern, written from left to right. -/
def onePassText : Text → Text
  | '*' :: '*' :: '/' :: body => "^(?:.*/)?".toList ++ onePassBody body ++ "\\Z".toList
  | pattern => "^".toList ++ onePassBody pattern ++ "\\Z".toList

theorem isSpecial_iff {c : Char} : isSpecial c = true ↔ c ∈ escapedChars :=
  List.contains_iff_mem

theorem onePassBody_eq (body : Text) : onePassBody body = (pieces body).flatMap Piece.expressionText := by
  fun_induction pieces body with
  | case1 => rfl
  | case2 rest ih =>
    rw [onePassBody, ih]
    rfl
  | case3 rest single ih =>
    rw [onePassBody, ih]
    · rfl
    · exact single
  | case4 rest ih =>
    rw [onePassBody, ih]
    · rfl
    · simp
    · simp
  | case5 c rest pair noStar noQuery ih =>
    rw [onePassBody, ih, List.flatMap_cons, Piece.expressionText]
    · simp only [isSpecial_iff]
    · exact pair
    · exact noStar

theorem onePassText_eq (pattern : Text) : onePassText pattern =
    match Text.after? "**/".toList pattern with
    | some body => "^(?:.*/)?".toList ++ onePassBody body ++ "\\Z".toList
    | none => "^".toList ++ onePassBody pattern ++ "\\Z".toList := by
  cases leading : Text.after? "**/".toList pattern with
  | some body =>
    obtain rfl := Text.after?_eq_some_iff.1 leading
    rfl
  | none =>
    unfold onePassText
    split
    · next body => cases leading
    · rfl

theorem nul_not_mem_of_leading {pattern body : Text} (clean : '\x00' ∉ pattern)
    (leading : Text.after? "**/".toList pattern = some body) : '\x00' ∉ body := by
  intro member
  exact clean (Text.after?_eq_some_iff.1 leading ▸ List.mem_append_right _ member)

/-- The chain of replacements writes what is written from left to right. -/
theorem expressionText_eq_onePassText {pattern : Text} (clean : '\x00' ∉ pattern) :
    expressionText pattern = onePassText pattern := by
  rw [expressionText, onePassText_eq]
  cases leading : Text.after? "**/".toList pattern with
  | some body => simp only [bodyText_eq (nul_not_mem_of_leading clean leading), onePassBody_eq]
  | none => simp only [bodyText_eq clean, onePassBody_eq]

end WholePatterns

end TagOrigin.Glob
