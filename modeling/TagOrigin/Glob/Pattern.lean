import TagOrigin.Glob.Matching

/-!
Wildcard patterns for paths. `*` stands for a run without slashes, `**` for a run without line
feeds, and `**/` at the front for any leading directories or none. A pattern is turned into the text
of an expression by a chain of replacements; a marker that no path can hold keeps the double star
apart while single stars are replaced.
-/
namespace TagOrigin.Glob

/-- Stands for a double star between two replacements. -/
def marker : Text := ['\x00', 'D', 'S', '\x00']

/-- Characters with a meaning in expression texts, `?` and `*` apart. -/
def isSpecial (c : Char) : Bool :=
  ".+^$\x7b\x7d()|[]\\".toList.contains c

/-- Puts a backslash before every special character. -/
def escapeSpecial (t : Text) : Text :=
  t.flatMap fun c => if isSpecial c then ['\\', c] else [c]

/-- The expression text of a pattern behind its leading `**/`. -/
def bodyText (body : Text) : Text :=
  Scan.replace marker ".*".toList
    (Scan.replace ['*'] "[^/]*".toList
      (escapeSpecial
        (Scan.replace ['*', '*'] marker body)))

/-- The expression text of a pattern. -/
def expressionText (pattern : Text) : Text :=
  match Text.after? "**/".toList pattern with
  | some body => "^(?:.*/)?".toList ++ bodyText body ++ "\\Z".toList
  | none => "^".toList ++ bodyText pattern ++ "\\Z".toList

/-- The expression of a pattern. A question mark keeps its meaning, so it can be at fault. -/
def compile (pattern : Text) : Except Fault Expression :=
  Expression.read (expressionText pattern)

/-- Whether a path matches a pattern as a whole. -/
def pathMatches (path pattern : Text) : Except Fault Bool :=
  (compile pattern).map fun expression => expression.accepts path

theorem pathMatches_of_compile {pattern : Text} {e : Expression} (compiled : compile pattern = .ok e)
    (path : Text) : pathMatches path pattern = .ok (e.accepts path) := by
  rw [pathMatches, compiled]
  rfl

end TagOrigin.Glob
