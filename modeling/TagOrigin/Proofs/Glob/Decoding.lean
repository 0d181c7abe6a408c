import TagOrigin.Proofs.Glob.Items

/-!
Expression texts and the patterns that they come from. The lexical units of the expression text of a pattern
without the character that marks double stars tell its pieces apart. So the pattern can be read back from the
text, and no two of these patterns have one expression text.
-/
namespace TagOrigin.Glob

variable {pattern : Text}

/-- What a piece is in the pattern. -/
def Piece.source : Piece → Text
  | .anyRun => "**".toList
  | .segmentRun => ['*']
  | .query => ['?']
  | .char c => [c]

/-- What a lexical unit of an expression text was in the pattern. The repeat mark of a run belongs to the
atom before it. -/
def Lexeme.source : Lexeme → Text
  | .atom .anyChar => "**".toList
  | .atom .nonSlash => ['*']
  | .atom .directories => "**/".toList
  | .atom (.char c) => [c]
  | .query => ['?']
  | .start | .finish | .star => []

/-- What a sequence of lexical units was in the pattern. -/
def sourceOf (units : List (Lexeme × Nat)) : Text :=
  units.flatMap fun (unit, _) => unit.source

/-- The pattern of an expression text. The question mark behind leading directories belongs to them. -/
def patternOf (source : Text) : Text :=
  match lexemes source with
  | (.start, _) :: (.atom .directories, _) :: (.query, _) :: units => "**/".toList ++ sourceOf units
  | units => sourceOf units

/-- The pieces make up the pattern. -/
theorem flatMap_source_pieces (body : Text) : (pieces body).flatMap Piece.source = body := by
  fun_induction pieces body with
  | case1 => rfl
  | case2 rest ih => exact congrArg ("**".toList ++ ·) ih
  | case3 rest _ ih => exact congrArg ('*' :: ·) ih
  | case4 rest ih => exact congrArg ('?' :: ·) ih
  | case5 c rest _ _ _ ih => exact congrArg (c :: ·) ih

theorem Piece.sourceOf_lexemes (piece : Piece) : sourceOf piece.lexemes = piece.source := by
  cases piece <;> rfl

/-- The lexical units of a body, with the end mark behind them, give the body back. -/
theorem sourceOf_body (body : Text) :
    sourceOf ((pieces body).flatMap Piece.lexemes ++ [(.finish, 2)]) = body := by
  have each : (fun piece : Piece => sourceOf piece.lexemes) = Piece.source :=
    funext Piece.sourceOf_lexemes
  rw [sourceOf, List.flatMap_append, List.flatMap_assoc]
  change ((pieces body).flatMap fun piece => sourceOf piece.lexemes) ++ [] = body
  rw [each, flatMap_source_pieces, List.append_nil]

/-- No piece is read as leading directories. -/
theorem directories_not_mem (ps : List Piece) (width : Nat) :
    (.atom .directories, width) ∉ ps.flatMap Piece.lexemes ++ [(.finish, 2)] := by
  intro member
  rcases List.mem_append.1 member with inside | last
  · obtain ⟨piece, -, read⟩ := List.mem_flatMap.1 inside
    cases piece <;> simp [Piece.lexemes] at read
  · simp at last

/-- A pattern is read back from its expression text. -/
theorem patternOf_expressionText (clean : '\x00' ∉ pattern) : patternOf (expressionText pattern) = pattern := by
  rw [patternOf]
  cases leading : Text.after? "**/".toList pattern with
  | some body =>
    rw [lexemes_of_leading clean leading]
    simp only [sourceOf_body]
    exact (Text.after?_eq_some_iff.1 leading).symm
  | none =>
    rw [lexemes_of_plain clean leading]
    -- without leading directories no second unit is read as such
    split
    · next units same =>
      have head := (List.cons.inj same).2
      exact absurd (head ▸ List.mem_cons_self) (directories_not_mem (pieces pattern) _)
    · exact sourceOf_body pattern

/-- Without the marker of double stars the chain of replacements writes what one pass writes, and no two
patterns have one expression text. -/
theorem expressionText_one_to_one (clean : '\x00' ∉ pattern) :
    expressionText pattern = onePassText pattern ∧
      ∀ other, '\x00' ∉ other → expressionText other = expressionText pattern → other = pattern := by
  refine ⟨expressionText_eq_onePassText clean, ?_⟩
  intro other cleanOther same
  calc
    other = patternOf (expressionText other) := (patternOf_expressionText cleanOther).symm
    _ = patternOf (expressionText pattern) := by rw [same]
    _ = pattern := patternOf_expressionText clean

/-- A row of three stars behind leading directories, and a pattern that spells the group of leading
directories in characters of its own. -/
theorem expressionText_one_to_one_spelledGroup :
    let pattern := "**/a***.(?".toList
    let other := "(?:.*/)?a***.(?".toList
    '\x00' ∉ pattern ∧ expressionText pattern = "^(?:.*/)?a.*[^/]*\\.\\(?\\Z".toList ∧ '\x00' ∉ other ∧
      expressionText other ≠ expressionText pattern := by
  have clean : '\x00' ∉ "**/a***.(?".toList := by decide
  have cleanOther : '\x00' ∉ "(?:.*/)?a***.(?".toList := by decide
  obtain ⟨written, alone⟩ := expressionText_one_to_one clean
  refine ⟨clean, ?_, cleanOther, fun same => absurd (alone _ cleanOther same) (by decide)⟩
  rw [written]
  decide

-- The marker itself is taken for the double star that it marks.
example : expressionText marker = expressionText "**".toList := by decide

end TagOrigin.Glob
