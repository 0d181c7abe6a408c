import TagOrigin.Proofs.Glob.OnePass
import TagOrigin.Proofs.Success

/-!
The items of a pattern. The expression text of a pattern is cut back into lexical units piece by
piece, whatever characters the pattern holds, and the parser gives every piece the item that it
stands for. A question mark is the only piece that needs the one before it: it makes a character
optional and changes nothing behind a run.
-/
namespace TagOrigin.Glob

/-- The lexical units of the expression text of a piece, with their widths. -/
def Piece.lexemes : Piece → List (Lexeme × Nat)
  | .anyRun => [(.atom .anyChar, 1), (.star, 1)]
  | .segmentRun => [(.atom .nonSlash, 4), (.star, 1)]
  | .query => [(.query, 1)]
  | .char c => [(.atom (.char c), if isSpecial c then 2 else 1)]

/-- The items of the pieces, read one after the other. -/
def itemsOf : List Piece → Expression
  | [] => []
  | .anyRun :: ps => ⟨.anyChar, .many⟩ :: itemsOf ps
  | .segmentRun :: ps => ⟨.nonSlash, .many⟩ :: itemsOf ps
  | .query :: ps => itemsOf ps
  | .char c :: .query :: ps => ⟨.char c, .optional⟩ :: itemsOf ps
  | .char c :: ps => ⟨.char c, .once⟩ :: itemsOf ps

/-- The items of a whole pattern. -/
def patternItems (pattern : Text) : Expression :=
  match Text.after? "**/".toList pattern with
  | some body => ⟨.directories, .optional⟩ :: itemsOf (pieces body)
  | none => itemsOf (pieces pattern)

section Lexing

theorem lexemes_append {unit : Lexeme} (front rest : Text) (nonempty : front ≠ [])
    (reads : Lexeme.read (front ++ rest) = some (unit, front.length)) :
    lexemes (front ++ rest) = (unit, front.length) :: lexemes rest := by
  apply Scan.matchesOf_append_of_some nonempty
  rw [reads, Option.map_some]

/-- A character that no expression text gives a meaning to stands for itself. -/
theorem read_plain {c : Char} (plain : isSpecial c = false) (noStar : c ≠ '*') (noQuery : c ≠ '?')
    (rest : Text) : Lexeme.read (c :: rest) = some (.atom (.char c), 1) := by
  have different : ∀ special, isSpecial special = true → c ≠ special := by
    rintro special meaning rfl
    exact Bool.false_ne_true (plain.symm.trans meaning)
  have h₁ := different '^' (by decide)
  have h₂ := different '.' (by decide)
  have h₃ := different '\\' (by decide)
  have h₄ := different '[' (by decide)
  have h₅ := different '(' (by decide)
  unfold Lexeme.read
  split <;> simp_all

/-- A backslash takes the meaning away. The end mark is no such escape. -/
theorem read_escaped {c : Char} (special : isSpecial c = true) (rest : Text) :
    Lexeme.read ('\\' :: c :: rest) = some (.atom (.char c), 2) := by
  have noFinish : c ≠ 'Z' := by
    rintro rfl
    exact absurd special (by decide)
  rw [Lexeme.read]
  exact fun same => noFinish same

theorem lexemes_piece {piece : Piece} (ordinary : ∀ c, piece = .char c → c ≠ '*' ∧ c ≠ '?')
    (rest : Text) :
    lexemes (piece.expressionText ++ rest) = piece.lexemes ++ lexemes rest := by
  cases piece with
  | anyRun =>
    have point := lexemes_append ['.'] ('*' :: rest) (List.cons_ne_nil _ _) rfl
    have star := lexemes_append ['*'] rest (List.cons_ne_nil _ _) rfl
    exact point.trans (congrArg _ star)
  | segmentRun =>
    have group := lexemes_append "[^/]".toList ('*' :: rest) (List.cons_ne_nil _ _) rfl
    have star := lexemes_append ['*'] rest (List.cons_ne_nil _ _) rfl
    exact group.trans (congrArg _ star)
  | query => exact lexemes_append ['?'] rest (List.cons_ne_nil _ _) rfl
  | char c =>
    obtain ⟨noStar, noQuery⟩ := ordinary c rfl
    rw [Piece.expressionText, Piece.lexemes]
    by_cases special : isSpecial c = true
    · rw [if_pos special, if_pos special]
      exact lexemes_append ['\\', c] rest (List.cons_ne_nil _ _) (read_escaped special rest)
    · rw [if_neg special, if_neg special]
      exact lexemes_append [c] rest (List.cons_ne_nil _ _)
        (read_plain (Bool.not_eq_true _ ▸ special) noStar noQuery rest)

/-- The body of a pattern, and the end mark behind it. -/
theorem lexemes_body {ps : List Piece} (ordinary : ∀ c, .char c ∈ ps → c ≠ '*' ∧ c ≠ '?') :
    lexemes (ps.flatMap Piece.expressionText ++ "\\Z".toList) =
      ps.flatMap Piece.lexemes ++ [(.finish, 2)] := by
  induction ps with
  | nil => exact lexemes_append "\\Z".toList [] (List.cons_ne_nil _ _) rfl
  | cons piece ps ih =>
    have here : ∀ c, piece = .char c → c ≠ '*' ∧ c ≠ '?' := by
      rintro c rfl
      exact ordinary c List.mem_cons_self
    rw [List.flatMap_cons, List.append_assoc, lexemes_piece here,
      ih fun c member => ordinary c (List.mem_cons_of_mem piece member), List.flatMap_cons,
      List.append_assoc]

end Lexing

section Parsing

/-- What the pieces add to an item that may still change. -/
def Prior.continued : Prior → List Piece → Expression
  | .atom a, .query :: ps => ⟨a, .optional⟩ :: itemsOf ps
  | prior, ps => prior.items ++ itemsOf ps

theorem itemsOf_char_cons (c : Char) (ps : List Piece) :
    itemsOf (.char c :: ps) = (Prior.atom (.char c)).continued ps := by
  cases ps with
  | nil => rfl
  | cons piece ps => cases piece <;> rfl

/-- Every accepted sequence of pieces has the items that the pieces stand for. The induction carries
the unit before the pieces, since a question mark looks back at it. -/
theorem eq_continued_of_parse {position : Nat} (prior : Prior) {ps : List Piece} {e : Expression}
    (success : parse position prior (ps.flatMap Piece.lexemes ++ [(.finish, 2)]) = .ok e) :
    e = prior.continued ps := by
  induction ps generalizing position prior e with
  | nil =>
    cases success
    cases prior <;> rfl
  | cons piece ps ih =>
    cases piece with
    | anyRun =>
      obtain ⟨later, parsed, rfl⟩ := map_eq_ok_iff.1 success
      rw [ih _ parsed]
      cases prior <;> rfl
    | segmentRun =>
      obtain ⟨later, parsed, rfl⟩ := map_eq_ok_iff.1 success
      rw [ih _ parsed]
      cases prior <;> rfl
    | char c =>
      obtain ⟨later, parsed, rfl⟩ := map_eq_ok_iff.1 success
      rw [ih _ parsed, ← itemsOf_char_cons]
      cases prior <;> rfl
    | query =>
      cases prior with
      | start => cases success
      | atom a => exact ih _ success
      | repeated item => exact ih _ success
      | settled item => cases success

end Parsing

/-- The pieces of a pattern hold ordinary characters only. -/
theorem ordinary_pieces (body : Text) : ∀ c, .char c ∈ pieces body → c ≠ '*' ∧ c ≠ '?' :=
  fun _ member => (of_char_mem_pieces member).2

theorem lexemes_of_leading {pattern body : Text} (clean : '\x00' ∉ pattern)
    (leading : Text.after? "**/".toList pattern = some body) :
    lexemes (expressionText pattern) =
      (.start, 1) :: (.atom .directories, 7) :: (.query, 1) ::
        ((pieces body).flatMap Piece.lexemes ++ [(.finish, 2)]) := by
  have cleanBody := nul_not_mem_of_leading clean leading
  rw [← lexemes_body (ordinary_pieces body), ← bodyText_eq cleanBody, expressionText, leading]
  have start := lexemes_append ['^'] ("(?:.*/)?".toList ++ bodyText body ++ "\\Z".toList)
    (List.cons_ne_nil _ _) rfl
  have group := lexemes_append "(?:.*/)".toList (['?'] ++ bodyText body ++ "\\Z".toList)
    (List.cons_ne_nil _ _) rfl
  have query := lexemes_append ['?'] (bodyText body ++ "\\Z".toList) (List.cons_ne_nil _ _) rfl
  exact start.trans (congrArg _ (group.trans (congrArg _ query)))

theorem lexemes_of_plain {pattern : Text} (clean : '\x00' ∉ pattern)
    (plain : Text.after? "**/".toList pattern = none) :
    lexemes (expressionText pattern) =
      (.start, 1) :: ((pieces pattern).flatMap Piece.lexemes ++ [(.finish, 2)]) := by
  rw [← lexemes_body (ordinary_pieces pattern), ← bodyText_eq clean, expressionText, plain]
  exact lexemes_append ['^'] (bodyText pattern ++ "\\Z".toList) (List.cons_ne_nil _ _) rfl

/-- An accepted pattern has the items of its pieces, behind optional directories if it begins with
a double star and a slash. -/
theorem eq_patternItems_of_compile {pattern : Text} {e : Expression} (clean : '\x00' ∉ pattern)
    (accepted : compile pattern = .ok e) : e = patternItems pattern := by
  unfold compile Expression.read at accepted
  split at accepted
  · next parsed success =>
    cases accepted
    cases leading : Text.after? "**/".toList pattern with
    | some body =>
      rw [lexemes_of_leading clean leading] at success
      rw [patternItems, leading]
      obtain ⟨items, parsed, rfl⟩ := map_eq_ok_iff.1 success
      exact eq_continued_of_parse (.repeated ⟨.directories, .optional⟩) parsed
    | none =>
      rw [lexemes_of_plain clean leading] at success
      rw [patternItems, leading]
      exact eq_continued_of_parse .start success
  · cases accepted

end TagOrigin.Glob
