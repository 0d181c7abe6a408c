import Mathlib.Data.List.Infix
import TagOrigin.Filter
import TagOrigin.Proofs.Glob.Items

/-!
Patterns at fault. Nothing but a question mark can make an expression text invalid, and whether one does
depends on how many may still follow what stands before it: none at the start, one behind leading
directories or a star, two behind any other character. `Malformed` says on the pattern itself which
patterns have one too many. Exactly these are refused, for the first of their question marks that is at
fault and at its place in the expression text, and a list of patterns is refused for the first of them
that is malformed.
-/
namespace TagOrigin.Glob

section Room

/-- How many question marks may follow. -/
def Prior.room : Prior → Nat
  | .start => 0
  | .atom _ => 2
  | .repeated _ => 1
  | .settled _ => 0

/-- What stands before the first question mark that finds no room. -/
def beforeFault : Nat → Text → Option Text
  | _, [] => none
  | 0, '?' :: _ => some []
  | room + 1, '?' :: rest => (beforeFault room rest).map ('?' :: ·)
  | _, '*' :: rest => (beforeFault 1 rest).map ('*' :: ·)
  | _, c :: rest => (beforeFault 2 rest).map (c :: ·)

/-- The text ends with a question mark that is one too many: behind as many as may stand at its front, or
behind a star or a third in sequence. -/
def EndsAtFault (room : Nat) (front : Text) : Prop :=
  front = List.replicate (room + 1) '?' ∨ "*??".toList <:+ front ∨ "???".toList <:+ front

instance (room : Nat) (front : Text) : Decidable (EndsAtFault room front) :=
  inferInstanceAs (Decidable (front = List.replicate (room + 1) '?' ∨ "*??".toList <:+ front ∨
    "???".toList <:+ front))

/-- The place of the first question mark that is one too many. -/
structure FirstFault (room : Nat) (body before behind : Text) : Prop where
  split : body = before ++ '?' :: behind
  atFault : EndsAtFault room (before ++ ['?'])
  first : ∀ shorter, shorter <+: before → ¬ EndsAtFault room shorter

variable {room : Nat} {body before front : Text}

theorem not_endsAtFault_nil : ¬ EndsAtFault room [] := by
  simp [EndsAtFault, List.replicate_succ]

/-- A question mark takes up room. Of three in sequence at the front the last need not be the first that
is at fault. -/
theorem exists_endsAtFault_of_query_cons (small : room ≤ 1)
    (ends : EndsAtFault (room + 1) ('?' :: front)) :
    ∃ shorter, shorter <+: front ∧ EndsAtFault room shorter := by
  rcases ends with same | starred | tripled
  · exact ⟨front, List.prefix_rfl, .inl (List.cons.inj same).2⟩
  · rcases List.suffix_cons_iff.1 starred with same | inside
    · cases same
    · exact ⟨front, List.prefix_rfl, .inr (.inl inside)⟩
  · rcases List.suffix_cons_iff.1 tripled with same | inside
    · obtain rfl : ['?', '?'] = front := (List.cons.inj same).2
      refine ⟨List.replicate (room + 1) '?', ?_, .inl rfl⟩
      have short : room = 0 ∨ room = 1 := by omega
      rcases short with rfl | rfl <;> decide
    · exact ⟨front, List.prefix_rfl, .inr (.inr inside)⟩

theorem EndsAtFault.query_cons (ends : EndsAtFault room front) :
    EndsAtFault (room + 1) ('?' :: front) := by
  rcases ends with rfl | starred | tripled
  · exact .inl rfl
  · exact .inr (.inl (starred.trans (List.suffix_cons _ _)))
  · exact .inr (.inr (tripled.trans (List.suffix_cons _ _)))

/-- Behind a star there is room for one. -/
theorem endsAtFault_star_cons : EndsAtFault room ('*' :: front) ↔ EndsAtFault 1 front := by
  unfold EndsAtFault
  rw [List.suffix_cons_iff, List.suffix_cons_iff]
  simp [List.replicate_succ, eq_comm, or_assoc]

/-- Behind any other character there is room for two, so only a third is at fault. -/
theorem endsAtFault_cons {c : Char} (noStar : c ≠ '*') (noQuery : c ≠ '?') :
    EndsAtFault room (c :: front) ↔ EndsAtFault 2 front := by
  have third : front = List.replicate 3 '?' → "???".toList <:+ front := by
    rintro rfl
    exact List.suffix_rfl
  unfold EndsAtFault
  rw [List.suffix_cons_iff, List.suffix_cons_iff]
  simp only [List.replicate_succ, String.reduceToList, List.cons.injEq, noQuery, Ne.symm noStar, Ne.symm noQuery,
    false_and, false_or]
  exact ⟨.inr, fun ends => ends.elim (fun same => .inr (third same)) id⟩

theorem forall_prefix_cons {c : Char} {p : Text → Prop} :
    (∀ shorter, shorter <+: c :: body → p shorter) ↔
      p [] ∧ ∀ shorter, shorter <+: body → p (c :: shorter) := by
  constructor
  · intro every
    refine ⟨every [] List.nil_prefix, ?_⟩
    intro shorter inside
    exact every _ (List.cons_prefix_cons.2 ⟨rfl, inside⟩)
  · rintro ⟨empty, longer⟩ front inside
    rcases List.prefix_cons_iff.1 inside with rfl | ⟨shorter, rfl, begins⟩
    · exact empty
    · exact longer shorter begins

/-- What a search for the first question mark at fault says. -/
def Searches (room : Nat) (body : Text) : Option Text → Prop
  | none => ∀ front, front <+: body → ¬ EndsAtFault room front
  | some before => ∃ behind, FirstFault room body before behind

/-- A character in front moves what is at fault, if it makes the room that the search behind it has. -/
theorem Searches.cons {c : Char} {room' : Nat} {result : Option Text}
    (searches : Searches room' body result)
    (later : ∀ front, EndsAtFault room' front → EndsAtFault room (c :: front))
    (earlier : ∀ front, EndsAtFault room (c :: front) →
      ∃ shorter, shorter <+: front ∧ EndsAtFault room' shorter) :
    Searches room (c :: body) (result.map (c :: ·)) := by
  cases result with
  | none =>
    refine forall_prefix_cons.2 ⟨not_endsAtFault_nil, ?_⟩
    intro front inside ends
    obtain ⟨shorter, begins, ends⟩ := earlier front ends
    exact searches shorter (begins.trans inside) ends
  | some before =>
    obtain ⟨behind, found⟩ := searches
    refine ⟨behind, by rw [found.split]; rfl, later _ found.atFault, ?_⟩
    refine forall_prefix_cons.2 ⟨not_endsAtFault_nil, ?_⟩
    intro front inside ends
    obtain ⟨shorter, begins, ends⟩ := earlier front ends
    exact found.first shorter (begins.trans inside) ends

/-- The search finds the first question mark that is at fault, and nothing where none is. -/
theorem searches_beforeFault (small : room ≤ 2) (body : Text) :
    Searches room body (beforeFault room body) := by
  fun_induction beforeFault room body with
  | case1 =>
    intro front inside
    rw [List.prefix_nil.1 inside]
    exact not_endsAtFault_nil
  | case2 rest =>
    refine ⟨rest, rfl, .inl rfl, ?_⟩
    intro front inside
    rw [List.prefix_nil.1 inside]
    exact not_endsAtFault_nil
  | case3 room rest ih =>
    exact (ih (by omega)).cons (fun _ => EndsAtFault.query_cons)
      fun _ => exists_endsAtFault_of_query_cons (by omega)
  | case4 room rest ih =>
    exact (ih (by omega)).cons (fun _ => endsAtFault_star_cons.2)
      fun front ends => ⟨front, List.prefix_rfl, endsAtFault_star_cons.1 ends⟩
  | case5 room c rest first next star ih =>
    have noStar : c ≠ '*' := fun same => star same
    have noQuery : c ≠ '?' := by
      rintro rfl
      cases room with
      | zero => exact first rfl rfl
      | succ room => exact next room rfl rfl
    exact (ih (by omega)).cons (fun _ => (endsAtFault_cons noStar noQuery).2)
      fun front ends => ⟨front, List.prefix_rfl, (endsAtFault_cons noStar noQuery).1 ends⟩

end Room

section Parsing

/-- Why something was refused, if it was. -/
def refusal? {ε α : Type} : Except ε α → Option ε
  | .ok _ => none
  | .error e => some e

theorem refusal?_map {ε α β : Type} (f : α → β) (x : Except ε α) : refusal? (x.map f) = refusal? x := by
  cases x with
  | ok a => rfl
  | error e => rfl

theorem refusal?_eq_some_iff {ε α : Type} {x : Except ε α} {e : ε} :
    refusal? x = some e ↔ x = .error e := by
  cases x with
  | ok a => simp [refusal?]
  | error e' => simp [refusal?]

/-- What is reported of a question mark at fault: the reason, and the place behind the text before it. -/
def faultBehind (position : Nat) (prior : Prior) (before : Text) : Cause × Nat :=
  (if prior = .start ∧ before = [] then .nothingToRepeat else .multipleRepeat,
    position + ((pieces before).flatMap Piece.expressionText).length)

theorem beforeFault_star (room : Nat) (rest : Text) :
    beforeFault room ('*' :: rest) = (beforeFault 1 rest).map ('*' :: ·) := by
  cases room with
  | zero => rfl
  | succ room => rfl

theorem beforeFault_cons {c : Char} (noStar : c ≠ '*') (noQuery : c ≠ '?') (room : Nat) (rest : Text) :
    beforeFault room (c :: rest) = (beforeFault 2 rest).map (c :: ·) := by
  rw [beforeFault]
  · exact noStar
  · exact fun _ => noQuery
  · exact fun _ _ => noQuery

theorem pieces_star_cons {rest : Text} (single : ∀ more, rest ≠ '*' :: more) :
    pieces ('*' :: rest) = .segmentRun :: pieces rest := by
  rw [pieces]
  exact single

theorem pieces_cons {c : Char} (noStar : c ≠ '*') (noQuery : c ≠ '?') (rest : Text) :
    pieces (c :: rest) = .char c :: pieces rest := by
  rw [pieces]
  · exact fun _ same _ => noStar same
  · exact noStar
  · exact noQuery

/-- The parser stops where the search does, and only there. The induction carries the unit before the
pieces, since a question mark looks back at it. -/
theorem refusal?_parse (position : Nat) (prior : Prior) (body : Text) :
    refusal? (parse position prior ((pieces body).flatMap Piece.lexemes ++ [(.finish, 2)])) =
      (beforeFault prior.room body).map (faultBehind position prior) := by
  fun_induction pieces body generalizing position prior with
  | case1 =>
    cases prior <;> rfl
  | case2 rest ih =>
    have step : refusal? (parse position prior
        ((.anyRun :: pieces rest).flatMap Piece.lexemes ++ [(.finish, 2)])) =
          refusal? (parse (position + 1 + 1) (.repeated ⟨.anyChar, .many⟩)
            ((pieces rest).flatMap Piece.lexemes ++ [(.finish, 2)])) := refusal?_map _ _
    rw [step, ih, beforeFault_star, beforeFault_star, Option.map_map, Option.map_map]
    apply Option.map_congr
    intro before _
    simp [faultBehind, pieces, Piece.expressionText]
    omega
  | case3 rest single ih =>
    have step : refusal? (parse position prior
        ((.segmentRun :: pieces rest).flatMap Piece.lexemes ++ [(.finish, 2)])) =
          refusal? (parse (position + 4 + 1) (.repeated ⟨.nonSlash, .many⟩)
            ((pieces rest).flatMap Piece.lexemes ++ [(.finish, 2)])) := refusal?_map _ _
    rw [step, ih, beforeFault_star, Option.map_map]
    apply Option.map_congr
    intro before found
    obtain ⟨behind, first⟩ := found ▸ searches_beforeFault (by decide : 1 ≤ 2) rest
    have alone : ∀ more, before ≠ '*' :: more := by
      rintro more rfl
      exact single (more ++ '?' :: behind) first.split
    simp [faultBehind, pieces_star_cons alone, Piece.expressionText]
    omega
  | case4 rest ih =>
    -- behind a question mark there is room for one less
    have step (taken : Prior) (took : prior.query = .ok taken) (room : prior.room = taken.room + 1)
        (begun : taken ≠ .start) :
        refusal? (parse position prior ((.query :: pieces rest).flatMap Piece.lexemes ++ [(.finish, 2)])) =
          (beforeFault prior.room ('?' :: rest)).map (faultBehind position prior) := by
      rw [List.flatMap_cons, Piece.lexemes, List.singleton_append, List.cons_append, parse, took, ih,
        room, beforeFault, Option.map_map]
      apply Option.map_congr
      intro before _
      simp [faultBehind, begun, pieces, Piece.expressionText]
      omega
    cases prior with
    | start => rfl
    | atom a => exact step _ rfl rfl Prior.noConfusion
    | repeated item => exact step _ rfl rfl Prior.noConfusion
    | settled item => rfl
  | case5 c rest pair noStar noQuery ih =>
    have step : refusal? (parse position prior
        ((.char c :: pieces rest).flatMap Piece.lexemes ++ [(.finish, 2)])) =
          refusal? (parse (position + if isSpecial c then 2 else 1) (.atom (.char c))
            ((pieces rest).flatMap Piece.lexemes ++ [(.finish, 2)])) := refusal?_map _ _
    rw [step, ih, beforeFault_cons noStar noQuery, Option.map_map]
    apply Option.map_congr
    intro before _
    by_cases special : isSpecial c = true
    · simp [faultBehind, pieces_cons noStar noQuery, Piece.expressionText, special]
      omega
    · simp [faultBehind, pieces_cons noStar noQuery, Piece.expressionText, special]
      omega

end Parsing

section Patterns

/-- A pattern taken apart: the expression text of what leads it, the room for question marks behind
that, and the body. -/
structure Parts where
  lead : Text
  room : Nat
  body : Text
  deriving DecidableEq, Repr

/-- A double star and a slash at the front are taken off. -/
def Parts.ofPattern (pattern : Text) : Parts :=
  match Text.after? "**/".toList pattern with
  | some body => ⟨"^(?:.*/)?".toList, 1, body⟩
  | none => ⟨"^".toList, 0, pattern⟩

/-- The patterns with a question mark too many: at the front, where leading directories take one, behind
a star, or as the third in sequence. -/
def Malformed (pattern : Text) : Prop :=
  match Text.after? "**/".toList pattern with
  | some body => "??".toList <+: body ∨ "*??".toList <:+: body ∨ "???".toList <:+: body
  | none => "?".toList <+: pattern ∨ "*??".toList <:+: pattern ∨ "???".toList <:+: pattern

/-- The fault of a pattern whose first question mark at fault stands behind `before` in the body. -/
def faultOf (pattern before : Text) : Fault where
  cause := if before = [] then .nothingToRepeat else .multipleRepeat
  position := ((Parts.ofPattern pattern).lead ++ bodyText before).length
  source := expressionText pattern

variable {pattern : Text}

theorem exists_endsAtFault_iff (room : Nat) (body : Text) :
    (∃ front, front <+: body ∧ EndsAtFault room front) ↔
      List.replicate (room + 1) '?' <+: body ∨ "*??".toList <:+: body ∨ "???".toList <:+: body := by
  simp only [EndsAtFault, List.infix_iff_suffix_prefix]
  constructor
  · rintro ⟨front, begins, rfl | starred | tripled⟩
    · exact .inl begins
    · exact .inr (.inl ⟨front, starred, begins⟩)
    · exact .inr (.inr ⟨front, tripled, begins⟩)
  · rintro (begins | ⟨front, starred, begins⟩ | ⟨front, tripled, begins⟩)
    · exact ⟨_, begins, .inl rfl⟩
    · exact ⟨front, begins, .inr (.inl starred)⟩
    · exact ⟨front, begins, .inr (.inr tripled)⟩

theorem malformed_iff : Malformed pattern ↔
    ∃ front, front <+: (Parts.ofPattern pattern).body ∧
      EndsAtFault (Parts.ofPattern pattern).room front := by
  rw [exists_endsAtFault_iff, Malformed, Parts.ofPattern]
  cases Text.after? "**/".toList pattern with
  | some body => rfl
  | none => rfl

theorem room_ofPattern_le (pattern : Text) : (Parts.ofPattern pattern).room ≤ 2 := by
  rw [Parts.ofPattern]
  cases Text.after? "**/".toList pattern with
  | some body => exact Nat.le_succ 1
  | none => exact Nat.zero_le 2

theorem expressionText_eq (pattern : Text) :
    expressionText pattern = (Parts.ofPattern pattern).lead ++
      bodyText (Parts.ofPattern pattern).body ++ "\\Z".toList := by
  rw [expressionText, Parts.ofPattern]
  cases Text.after? "**/".toList pattern with
  | some body => rfl
  | none => rfl

theorem clean_body (clean : '\x00' ∉ pattern) : '\x00' ∉ (Parts.ofPattern pattern).body := by
  rw [Parts.ofPattern]
  split
  · next body leading => exact nul_not_mem_of_leading clean leading
  · exact clean

/-- A question mark parts the pieces before it from those behind it. -/
theorem pieces_append_query (before behind : Text) :
    pieces (before ++ '?' :: behind) = pieces before ++ .query :: pieces behind := by
  fun_induction pieces before with
  | case1 => rfl
  | case2 rest ih => simp [pieces, ih]
  | case3 rest single ih =>
    have alone : ∀ more, rest ++ '?' :: behind ≠ '*' :: more := by
      intro more same
      cases rest with
      | nil => cases same
      | cons c rest => exact single rest (by rw [(List.cons.inj same).1])
    simp [pieces_star_cons alone, ih]
  | case4 rest ih => simp [pieces, ih]
  | case5 c rest pair noStar noQuery ih => simp [pieces_cons noStar noQuery, ih]

theorem bodyText_append_query {before behind : Text} (clean : '\x00' ∉ before ++ '?' :: behind) :
    bodyText (before ++ '?' :: behind) = bodyText before ++ '?' :: bodyText behind := by
  have front : '\x00' ∉ before := by
    intro member
    exact clean (List.mem_append_left _ member)
  have back : '\x00' ∉ behind := by
    intro member
    exact clean (List.mem_append_right _ (List.mem_cons_of_mem _ member))
  rw [bodyText_eq clean, bodyText_eq front, bodyText_eq back, pieces_append_query]
  simp [Piece.expressionText]

theorem refusal?_read (source : Text) :
    refusal? (Expression.read source) = (refusal? (parse 0 .start (lexemes source))).map fun reason =>
      { cause := reason.1, position := reason.2, source } := by
  rw [Expression.read]
  cases parse 0 .start (lexemes source) with
  | ok e => rfl
  | error reason => rfl

/-- A pattern is refused for what the search finds in its body. -/
theorem refusal?_compile (clean : '\x00' ∉ pattern) :
    refusal? (compile pattern) =
      (beforeFault (Parts.ofPattern pattern).room (Parts.ofPattern pattern).body).map
        (faultOf pattern) := by
  have cleanBefore {before : Text}
      (found : beforeFault (Parts.ofPattern pattern).room (Parts.ofPattern pattern).body = some before) :
      '\x00' ∉ before := by
    obtain ⟨behind, first⟩ := found ▸ searches_beforeFault (room_ofPattern_le pattern) _
    intro member
    exact clean_body clean (first.split ▸ List.mem_append_left _ member)
  rw [compile, refusal?_read]
  cases leading : Text.after? "**/".toList pattern with
  | some body =>
    have parts : Parts.ofPattern pattern = ⟨"^(?:.*/)?".toList, 1, body⟩ := by
      rw [Parts.ofPattern, leading]
    have led : refusal? (parse 0 .start ((.start, 1) :: (.atom .directories, 7) :: (.query, 1) ::
        ((pieces body).flatMap Piece.lexemes ++ [(.finish, 2)]))) =
          refusal? (parse 9 (.repeated ⟨.directories, .optional⟩)
            ((pieces body).flatMap Piece.lexemes ++ [(.finish, 2)])) := refusal?_map _ _
    rw [lexemes_of_leading clean leading, led, refusal?_parse, Option.map_map, parts]
    apply Option.map_congr
    intro before found
    obtain ⟨behind, first⟩ := found ▸ searches_beforeFault (by decide : 1 ≤ 2) body
    have longer : before ≠ [] := by
      rintro rfl
      exact absurd first.atFault (by decide)
    rw [parts] at cleanBefore
    simp [faultBehind, faultOf, parts, longer, bodyText_eq (cleanBefore found)]
    omega
  | none =>
    have parts : Parts.ofPattern pattern = ⟨"^".toList, 0, pattern⟩ := by
      rw [Parts.ofPattern, leading]
    have begun : refusal? (parse 0 .start ((.start, 1) ::
        ((pieces pattern).flatMap Piece.lexemes ++ [(.finish, 2)]))) =
          refusal? (parse 1 .start ((pieces pattern).flatMap Piece.lexemes ++ [(.finish, 2)])) := rfl
    rw [lexemes_of_plain clean leading, begun, refusal?_parse, Option.map_map, parts]
    apply Option.map_congr
    intro before found
    rw [parts] at cleanBefore
    simp [faultBehind, faultOf, parts, bodyText_eq (cleanBefore found)]
    omega

/-- Exactly the malformed patterns are refused. -/
theorem refusal?_compile_eq_none_iff (clean : '\x00' ∉ pattern) :
    refusal? (compile pattern) = none ↔ ¬ Malformed pattern := by
  rw [refusal?_compile clean, Option.map_eq_none_iff, malformed_iff]
  have searched := searches_beforeFault (room_ofPattern_le pattern) (Parts.ofPattern pattern).body
  cases found : beforeFault (Parts.ofPattern pattern).room (Parts.ofPattern pattern).body with
  | none =>
    rw [found] at searched
    refine iff_of_true rfl ?_
    rintro ⟨front, begins, ends⟩
    exact searched front begins ends
  | some before =>
    obtain ⟨behind, first⟩ := found ▸ searched
    refine iff_of_false (Option.some_ne_none before) (not_not.2 ⟨before ++ ['?'], ?_, first.atFault⟩)
    rw [first.split]
    exact ⟨behind, by simp⟩

theorem exists_compile_error_iff (clean : '\x00' ∉ pattern) :
    (∃ fault, compile pattern = .error fault) ↔ Malformed pattern := by
  simp only [← refusal?_eq_some_iff, ← Option.isSome_iff_exists]
  rw [Option.isSome_iff_ne_none, ne_eq, refusal?_compile_eq_none_iff clean, not_not]

theorem query_mem_of_malformed (malformed : Malformed pattern) : '?' ∈ pattern := by
  have inside {word body : Text} (held : '?' ∈ word) (within : word <:+: body)
      (below : body <:+: pattern) : '?' ∈ pattern := below.subset (within.subset held)
  unfold Malformed at malformed
  split at malformed
  · next body leading =>
    have below : body <:+: pattern := ⟨"**/".toList, [], by simp [Text.after?_eq_some_iff.1 leading]⟩
    rcases malformed with begins | starred | tripled
    · exact inside (by decide) begins.isInfix below
    · exact inside (by decide) starred below
    · exact inside (by decide) tripled below
  · rcases malformed with begins | starred | tripled
    · exact inside (by decide) begins.isInfix List.infix_rfl
    · exact inside (by decide) starred List.infix_rfl
    · exact inside (by decide) tripled List.infix_rfl

theorem exists_compile_of_not_malformed (clean : '\x00' ∉ pattern) (sound : ¬ Malformed pattern) :
    ∃ e, compile pattern = .ok e := by
  cases compiled : compile pattern with
  | ok e => exact ⟨e, rfl⟩
  | error fault => exact absurd ((exists_compile_error_iff clean).1 ⟨fault, compiled⟩) sound

theorem exists_compile_of_query_not_mem (clean : '\x00' ∉ pattern) (noQuery : '?' ∉ pattern) :
    ∃ e, compile pattern = .ok e :=
  exists_compile_of_not_malformed clean fun malformed => noQuery (query_mem_of_malformed malformed)

/-- A pattern is refused for its first question mark that is at fault, at the place of this mark in the
expression text. -/
theorem exists_firstFault_of_compile (clean : '\x00' ∉ pattern) {fault : Fault}
    (failed : compile pattern = .error fault) :
    ∃ before behind,
      FirstFault (Parts.ofPattern pattern).room (Parts.ofPattern pattern).body before behind ∧
        expressionText pattern = (Parts.ofPattern pattern).lead ++ bodyText before ++
          '?' :: (bodyText behind ++ "\\Z".toList) ∧
        fault = faultOf pattern before := by
  rw [← refusal?_eq_some_iff, refusal?_compile clean, Option.map_eq_some_iff] at failed
  obtain ⟨before, found, rfl⟩ := failed
  obtain ⟨behind, first⟩ := found ▸ searches_beforeFault (room_ofPattern_le pattern) _
  refine ⟨before, behind, first, ?_, rfl⟩
  have clean := clean_body clean
  rw [first.split] at clean
  rw [expressionText_eq, first.split, bodyText_append_query clean]
  simp

end Patterns

section Lists

variable {paths patterns : List Text}

/-- A sequence of steps ends with the first refusal. -/
theorem refusal?_mapM {ε α β : Type} (f : α → Except ε β) (l : List α) :
    refusal? (l.mapM f) = l.findSome? fun a => refusal? (f a) := by
  induction l with
  | nil => rfl
  | cons a l ih =>
    rw [List.mapM_cons, List.findSome?_cons]
    cases f a with
    | error e => rfl
    | ok b =>
      rw [refusal?, ← ih]
      exact refusal?_map (b :: ·) (l.mapM f)

/-- Whatever the paths, ignore patterns are refused for the first that is refused. -/
theorem refusal?_filterIgnored (paths patterns : List Text) :
    refusal? (filterIgnored paths patterns) = patterns.findSome? fun pattern => refusal? (compile pattern) := by
  rw [← refusal?_mapM]
  exact refusal?_map _ (patterns.mapM compile)

theorem exists_filterIgnored_error_iff (clean : ∀ pattern ∈ patterns, '\x00' ∉ pattern) :
    (∃ fault, filterIgnored paths patterns = .error fault) ↔ ∃ pattern ∈ patterns, Malformed pattern := by
  simp only [← refusal?_eq_some_iff, ← Option.isSome_iff_exists]
  rw [refusal?_filterIgnored, List.findSome?_isSome_iff]
  refine exists_congr fun pattern => and_congr_right fun member => ?_
  rw [← exists_compile_error_iff (clean pattern member), Option.isSome_iff_exists]
  simp only [refusal?_eq_some_iff]

theorem exists_first_of_filterIgnored (clean : ∀ pattern ∈ patterns, '\x00' ∉ pattern) {fault : Fault}
    (failed : filterIgnored paths patterns = .error fault) :
    ∃ before pattern behind, patterns = before ++ pattern :: behind ∧
      (∀ earlier ∈ before, ¬ Malformed earlier) ∧ Malformed pattern ∧
      compile pattern = .error fault := by
  rw [← refusal?_eq_some_iff, refusal?_filterIgnored, List.findSome?_eq_some_iff] at failed
  obtain ⟨before, pattern, behind, rfl, found, accepted⟩ := failed
  rw [refusal?_eq_some_iff] at found
  have malformed := (exists_compile_error_iff (clean pattern (by simp))).1 ⟨fault, found⟩
  refine ⟨before, pattern, behind, rfl, ?_, malformed, found⟩
  intro earlier member
  rw [← refusal?_compile_eq_none_iff (clean earlier (by simp [member]))]
  exact accepted earlier member

/-- A pattern without the marker character is refused exactly if it is malformed, for its first question
mark that is at fault and at the place of this mark in its expression text. So a list of ignore patterns is
refused exactly if one of them is malformed, whatever the paths are, and with the fault of the first. -/
theorem refused_iff_malformed (clean : ∀ pattern ∈ patterns, '\x00' ∉ pattern) :
    (∀ pattern ∈ patterns,
      ((∃ fault, compile pattern = .error fault) ↔ Malformed pattern) ∧
        ∀ fault, compile pattern = .error fault →
          ∃ before behind, FirstFault (Parts.ofPattern pattern).room (Parts.ofPattern pattern).body
              before behind ∧
            expressionText pattern = (Parts.ofPattern pattern).lead ++ bodyText before ++
              '?' :: (bodyText behind ++ "\\Z".toList) ∧
            fault = faultOf pattern before) ∧
      ((∃ fault, filterIgnored paths patterns = .error fault) ↔
        ∃ pattern ∈ patterns, Malformed pattern) ∧
      ∀ fault, filterIgnored paths patterns = .error fault →
        ∃ before pattern behind, patterns = before ++ pattern :: behind ∧
          (∀ earlier ∈ before, ¬ Malformed earlier) ∧ Malformed pattern ∧
          compile pattern = .error fault := by
  refine ⟨?_, exists_filterIgnored_error_iff clean, fun fault => exists_first_of_filterIgnored clean⟩
  intro pattern member
  exact ⟨exists_compile_error_iff (clean pattern member),
    fun fault => exists_firstFault_of_compile (clean pattern member)⟩

/-- Leading directories and a lazy star take one question mark each; a list without paths is refused. -/
theorem refused_iff_malformed_lazyStar :
    let patterns := ["src/*?.ts".toList, "**/?b*??".toList]
    (∀ pattern ∈ patterns, '\x00' ∉ pattern) ∧ Malformed "**/?b*??".toList ∧
      (∃ fault, filterIgnored [] patterns = .error fault) ∧
      compile "**/?b*??".toList = .error (faultOf "**/?b*??".toList "?b*?".toList) :=
  have clean : ∀ pattern ∈ ["src/*?.ts".toList, "**/?b*??".toList], '\x00' ∉ pattern := by decide
  have malformed : Malformed "**/?b*??".toList := .inr (.inl (by decide))
  ⟨clean, malformed, (refused_iff_malformed clean).2.1.2 ⟨_, by simp, malformed⟩, by decide +kernel⟩

end Lists

end TagOrigin.Glob
