import TagOrigin.Proofs.Glob.Items
import TagOrigin.Proofs.Glob.Rows

/-!
The language of a pattern. `Reads` and `Denotes` say what a pattern stands for, directly and from
left to right, without expressions, rows or a matcher. Every accepted pattern that holds no marker
character gives a verdict on every path, and the verdict is yes exactly for the paths in its
language, as a whole.
-/
namespace TagOrigin.Glob

/-- The texts that a sequence of pieces stands for. -/
inductive Reads : List Piece → Text → Prop where
  | done : Reads [] []
  | anyRun {run t : Text} {ps : List Piece} :
      '\n' ∉ run → Reads ps t → Reads (.anyRun :: ps) (run ++ t)
  | segmentRun {run t : Text} {ps : List Piece} :
      '/' ∉ run → Reads ps t → Reads (.segmentRun :: ps) (run ++ t)
  | char {c : Char} {t : Text} {ps : List Piece} :
      ps.head? ≠ some .query → Reads ps t → Reads (.char c :: ps) (c :: t)
  /-- A character before a question mark may stand. -/
  | present {c : Char} {t : Text} {ps : List Piece} :
      Reads ps t → Reads (.char c :: .query :: ps) (c :: t)
  /-- A character before a question mark may be missing. -/
  | absent {c : Char} {t : Text} {ps : List Piece} :
      Reads ps t → Reads (.char c :: .query :: ps) t
  /-- Anywhere else a question mark says nothing. -/
  | query {t : Text} {ps : List Piece} : Reads ps t → Reads (.query :: ps) t

/-- The paths that a pattern stands for. A double star and a slash at its front stand for nothing or
for a run without line feeds and a slash. -/
def Denotes (pattern path : Text) : Prop :=
  match Text.after? "**/".toList pattern with
  | some body =>
    ∃ lead rest, path = lead ++ rest ∧ (lead = [] ∨ ∃ run, '\n' ∉ run ∧ lead = run ++ ['/']) ∧
      Reads (pieces body) rest
  | none => Reads (pieces pattern) path

section Inversion

variable {ps : List Piece} {t : Text} {c : Char}

theorem reads_nil_iff : Reads [] t ↔ t = [] := by
  constructor
  · intro reads
    cases reads
    rfl
  · rintro rfl
    exact .done

theorem reads_anyRun_iff : Reads (.anyRun :: ps) t ↔ Then ('\n' ∉ ·) (Reads ps) t := by
  constructor
  · intro reads
    cases reads with
    | anyRun clean later => exact ⟨_, _, rfl, clean, later⟩
  · rintro ⟨run, rest, rfl, clean, later⟩
    exact .anyRun clean later

theorem reads_segmentRun_iff : Reads (.segmentRun :: ps) t ↔ Then ('/' ∉ ·) (Reads ps) t := by
  constructor
  · intro reads
    cases reads with
    | segmentRun clean later => exact ⟨_, _, rfl, clean, later⟩
  · rintro ⟨run, rest, rfl, clean, later⟩
    exact .segmentRun clean later

theorem reads_query_iff : Reads (.query :: ps) t ↔ Reads ps t := by
  constructor
  · intro reads
    cases reads with
    | query later => exact later
  · exact .query

theorem reads_optional_iff :
    Reads (.char c :: .query :: ps) t ↔ Reads ps t ∨ Then (· = [c]) (Reads ps) t := by
  constructor
  · intro reads
    cases reads with
    | char plain _ => exact absurd rfl plain
    | present later => exact .inr ⟨[c], _, rfl, rfl, later⟩
    | absent later => exact .inl later
  · rintro (later | ⟨u, rest, rfl, rfl, later⟩)
    · exact .absent later
    · exact .present later

theorem reads_char_iff (plain : ps.head? ≠ some .query) :
    Reads (.char c :: ps) t ↔ Then (· = [c]) (Reads ps) t := by
  constructor
  · intro reads
    cases reads with
    | char _ later => exact ⟨[c], _, rfl, rfl, later⟩
    | present _ => exact absurd rfl plain
    | absent _ => exact absurd rfl plain
  · rintro ⟨u, rest, rfl, rfl, later⟩
    exact .char plain later

end Inversion

section Classes

variable (u : Text)

theorem anyChar_run_iff : Item.Spells ⟨.anyChar, .many⟩ u ↔ '\n' ∉ u := by
  rw [Item.many_spells_iff (by simp)]
  simp [Run, Atom.admits, List.forall_mem_ne']

theorem nonSlash_run_iff : Item.Spells ⟨.nonSlash, .many⟩ u ↔ '/' ∉ u := by
  rw [Item.many_spells_iff (by simp)]
  simp [Run, Atom.admits, List.forall_mem_ne']

theorem char_spells_iff (c : Char) : Atom.Spells (.char c) u ↔ u = [c] := by
  simp [Atom.Spells, Atom.admits]

end Classes

theorem Then.congr_right {first rest rest' : Text → Prop} {t : Text}
    (same : ∀ v, rest v ↔ rest' v) : Then first rest t ↔ Then first rest' t := by
  unfold Then
  simp only [same]

/-- The items of the pieces spell what the pieces stand for. The cases are those in which items are
taken, so a character is seen together with the question mark behind it. -/
theorem spells_itemsOf_iff (ps : List Piece) (t : Text) :
    Expression.Spells (itemsOf ps) t ↔ Reads ps t := by
  fun_induction itemsOf ps generalizing t with
  | case1 => exact reads_nil_iff.symm
  | case2 ps ih =>
    rw [reads_anyRun_iff, ← Then.congr_left anyChar_run_iff]
    exact Then.congr_right ih
  | case3 ps ih =>
    rw [reads_segmentRun_iff, ← Then.congr_left nonSlash_run_iff]
    exact Then.congr_right ih
  | case4 ps ih => exact (ih t).trans reads_query_iff.symm
  | case5 c ps ih =>
    rw [reads_optional_iff, ← ih, ← Then.congr_right ih,
      ← Then.congr_left fun u => char_spells_iff u c]
    exact optional_then_iff
  | case6 c ps plain ih =>
    have unmarked : ps.head? ≠ some .query := by
      cases ps with
      | nil => simp
      | cons piece ps =>
        intro marked
        exact plain ps (by rw [Option.some.inj marked])
    rw [reads_char_iff unmarked, ← Then.congr_left fun u => char_spells_iff u c]
    exact Then.congr_right ih

/-- The items of a whole pattern spell its language. -/
theorem spells_patternItems_iff (pattern path : Text) :
    Expression.Spells (patternItems pattern) path ↔ Denotes pattern path := by
  unfold patternItems Denotes
  cases Text.after? "**/".toList pattern with
  | some body => exact Then.congr_right (spells_itemsOf_iff (pieces body))
  | none => exact spells_itemsOf_iff (pieces pattern) path

theorem accepts_iff_denotes {pattern : Text} {e : Expression} (clean : '\x00' ∉ pattern)
    (accepted : compile pattern = .ok e) (path : Text) : e.accepts path = true ↔ Denotes pattern path := by
  rw [Expression.accepts_iff, eq_patternItems_of_compile clean accepted, spells_patternItems_iff]

/-- An accepted pattern decides its language, for every path. -/
theorem pathMatches_iff_denotes {pattern : Text} {e : Expression} (clean : '\x00' ∉ pattern)
    (accepted : compile pattern = .ok e) (path : Text) :
    ∃ verdict, pathMatches path pattern = .ok verdict ∧ (verdict = true ↔ Denotes pattern path) := by
  refine ⟨e.accepts path, by rw [pathMatches, accepted]; rfl, ?_⟩
  rw [Expression.accepts_iff, eq_patternItems_of_compile clean accepted, spells_patternItems_iff]

/-- Stars in sequence, an optional point, an idle question mark and leading directories at once. -/
theorem pathMatches_mixed_pattern :
    '\x00' ∉ "**/a***.?(*?".toList ∧
      ∃ verdict, pathMatches "x/y/ab/c(\n".toList "**/a***.?(*?".toList = .ok verdict ∧
        (verdict = true ↔ Denotes "**/a***.?(*?".toList "x/y/ab/c(\n".toList) :=
  ⟨by decide, pathMatches_iff_denotes (by decide) rfl _⟩

end TagOrigin.Glob
