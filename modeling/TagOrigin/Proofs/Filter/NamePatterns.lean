import TagOrigin.Proofs.Filter.Exclusion
import TagOrigin.Proofs.Filter.LastComponent

/-!
Patterns for names. A pattern without slashes and double stars stands for texts without slashes only,
so of a path it can match nothing but the last component. Whether it drops a path is decided by the last
component alone, wherever the path lies.
-/
namespace TagOrigin

open Glob

namespace Glob

variable {ps : List Piece} {body t : Text}

/-- Two stars in the pieces stand together in the pattern. -/
theorem doubleStar_infix_of_anyRun_mem (member : .anyRun ∈ pieces body) : "**".toList <:+: body := by
  fun_induction pieces body with
  | case1 => cases member
  | case2 rest _ => exact ⟨[], rest, rfl⟩
  | case3 rest _ ih => exact (ih (by simpa using member)).trans (List.suffix_cons _ _).isInfix
  | case4 rest ih => exact (ih (by simpa using member)).trans (List.suffix_cons _ _).isInfix
  | case5 c rest _ _ _ ih => exact (ih (by simpa using member)).trans (List.suffix_cons _ _).isInfix

/-- A character that no piece can stand for occurs in nothing that the pieces stand for. A run within a
component holds no slash, so only two stars or the slash itself could bring one in. -/
theorem slash_not_mem_of_reads (reads : Reads ps t) (narrow : .anyRun ∉ ps) (literal : .char '/' ∉ ps) :
    '/' ∉ t := by
  induction reads with
  | done => exact List.not_mem_nil
  | anyRun _ _ _ => exact absurd List.mem_cons_self narrow
  | segmentRun clean _ ih =>
    simp only [List.mem_cons, not_or] at narrow literal
    simp [clean, ih narrow.2 literal.2]
  | char _ _ ih =>
    simp only [List.mem_cons, not_or, Piece.char.injEq] at narrow literal
    simp [literal.1, ih narrow.2 literal.2]
  | present _ ih =>
    simp only [List.mem_cons, not_or, Piece.char.injEq] at narrow literal
    simp [literal.1, ih narrow.2.2 literal.2.2]
  | absent _ ih =>
    simp only [List.mem_cons, not_or] at narrow literal
    exact ih narrow.2.2 literal.2.2
  | query _ ih =>
    simp only [List.mem_cons, not_or] at narrow literal
    exact ih narrow.2 literal.2

end Glob

/-- A pattern for the last component of a path. -/
structure IsNamePattern (pattern : Text) : Prop where
  slash : '/' ∉ pattern
  narrow : ¬ "**".toList <:+: pattern
  nul : '\x00' ∉ pattern

instance (pattern : Text) : Decidable (IsNamePattern pattern) :=
  decidable_of_iff ('/' ∉ pattern ∧ ¬ "**".toList <:+: pattern ∧ '\x00' ∉ pattern)
    ⟨fun ⟨slash, narrow, nul⟩ => { slash, narrow, nul }, fun h => ⟨h.slash, h.narrow, h.nul⟩⟩

variable {pattern path : Text} {patterns : List Text}

namespace IsNamePattern

/-- What a name pattern stands for lies in one component. -/
theorem slash_not_mem_of_denotes (named : IsNamePattern pattern) (denotes : Denotes pattern path) :
    '/' ∉ path := by
  have plain : Text.after? "**/".toList pattern = none := by
    rw [Text.after?_eq_none_iff]
    intro front
    exact named.slash (front.subset (by decide))
  rw [Denotes, plain] at denotes
  apply slash_not_mem_of_reads denotes
  · exact fun member => named.narrow (doubleStar_infix_of_anyRun_mem member)
  · exact fun member => named.slash (of_char_mem_pieces member).1

/-- A name pattern that stands for a path stands for its last component, which is the whole path. -/
theorem excludes_iff (named : IsNamePattern pattern) :
    Excludes pattern path ↔ Denotes pattern (baseName path) := by
  constructor
  · intro excludes
    rcases excludes with whole | base
    · rwa [baseName_of_not_mem (named.slash_not_mem_of_denotes whole)]
    · exact base
  · exact .inr

theorem ignores_iff (named : IsNamePattern pattern) (accepted : ∃ e, compile pattern = .ok e) :
    Ignores pattern path ↔ pathMatches (baseName path) pattern = .ok true := by
  rw [ignores_iff_excludes named.nul accepted, named.excludes_iff]
  obtain ⟨e, compiled⟩ := accepted
  rw [pathMatches_of_compile compiled, Except.ok.injEq, accepts_iff_denotes named.nul compiled]

end IsNamePattern

/-- Name patterns keep the paths of which they match no last component. -/
theorem filterIgnored_of_isNamePattern (named : ∀ pattern ∈ patterns, IsNamePattern pattern)
    (accepted : ∀ pattern ∈ patterns, ∃ e, compile pattern = .ok e) (paths : List Text) :
    filterIgnored paths patterns = .ok (paths.filter fun path =>
      ∀ pattern ∈ patterns, pathMatches (baseName path) pattern ≠ .ok true) := by
  rw [filterIgnored_of_accepted accepted]
  congr 1
  apply List.filter_congr
  intro path _
  rw [decide_eq_decide]
  exact forall₂_congr fun pattern listed =>
    not_congr ((named pattern listed).ignores_iff (accepted pattern listed))

/-- An accepted name pattern drops a path exactly if it matches its last component. So of several paths
with one last component it keeps all or none, in every list and in whatever directories they lie. -/
theorem filterIgnored_namePattern (named : IsNamePattern pattern)
    (accepted : ∃ e, compile pattern = .ok e) (path : Text) :
    ∃ verdict, pathMatches (baseName path) pattern = .ok verdict ∧
      filterIgnored [path] [pattern] = .ok (if verdict then [] else [path]) ∧
      ∀ paths other, baseName other = baseName path → path ∈ paths → other ∈ paths →
        ∃ kept, filterIgnored paths [pattern] = .ok kept ∧ (path ∈ kept ↔ verdict = false) ∧
          (other ∈ kept ↔ verdict = false) := by
  obtain ⟨e, compiled⟩ := id accepted
  have verdict (t : Text) := pathMatches_of_compile compiled t
  have filtered := filterIgnored_of_isNamePattern (List.forall_mem_singleton.2 named)
    (List.forall_mem_singleton.2 accepted)
  simp only [List.forall_mem_singleton, verdict, ne_eq, Except.ok.injEq, Bool.not_eq_true] at filtered
  refine ⟨e.accepts (baseName path), verdict _, ?_, ?_⟩
  · rw [filtered]
    cases dropped : e.accepts (baseName path) <;> simp [dropped]
  · intro paths other same member member'
    refine ⟨_, filtered paths, ?_, ?_⟩
    · simp [member]
    · simp [member', same]

/-- A lazy star, an optional point and a bracket; the directory of the path has a name that the pattern
matches as well. -/
theorem filterIgnored_namePattern_lazyStar :
    let pattern := "*?[.?ts".toList
    let path := "src/a[ts/b[.ts".toList
    IsNamePattern pattern ∧ (∃ e, compile pattern = .ok e) ∧
      pathMatches (baseName path) pattern = .ok true ∧ filterIgnored [path] [pattern] = .ok [] := by
  have named : IsNamePattern "*?[.?ts".toList := by decide
  have accepted : ∃ e, compile "*?[.?ts".toList = .ok e := ⟨_, rfl⟩
  obtain ⟨verdict, decided, filtered, _⟩ :=
    filterIgnored_namePattern named accepted "src/a[ts/b[.ts".toList
  have dropped : verdict = true := Except.ok.inj (decided.symm.trans (by decide))
  subst dropped
  exact ⟨named, accepted, decided, filtered⟩

end TagOrigin
