import Mathlib.Data.List.Basic
import TagOrigin.Filter

/-!
What accepted ignore patterns do, whatever characters they hold. Patterns that all compile are never
refused, and the filter keeps exactly the paths that no pattern matches, neither as a whole nor by the
last component.
-/
namespace TagOrigin

open Glob

variable {pattern path : Text} {paths patterns : List Text}

/-- A pattern matches a path or its last component. -/
def Ignores (pattern path : Text) : Prop :=
  pathMatches path pattern = .ok true ∨ pathMatches (baseName path) pattern = .ok true

instance (pattern path : Text) : Decidable (Ignores pattern path) :=
  inferInstanceAs (Decidable (pathMatches path pattern = .ok true ∨
    pathMatches (baseName path) pattern = .ok true))

theorem isIgnoredBy_iff_ignores {e : Expression} (compiled : compile pattern = .ok e) (path : Text) :
    isIgnoredBy path e = true ↔ Ignores pattern path := by
  simp [isIgnoredBy, Ignores, pathMatches_of_compile compiled]

/-- An accepted pattern has a verdict on a path and on its last component. -/
theorem not_ignores_iff (accepted : ∃ e, compile pattern = .ok e) (path : Text) :
    ¬ Ignores pattern path ↔
      pathMatches path pattern = .ok false ∧ pathMatches (baseName path) pattern = .ok false := by
  obtain ⟨e, compiled⟩ := accepted
  simp [Ignores, pathMatches_of_compile compiled]

section Lists

variable (accepted : ∀ pattern ∈ patterns, ∃ e, compile pattern = .ok e)
include accepted

/-- Accepted patterns are compiled all together, and some expression ignores a path exactly if some
pattern does. -/
theorem exists_mapM_compile :
    ∃ es, patterns.mapM compile = .ok es ∧
      ∀ path, es.any (isIgnoredBy path) = true ↔ ∃ pattern ∈ patterns, Ignores pattern path := by
  induction patterns with
  | nil => exact ⟨[], rfl, by simp⟩
  | cons pattern patterns ih =>
    obtain ⟨⟨e, compiled⟩, later⟩ := List.forall_mem_cons.1 accepted
    obtain ⟨es, others, ignored⟩ := ih later
    refine ⟨e :: es, by rw [List.mapM_cons, compiled, others]; rfl, ?_⟩
    intro path
    rw [List.any_cons, Bool.or_eq_true, isIgnoredBy_iff_ignores compiled, ignored]
    simp

/-- Accepted patterns drop exactly the paths that one of them ignores. -/
theorem filterIgnored_of_accepted : filterIgnored paths patterns =
    .ok (paths.filter fun path => ∀ pattern ∈ patterns, ¬ Ignores pattern path) := by
  obtain ⟨es, compiled, ignored⟩ := exists_mapM_compile accepted
  have kept : paths.filter (fun path => !es.any (isIgnoredBy path)) =
      paths.filter fun path => ∀ pattern ∈ patterns, ¬ Ignores pattern path := by
    apply List.filter_congr
    intro path _
    rw [Bool.eq_iff_iff, Bool.not_eq_true', Bool.eq_false_iff, ne_eq, ignored, decide_eq_true_iff]
    simp
  rw [filterIgnored, compiled, ← kept]
  rfl

end Lists

end TagOrigin
