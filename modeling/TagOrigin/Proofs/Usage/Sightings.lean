import TagOrigin.Proofs.Encoding.Ascii
import TagOrigin.Proofs.Usage.Grouping

/-!
Sightings: what remains of usages without the text around them and without their origins, the names
with their lines. They can be read off a text character by character. Characters beyond ASCII take no
part in a tag and end no line, so texts that differ in runs of these alone have the same sightings.
-/
namespace TagOrigin

namespace Usage

/-- The name and the line. -/
def sight (usage : Usage) : Text × Nat := (usage.name, usage.line)

/-- The sightings of a text whose first line has the number `line`. -/
def sights : Nat → Text → List (Text × Nat)
  | _, [] => []
  | line, c :: t =>
    (opened? (c :: t)).toList.map (·, line) ++ sights (if c = '\n' then line + 1 else line) t

theorem map_atOffset_eq_sights (origin : Text → Option Text) (line : Nat) (t : Text) :
    ((offsets t).map (atOffset origin line t)).map sight = sights line t := by
  induction t generalizing line with
  | nil => rfl
  | cons c t ih =>
    have later (i : Nat) : sight (atOffset origin line (c :: t) (i + 1)) =
        sight (atOffset origin (if c = '\n' then line + 1 else line) t i) := by
      simp only [sight, atOffset, List.take_succ_cons, List.count_cons]
      refine Prod.ext rfl ?_
      by_cases feed : c = '\n'
      · simp [feed]
        omega
      · simp [feed]
    rw [sights, ← ih, offsets_cons, List.map_append, List.map_append]
    refine congrArg₂ (· ++ ·) ?_ ?_
    · rw [opened?_eq]
      split <;> rfl
    · simp only [List.map_map]
      exact List.map_congr_left fun i _ => later i

theorem map_sight_ofText (bindings : Import.Bindings) (t : Text) :
    (ofText bindings t).map sight = sights 1 t := by
  rw [ofText_eq, map_atOffset_eq_sights]

section Foreign

theorem lt_of_isTagChar {c : Char} (inside : isTagChar c = true) : c.toNat < 0x80 := by
  rw [isTagChar, Bool.or_eq_true, beq_iff_eq] at inside
  rcases inside with letter | rfl
  · have code := Text.code_of_isAlphanum letter
    omega
  · decide

theorem isTagChar_of_isForeign {c : Char} (foreign : IsForeign c) : isTagChar c = false := by
  rw [← Bool.not_eq_true]
  exact fun inside => absurd (lt_of_isTagChar inside) (Nat.not_lt.2 foreign)

/-- A tag is opened if the run of name characters begins with a capital. -/
theorem opened?_lessThan (t : Text) :
    opened? ('<' :: t) = if (t.takeWhile isTagChar).head?.any Char.isUpper then
      some (t.takeWhile isTagChar) else none := by
  cases t with
  | nil => rfl
  | cons c t =>
    rw [opened?, List.takeWhile_cons]
    by_cases inside : isTagChar c = true
    · simp [inside]
    · have small : c.isUpper = false := by
        rw [← Bool.not_eq_true]
        exact mt isTagChar_of_isUpper inside
      simp [inside, small]

variable {s t : Text}

theorem takeWhile_isTagChar_of_alike (alike : Alike s t) :
    s.takeWhile isTagChar = t.takeWhile isTagChar := by
  induction alike with
  | nil => rfl
  | cons c rest ih => rw [List.takeWhile_cons, List.takeWhile_cons, ih]
  | foreign nonempty nonempty' inside inside' rest ih =>
    obtain ⟨a, u, rfl⟩ := List.exists_cons_of_ne_nil nonempty
    obtain ⟨b, v, rfl⟩ := List.exists_cons_of_ne_nil nonempty'
    simp [isTagChar_of_isForeign (inside a List.mem_cons_self),
      isTagChar_of_isForeign (inside' b List.mem_cons_self)]

theorem opened?_cons_of_alike (c : Char) (alike : Alike s t) :
    opened? (c :: s) = opened? (c :: t) := by
  by_cases opens : c = '<'
  · subst opens
    rw [opened?_lessThan, opened?_lessThan, takeWhile_isTagChar_of_alike alike]
  · rw [opened?_of_ne opens, opened?_of_ne opens]

/-- Characters beyond ASCII are passed over. -/
theorem sights_append_of_foreign (line : Nat) {u : Text} (foreign : ∀ c ∈ u, IsForeign c)
    (t : Text) : sights line (u ++ t) = sights line t := by
  induction u with
  | nil => rfl
  | cons c u ih =>
    obtain ⟨first, rest⟩ := List.forall_mem_cons.1 foreign
    have noTag : c ≠ '<' := by
      rintro rfl
      exact absurd first (by decide)
    have noFeed : c ≠ '\n' := by
      rintro rfl
      exact absurd first (by decide)
    rw [List.cons_append, sights, opened?_of_ne noTag, if_neg noFeed, ih rest]
    rfl

theorem sights_of_alike (line : Nat) (alike : Alike s t) : sights line s = sights line t := by
  induction alike generalizing line with
  | nil => rfl
  | cons c rest ih => rw [sights, sights, opened?_cons_of_alike c rest, ih]
  | foreign _ _ inside inside' rest ih =>
    rw [sights_append_of_foreign line inside, sights_append_of_foreign line inside', ih]

end Foreign

end Usage

/-- A register of usages with no more than their sightings. -/
def sightings (register : Register (List Usage)) : Register (List (Text × Nat)) :=
  register.map fun entry => (entry.1, entry.2.map Usage.sight)

open Usage in
/-- Usages are grouped by what is seen of them. -/
theorem sightings_byName (us : List Usage) :
    sightings (byName us) = (distinct ((us.map sight).map Prod.fst)).map fun n =>
      (n, (us.map sight).filter (·.1 = n)) := by
  rw [sightings, byName_eq, List.map_map, List.map_map]
  refine List.map_congr_left fun n _ => ?_
  rw [Function.comp_apply, List.filter_map]
  rfl

open Usage in
/-- Sightings do not depend on the bindings, and of the text they depend on its sights alone. -/
theorem sightings_usages {s t : Text} (same : sights 1 s = sights 1 t)
    (bindings bindings' : Import.Bindings) :
    sightings (usages s bindings) = sightings (usages t bindings') := by
  rw [usages, usages, sightings_byName, sightings_byName, map_sight_ofText, map_sight_ofText, same]

end TagOrigin
