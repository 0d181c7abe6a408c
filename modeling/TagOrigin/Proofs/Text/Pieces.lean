import Mathlib.Data.List.Infix
import TagOrigin.Text

/-!
Pieces of a text. Splitting at a character gives pieces that lie in the text and do not hold it. A break
at a separator is made at its first occurrence, so the part before it holds none, and a text that cannot
be broken holds none at all.
-/
namespace TagOrigin.Text

variable {t piece sep before rest : Text}

/-- A character of a text has a last occurrence. -/
theorem exists_last_of_mem {a : Char} (member : a ∈ t) : ∃ u v, t = u ++ a :: v ∧ a ∉ v := by
  obtain ⟨v, u, reversed, clean⟩ := List.eq_append_cons_of_mem (List.mem_reverse.2 member)
  refine ⟨u.reverse, v.reverse, ?_, mt List.mem_reverse.1 clean⟩
  rw [← List.reverse_reverse t, reversed]
  simp

/-- A piece lies in the text and is free of the character at which the text was split. -/
theorem of_mem_splitOn {a : Char} {t piece : Text} (member : piece ∈ t.splitOn a) :
    a ∉ piece ∧ piece <:+: t := by
  by_cases inside : a ∈ t
  · obtain ⟨first, rest, rfl, clean⟩ := List.eq_append_cons_of_mem inside
    rw [List.splitOn_append_cons_self_of_not_mem clean] at member
    rcases List.mem_cons.1 member with rfl | later
    · exact ⟨clean, (List.prefix_append _ _).isInfix⟩
    · obtain ⟨clean, within⟩ := of_mem_splitOn later
      exact ⟨clean, within.trans ⟨first ++ [a], [], by simp⟩⟩
  · rw [List.splitOn_eq_singleton inside, List.mem_singleton] at member
    obtain rfl := member
    exact ⟨inside, List.infix_rfl⟩
termination_by t.length

/-- The pieces before the last one are those with the character behind them, at the front of the text or
behind the character itself. -/
theorem mem_dropLast_splitOn_iff {a : Char} {t piece : Text} (clean : a ∉ piece) :
    piece ∈ (t.splitOn a).dropLast ↔
      ∃ lead run, t = lead ++ (piece ++ a :: run) ∧ (lead = [] ∨ ∃ d, lead = d ++ [a]) := by
  constructor
  · intro member
    by_cases inside : a ∈ t
    · obtain ⟨first, rest, rfl, free⟩ := List.eq_append_cons_of_mem inside
      rw [List.splitOn_append_cons_self_of_not_mem free,
        List.dropLast_cons_of_ne_nil (List.splitOn_ne_nil a rest)] at member
      rcases List.mem_cons.1 member with rfl | later
      · exact ⟨[], rest, rfl, .inl rfl⟩
      · obtain ⟨lead, run, rfl, ends⟩ := (mem_dropLast_splitOn_iff clean).1 later
        refine ⟨first ++ a :: lead, run, by simp, .inr ?_⟩
        rcases ends with rfl | ⟨d, rfl⟩
        · exact ⟨first, rfl⟩
        · exact ⟨first ++ a :: d, by simp⟩
    · rw [List.splitOn_eq_singleton inside] at member
      cases member
  · rintro ⟨lead, run, rfl, rfl | ⟨d, rfl⟩⟩
    · rw [List.nil_append, List.splitOn_append_cons_self_of_not_mem clean,
        List.dropLast_cons_of_ne_nil (List.splitOn_ne_nil a run)]
      exact List.mem_cons_self
    · have whole : d ++ [a] ++ (piece ++ a :: run) = d ++ a :: (piece ++ a :: run) := by simp
      rw [whole, List.splitOn_append_cons_self, List.splitOn_append_cons_self_of_not_mem clean,
        List.dropLast_append_of_ne_nil (List.cons_ne_nil _ _),
        List.dropLast_cons_of_ne_nil (List.splitOn_ne_nil a run)]
      exact List.mem_append_right _ List.mem_cons_self
termination_by t.length

/-- Whether a text begins with a word shows in a front that is as long. -/
theorem after?_append_of_length_le {word : Text} (long : word.length ≤ t.length) (rest : Text) :
    after? word (t ++ rest) = (after? word t).map (· ++ rest) := by
  induction word generalizing t with
  | nil => rfl
  | cons w word ih =>
    obtain ⟨c, t, rfl⟩ := List.exists_cons_of_length_pos (Nat.lt_of_lt_of_le (Nat.succ_pos _) long)
    by_cases same : w = c
    · simp [after?, same, ih (Nat.le_of_succ_le_succ long)]
    · simp [after?, same]

theorem after?_eq_none_iff : after? sep t = none ↔ ¬ sep <+: t := by
  rw [Option.eq_none_iff_forall_ne_some]
  constructor
  · rintro absent ⟨rest, rfl⟩
    exact absent rest (after?_eq_some_iff.2 rfl)
  · intro absent rest found
    exact absent ⟨rest, (after?_eq_some_iff.1 found).symm⟩

theorem not_infix_of_breakOn_eq_none (nonempty : sep ≠ []) (whole : breakOn sep t = none) :
    ¬ sep <:+: t := by
  induction t with
  | nil => exact fun inside => nonempty (List.infix_nil.1 inside)
  | cons c t ih =>
    rw [breakOn] at whole
    split at whole
    · cases whole
    · next absent =>
      rw [List.infix_cons_iff, not_or]
      exact ⟨after?_eq_none_iff.1 absent, ih (Option.map_eq_none_iff.1 whole)⟩

theorem breakOn_eq_some (nonempty : sep ≠ []) (broken : breakOn sep t = some (before, rest)) :
    t = before ++ (sep ++ rest) ∧ ¬ sep <:+: before := by
  induction t generalizing before with
  | nil => cases broken
  | cons c t ih =>
    rw [breakOn] at broken
    split at broken
    · next found =>
      obtain ⟨rfl, rfl⟩ := Prod.mk.inj (Option.some.inj broken)
      have whole := after?_eq_some_iff.1 found
      exact ⟨whole, fun inside => nonempty (List.infix_nil.1 inside)⟩
    · next absent =>
      obtain ⟨⟨front, rest⟩, later, same⟩ := Option.map_eq_some_iff.1 broken
      obtain ⟨rfl, rfl⟩ := Prod.mk.inj same
      obtain ⟨rfl, clean⟩ := ih later
      refine ⟨rfl, ?_⟩
      rw [List.infix_cons_iff, not_or]
      refine ⟨?_, clean⟩
      intro here
      exact after?_eq_none_iff.1 absent (here.trans (List.prefix_append (c :: front) (sep ++ rest)))

end TagOrigin.Text
