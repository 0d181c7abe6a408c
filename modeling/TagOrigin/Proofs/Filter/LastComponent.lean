import TagOrigin.Filter
import TagOrigin.Proofs.Text.Pieces
import TagOrigin.Proofs.Text.Runs

/-!
The last component of a path. It is what follows the last slash, or the whole path where there is none, and
nothing else can be said to be it. What is written behind a path without a slash is written behind its last
component.
-/
namespace TagOrigin

variable {path name t : Text}

/-- A text without slashes that is the whole path or follows a slash up to the end. -/
structure IsLastComponent (name path : Text) : Prop where
  clean : '/' ∉ name
  ends : path = name ∨ ∃ dir, path = dir ++ '/' :: name

theorem slash_not_mem_baseName (path : Text) : '/' ∉ baseName path := by
  intro member
  rw [baseName, List.mem_reverse] at member
  have other := List.all_eq_true.1 List.all_takeWhile _ member
  simp at other

theorem baseName_subset (path : Text) : baseName path ⊆ path := by
  intro c member
  rw [baseName, List.mem_reverse] at member
  exact List.mem_reverse.1 ((List.takeWhile_prefix _).subset member)

theorem baseName_of_not_mem (clean : '/' ∉ path) : baseName path = path := by
  have whole : path.reverse.takeWhile (· ≠ '/') = path.reverse :=
    Text.takeWhile_ne_of_not_mem (mt List.mem_reverse.1 clean)
  rw [baseName, whole, List.reverse_reverse]

/-- A text without slashes lengthens the last component. -/
theorem baseName_append (front : Text) (clean : '/' ∉ t) : baseName (front ++ t) = baseName front ++ t := by
  have inside : ∀ c ∈ t.reverse, decide (c ≠ '/') = true :=
    Text.decide_ne_of_not_mem (mt List.mem_reverse.1 clean)
  rw [baseName, baseName, List.reverse_append, List.takeWhile_append_of_pos inside, List.reverse_append,
    List.reverse_reverse]

theorem baseName_append_slash (dir : Text) (clean : '/' ∉ name) : baseName (dir ++ '/' :: name) = name := by
  have split : dir ++ '/' :: name = (dir ++ ['/']) ++ name := by simp
  have nothing : baseName (dir ++ ['/']) = [] := by simp [baseName]
  rw [split, baseName_append _ clean, nothing, List.nil_append]

theorem isLastComponent_baseName (path : Text) : IsLastComponent (baseName path) path where
  clean := slash_not_mem_baseName path
  ends := by
    by_cases inside : '/' ∈ path
    · obtain ⟨dir, name, rfl, clean⟩ := Text.exists_last_of_mem inside
      rw [baseName_append_slash dir clean]
      exact .inr ⟨dir, rfl⟩
    · exact .inl (baseName_of_not_mem inside).symm

theorem isLastComponent_iff : IsLastComponent name path ↔ baseName path = name := by
  constructor
  · rintro ⟨clean, rfl | ⟨dir, rfl⟩⟩
    · exact baseName_of_not_mem clean
    · exact baseName_append_slash dir clean
  · rintro rfl
    exact isLastComponent_baseName path

end TagOrigin
