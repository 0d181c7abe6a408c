import Mathlib.Data.List.Basic
import TagOrigin.Proofs.Filter.LastComponent

/-!
Extensions read as suffixes. A path has an extension exactly if it ends with it and its last component holds
more than points before it, and it has the empty one exactly if every point of the last component has
nothing but points before it. So the filter keeps the paths that some entry of the list selects as a suffix,
and an entry that is no suffix of one component selects nothing.
-/
namespace TagOrigin

variable {path ext front letters stem : Text}

/-- A point, then characters other than points and slashes: the extensions that can be had but for the empty
one. -/
def IsExtension (ext : Text) : Prop :=
  ∃ letters, ext = '.' :: letters ∧ '.' ∉ letters ∧ '/' ∉ letters

/-- An entry of a list selects the paths that end with it, if their last component holds a character other
than a point before it. The empty entry selects the paths whose last component has no point with such a
character before it. -/
def Selects (ext path : Text) : Prop :=
  (IsExtension ext ∧ ∃ front stem, path = front ++ ext ∧ IsLastComponent stem front ∧ ∃ c ∈ stem, c ≠ '.') ∨
    (ext = [] ∧ ∃ name, IsLastComponent name path ∧
      ∀ stem rest, name = stem ++ '.' :: rest → ∀ c ∈ stem, c = '.')

section Extensions

theorem extension_of_not_mem (clean : '.' ∉ baseName path) : extension path = [] := by
  have nothing : (baseName path).reverse.dropWhile (· ≠ '.') = [] :=
    List.dropWhile_eq_nil_iff.2 (Text.decide_ne_of_not_mem (mt List.mem_reverse.1 clean))
  rw [extension]
  simp only [nothing]

/-- At its last point a path is cut, unless all before it in the last component are points. -/
theorem extension_append (front : Text) (noPoint : '.' ∉ letters) (noSlash : '/' ∉ letters) :
    extension (front ++ '.' :: letters) =
      if (baseName front).any (· ≠ '.') then '.' :: letters else [] := by
  -- the point is searched from the end, so the letters are passed over and the rest stands behind it
  have name : (baseName (front ++ '.' :: letters)).reverse =
      letters.reverse ++ '.' :: (baseName front).reverse := by
    rw [baseName_append front (by simp [noSlash])]
    simp
  have inside : ∀ c ∈ letters.reverse, decide (c ≠ '.') = true :=
    Text.decide_ne_of_not_mem (mt List.mem_reverse.1 noPoint)
  have stops : Text.Stops (· ≠ '.') ('.' :: (baseName front).reverse) := Text.stops_cons_iff.2 (by simp)
  rw [extension]
  simp only [name, Text.dropWhile_append_of_stops inside stops,
    Text.takeWhile_append_of_stops inside stops, List.reverse_reverse, List.any_reverse]

theorem any_ne_point_iff {t : Text} : t.any (· ≠ '.') = true ↔ ∃ c ∈ t, c ≠ '.' := by
  simp only [List.any_eq_true, decide_eq_true_iff]

/-- What stands before a point of a text stands before its last point. -/
theorem subset_of_append_eq {rest : Text} (noPoint : '.' ∉ letters)
    (same : front ++ '.' :: letters = stem ++ '.' :: rest) : stem ⊆ front := by
  rcases List.append_eq_append_iff.1 same with ⟨more, rfl, behind⟩ | ⟨more, rfl, -⟩
  · cases more with
    | nil => simp
    | cons c more =>
      obtain ⟨-, rfl⟩ := List.cons.inj behind
      simp at noPoint
  · exact List.subset_append_left _ _

/-- A path without points in its last component, or a path up to a last point. -/
theorem point_cases (path : Text) : '.' ∉ baseName path ∨
    ∃ front letters, path = front ++ '.' :: letters ∧ '.' ∉ letters ∧ '/' ∉ letters := by
  by_cases inside : '.' ∈ baseName path
  · right
    obtain ⟨stem, letters, name, noPoint⟩ := Text.exists_last_of_mem inside
    have noSlash : '/' ∉ letters := by
      intro member
      exact slash_not_mem_baseName path (by simp [name, member])
    rcases (isLastComponent_baseName path).ends with whole | ⟨dir, whole⟩
    · exact ⟨stem, letters, whole.trans name, noPoint, noSlash⟩
    · refine ⟨dir ++ '/' :: stem, letters, ?_, noPoint, noSlash⟩
      rw [whole, name, List.append_assoc, List.cons_append]
  · exact .inl inside

/-- A path is selected by its extension. -/
theorem selects_extension (path : Text) : Selects (extension path) path := by
  rcases point_cases path with clean | ⟨front, letters, rfl, noPoint, noSlash⟩
  · rw [extension_of_not_mem clean]
    refine .inr ⟨rfl, baseName path, isLastComponent_baseName path, ?_⟩
    intro stem rest split
    exact absurd (by simp [split]) clean
  · rw [extension_append front noPoint noSlash]
    split
    · next other =>
      exact .inl ⟨⟨letters, rfl, noPoint, noSlash⟩, front, baseName front, rfl,
        isLastComponent_baseName front, any_ne_point_iff.1 other⟩
    · next bare =>
      refine .inr ⟨rfl, _, isLastComponent_baseName _, ?_⟩
      intro stem rest split c member
      rw [baseName_append front (by simp [noSlash])] at split
      by_contra different
      exact bare (any_ne_point_iff.2 ⟨c, subset_of_append_eq noPoint split member, different⟩)

/-- A path is selected by its extension and by no other entry. -/
theorem extension_eq_iff : extension path = ext ↔ Selects ext path := by
  constructor
  · rintro rfl
    exact selects_extension path
  · rintro (⟨⟨letters, rfl, noPoint, noSlash⟩, front, stem, rfl, last, other⟩ | ⟨rfl, name, last, bare⟩)
    · obtain rfl := isLastComponent_iff.1 last
      rw [extension_append front noPoint noSlash, if_pos (any_ne_point_iff.2 other)]
    · obtain rfl := isLastComponent_iff.1 last
      rcases point_cases path with clean | ⟨front, letters, rfl, noPoint, noSlash⟩
      · exact extension_of_not_mem clean
      · rw [extension_append front noPoint noSlash, if_neg]
        intro letter
        obtain ⟨c, member, other⟩ := any_ne_point_iff.1 letter
        exact other (bare _ letters (baseName_append front (by simp [noSlash])) c member)

instance (ext path : Text) : Decidable (Selects ext path) :=
  decidable_of_iff (extension path = ext) extension_eq_iff

end Extensions

section Filtering

theorem filterByExtension_eq_filter (paths extensions : List Text) :
    filterByExtension paths extensions = paths.filter (extension · ∈ extensions) := by
  apply List.filter_congr
  intro path _
  rw [Bool.eq_iff_iff, List.contains_iff_mem, decide_eq_true_iff]

/-- An entry other than the empty one that is no suffix of a component selects nothing. -/
theorem not_selects (nonempty : ext ≠ []) (unfit : ¬ IsExtension ext) (path : Text) : ¬ Selects ext path := by
  rintro (⟨fit, -⟩ | ⟨empty, -⟩)
  · exact unfit fit
  · exact nonempty empty

theorem not_isExtension (unfit : '/' ∈ ext ∨ 1 < ext.count '.' ∨ ext.head? ≠ some '.') : ¬ IsExtension ext := by
  rintro ⟨letters, rfl, noPoint, noSlash⟩
  rcases unfit with slash | points | first
  · simp [noSlash] at slash
  · simp [List.count_eq_zero_of_not_mem noPoint] at points
  · exact first rfl

/-- The filter keeps, in order and as often as they occur, exactly the paths that some entry selects as a
suffix. A non-empty entry with a slash or with several points, or without a point at its front, keeps no path. -/
theorem filterByExtension_selects (paths extensions : List Text) :
    filterByExtension paths extensions = paths.filter (fun path => ∃ ext ∈ extensions, Selects ext path) ∧
      ∀ ext, ext ≠ [] → ('/' ∈ ext ∨ 1 < ext.count '.' ∨ ext.head? ≠ some '.') →
        filterByExtension paths [ext] = [] := by
  have selected (entries : List Text) : filterByExtension paths entries =
      paths.filter (fun path => ∃ ext ∈ entries, Selects ext path) := by
    simp only [filterByExtension_eq_filter, ← extension_eq_iff, exists_eq_right']
  refine ⟨selected extensions, ?_⟩
  intro ext nonempty unfit
  rw [selected, List.filter_eq_nil_iff]
  intro path _
  simp [not_selects nonempty (not_isExtension unfit) path]

/-- Hidden files, points at the front and at the end, a point in the name of a directory, and an entry with
two points. -/
theorem filterByExtension_selects_hidden :
    let paths := ["src/App.d.ts".toList, ".ts".toList, "dir.ts/file".toList, "x/..a.ts".toList, "a.".toList,
      "b.ts/".toList, "x/..ts".toList]
    filterByExtension paths [".ts".toList, ".".toList] =
        ["src/App.d.ts".toList, "x/..a.ts".toList, "a.".toList] ∧
      ".d.ts".toList ≠ [] ∧ 1 < ".d.ts".toList.count '.' ∧ filterByExtension paths [".d.ts".toList] = [] := by
  obtain ⟨kept, unfit⟩ := filterByExtension_selects ["src/App.d.ts".toList, ".ts".toList, "dir.ts/file".toList,
    "x/..a.ts".toList, "a.".toList, "b.ts/".toList, "x/..ts".toList] [".ts".toList, ".".toList]
  refine ⟨?_, by decide, by decide, unfit _ (by decide) (.inr (.inl (by decide)))⟩
  rw [kept]
  decide

end Filtering

end TagOrigin
