import TagOrigin.Proofs.Files.AllFiles
import TagOrigin.Proofs.Filter.Ignoring
import TagOrigin.Proofs.Filter.Suffixes
import TagOrigin.Report

/-!
Choosing files below a directory. With accepted patterns the choice is one condition on a path: its
extension is listed and no pattern ignores it. So the two filters can change places, patterns can be
applied a part at a time, and neither the order of patterns and extensions nor how often they are given
matters.
-/
namespace TagOrigin

open Glob

/-- A path that extensions and patterns let through. -/
def IsChosen (extensions patterns : List Text) (path : Text) : Prop :=
  extension path ∈ extensions ∧ ∀ pattern ∈ patterns, ¬ Ignores pattern path

instance (extensions patterns : List Text) (path : Text) : Decidable (IsChosen extensions patterns path) :=
  inferInstanceAs (Decidable (extension path ∈ extensions ∧ ∀ pattern ∈ patterns, ¬ Ignores pattern path))

section Choice

variable {extensions extensions' patterns patterns' a b : List Text} {path : Text}

theorem isChosen_append_iff : IsChosen extensions (a ++ b) path ↔
    IsChosen extensions a path ∧ ∀ pattern ∈ b, ¬ Ignores pattern path := by
  rw [IsChosen, IsChosen, List.forall_mem_append, and_assoc]

/-- What is chosen depends on which extensions and patterns there are, and on nothing else. -/
theorem IsChosen.congr (sameExtensions : ∀ ext, ext ∈ extensions' ↔ ext ∈ extensions)
    (samePatterns : ∀ pattern, pattern ∈ patterns' ↔ pattern ∈ patterns) :
    IsChosen extensions' patterns' path ↔ IsChosen extensions patterns path := by
  simp only [IsChosen, sameExtensions, samePatterns]

end Choice

section Collection

variable {fs : Files.FileSystem} {root : Text} {files extensions patterns : List Text}

theorem filter_filter_eq_filter {p q r : Text → Prop} [DecidablePred p] [DecidablePred q] [DecidablePred r]
    (both : ∀ path, r path ↔ p path ∧ q path) (paths : List Text) :
    (paths.filter p).filter q = paths.filter r := by
  rw [List.filter_filter]
  apply List.filter_congr
  intro path _
  rw [← Bool.decide_and, decide_eq_decide, both, and_comm]

/-- The files that are collected are those that are chosen, in their order and as often as they occur. -/
theorem collectFiles_eq_filter (walked : allFiles fs root = .ok files)
    (accepted : ∀ pattern ∈ patterns, ∃ e, compile pattern = .ok e) :
    collectFiles fs root extensions patterns = .ok (files.filter (IsChosen extensions patterns)) := by
  have filtered : filterIgnored (filterByExtension files extensions) patterns =
      .ok (files.filter (IsChosen extensions patterns)) := by
    rw [filterIgnored_of_accepted accepted, filterByExtension_eq_filter]
    exact congrArg _ (filter_filter_eq_filter (fun _ => Iff.rfl) files)
  rw [collectFiles, walked]
  simp only [bind, Except.bind, filtered]

/-- A file is chosen exactly if its extension is listed and accepted patterns say no to it and to its last
component. -/
theorem mem_filter_isChosen_iff (accepted : ∀ pattern ∈ patterns, ∃ e, compile pattern = .ok e) {path : Text} :
    path ∈ files.filter (IsChosen extensions patterns) ↔
      path ∈ files ∧ extension path ∈ extensions ∧ ∀ pattern ∈ patterns,
        pathMatches path pattern = .ok false ∧ pathMatches (baseName path) pattern = .ok false := by
  rw [List.mem_filter, decide_eq_true_iff, IsChosen]
  refine and_congr_right fun _ => and_congr_right fun _ => ?_
  exact forall₂_congr fun pattern listed => not_ignores_iff (accepted pattern listed) path

/-- Collecting with the patterns of two lists is collecting with those of the first and dropping what the
second ignores; the filters can change places; patterns and extensions can be permuted and repeated. What
is collected is a part of all files, in their order and as often as they occur, with a file in it exactly
if its extension is listed and no pattern matches it or its last component. -/
theorem collectFiles_rearranged {a b : List Text} (walked : allFiles fs root = .ok files)
    (accepted : ∀ pattern ∈ a ++ b, ∃ e, compile pattern = .ok e) (extensions : List Text) :
    ∃ chosen, collectFiles fs root extensions (a ++ b) = .ok chosen ∧
      (∃ first, collectFiles fs root extensions a = .ok first ∧ filterIgnored first b = .ok chosen) ∧
      (∃ kept, filterIgnored files (a ++ b) = .ok kept ∧ filterByExtension kept extensions = chosen) ∧
      (∀ extensions' patterns', (∀ ext, ext ∈ extensions' ↔ ext ∈ extensions) →
        (∀ pattern, pattern ∈ patterns' ↔ pattern ∈ a ++ b) →
        collectFiles fs root extensions' patterns' = .ok chosen) ∧
      chosen.Sublist files ∧ (∀ path ∈ chosen, chosen.count path = files.count path) ∧
      ∀ path, path ∈ chosen ↔ path ∈ files ∧ extension path ∈ extensions ∧ ∀ pattern ∈ a ++ b,
        pathMatches path pattern = .ok false ∧ pathMatches (baseName path) pattern = .ok false := by
  obtain ⟨acceptedFirst, acceptedSecond⟩ := List.forall_mem_append.1 accepted
  refine ⟨_, collectFiles_eq_filter walked accepted, ?again, ?swapped, ?same, List.filter_sublist, ?count,
    fun path => mem_filter_isChosen_iff accepted⟩
  case again =>
    refine ⟨_, collectFiles_eq_filter walked acceptedFirst, ?_⟩
    rw [filterIgnored_of_accepted acceptedSecond]
    exact congrArg _ (filter_filter_eq_filter (fun _ => isChosen_append_iff) files)
  case swapped =>
    refine ⟨_, filterIgnored_of_accepted accepted, ?_⟩
    rw [filterByExtension_eq_filter]
    exact filter_filter_eq_filter (fun _ => and_comm) files
  case same =>
    intro extensions' patterns' sameExtensions samePatterns
    have accepted' : ∀ pattern ∈ patterns', ∃ e, compile pattern = .ok e :=
      fun pattern listed => accepted pattern ((samePatterns pattern).1 listed)
    rw [collectFiles_eq_filter walked accepted']
    congr 1
    apply List.filter_congr
    intro path _
    rw [decide_eq_decide, IsChosen.congr sameExtensions samePatterns]
  case count =>
    intro path member
    exact List.count_filter (List.mem_filter.1 member).2

/-- One pattern ignores a file as a whole and another a link by its last component; what lies below a link
to a directory is chosen. -/
theorem collectFiles_rearranged_mixedDirectory :
    let a := ["d/a/*".toList]
    let b := ["gox?ne".toList]
    let extensions := [".b".toList, []]
    let chosen := ["d/a.b".toList, "d/up/b".toList]
    allFiles mixedDirectory "d".toList =
        .ok ["d/a/b".toList, "d/a.b".toList, "d/gone".toList, "d/up/b".toList] ∧
      (∀ pattern ∈ a ++ b, ∃ e, compile pattern = .ok e) ∧
      collectFiles mixedDirectory "d".toList extensions (a ++ b) = .ok chosen ∧
      (∃ first, collectFiles mixedDirectory "d".toList extensions a = .ok first ∧
        filterIgnored first b = .ok chosen) ∧
      collectFiles mixedDirectory "d".toList extensions (b ++ a ++ b) = .ok chosen := by
  have accepted : ∀ pattern ∈ ["d/a/*".toList] ++ ["gox?ne".toList], ∃ e, compile pattern = .ok e :=
    List.forall_mem_cons.2 ⟨⟨_, rfl⟩, List.forall_mem_singleton.2 ⟨_, rfl⟩⟩
  obtain ⟨chosen, collected, again, _, same, _⟩ :=
    collectFiles_rearranged allFiles_mixedDirectory accepted [".b".toList, []]
  have value : chosen = ["d/a.b".toList, "d/up/b".toList] := by
    rw [collectFiles, allFiles_mixedDirectory] at collected
    exact (Except.ok.inj collected).symm
  subst value
  have permuted := same [".b".toList, []] (["gox?ne".toList] ++ ["d/a/*".toList] ++ ["gox?ne".toList])
    (fun _ => Iff.rfl) (by simp [or_comm])
  exact ⟨allFiles_mixedDirectory, accepted, collected, again, permuted⟩

end Collection

end TagOrigin
