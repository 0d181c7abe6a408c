import Mathlib.Data.List.SplitBy
import TagOrigin.Proofs.Display.Escape
import TagOrigin.Proofs.Register
import TagOrigin.Proofs.Text.Runs

/-!
Names of tags made by replacing glyphs. Their first word begins with a replacement, and no word of a
style does, so each of them has a canonical name, and the style that such a tag asks for can be looked up
whatever else it gives.
-/
namespace TagOrigin

/-- Small letters in front of a text stay. -/
theorem Text.exists_lowerAfter_append (word : Text)
    (small : word.all (fun c => c ≠ 'Σ' && lowerChar c = [c])) (cased : Bool) (t : Text) :
    ∃ cased', lowerAfter cased (word ++ t) = word ++ lowerAfter cased' t := by
  induction word generalizing cased with
  | nil => exact ⟨cased, rfl⟩
  | cons c word ih =>
    rw [List.all_cons, Bool.and_eq_true] at small
    obtain ⟨here, further⟩ := small
    obtain ⟨other, same⟩ : c ≠ 'Σ' ∧ lowerChar c = [c] := by simpa using here
    obtain ⟨cased', later⟩ := ih further
      (if isCaseIgnorable c then cased else isCased c)
    refine ⟨cased', ?_⟩
    rw [List.cons_append, lowerAfter, if_neg other, same, later]
    rfl

namespace Display

namespace Style

open Text (isBlank)

/-- The words of a text that begins with a word. -/
theorem words_append {word rest : Text} (nonempty : word ≠ [])
    (solid : ∀ c ∈ word, isBlank c = false) (stops : Text.Stops (fun c => !isBlank c) rest) :
    words (word ++ rest) = word :: words rest := by
  have last : ∀ c ∈ word.getLast?, ∀ d ∈ rest.head?, (isBlank c == isBlank d) = false := by
    intro c final d first
    have blank : isBlank d = true := by simpa using stops d first
    rw [solid c (List.mem_of_getLast? final), blank]
    rfl
  have chain : word.IsChain fun a b => (isBlank a == isBlank b) = true := by
    refine (List.pairwise_of_forall_mem_list ?_).isChain
    intro a member b member'
    rw [solid a member, solid b member']
    rfl
  have kept : (!word.any isBlank) = true := by simpa using solid
  rw [words, List.splitBy_append last, List.splitBy_of_isChain nonempty chain, List.filter_append,
    List.filter_singleton, kept]
  rfl

theorem fromGlyph_lower {word : Text} (glyph : FromGlyph word) :
    FromGlyph (Text.lower word) := by
  rcases glyph with ⟨more, rfl⟩ | ⟨more, rfl⟩
  · obtain ⟨cased, kept⟩ := Text.exists_lowerAfter_append "ok".toList (by decide) false more
    exact .inl ⟨_, kept.symm⟩
  · obtain ⟨cased, kept⟩ := Text.exists_lowerAfter_append "x".toList (by decide) false more
    exact .inr ⟨_, kept.symm⟩

theorem attribute?_of_fromGlyph {word : Text} (glyph : FromGlyph word) :
    attribute? word = none := by
  have unnamed : word ∉ attributes := by
    have others : ∀ n ∈ attributes, ¬ FromGlyph n := by decide
    exact fun member => others word member glyph
  have unabbreviated : Register.get? word shortNames = none := by
    have others : ∀ entry ∈ shortNames, ¬ FromGlyph entry.1 := by decide
    cases found : Register.get? word shortNames with
    | none => rfl
    | some name => exact absurd glyph (others _ (Register.mem_of_get? found))
  rw [attribute?, if_neg (by simpa using unnamed), unabbreviated]

theorem colour_of_fromGlyph {word : Text} (glyph : FromGlyph word) :
    Colour.read word = .other := by
  have unnamed : word ∉ Colour.names := by
    have others : ∀ n ∈ Colour.names, ¬ FromGlyph n := by decide +kernel
    exact fun member => others word member glyph
  rcases glyph with ⟨more, rfl⟩ | ⟨more, rfl⟩
  all_goals simpa [Colour.read, Colour.argument?, Text.after?] using unnamed

/-- Such a word has no meaning. -/
theorem read_of_fromGlyph {word : Text} (glyph : FromGlyph word) (request : Request)
    (rest : List Text) : request.read (word :: rest) = .error .meaningless := by
  have small := fromGlyph_lower glyph
  have foreign (known : Text) (other : ¬ FromGlyph known) : Text.lower word ≠ known :=
    fun same => other (same ▸ small)
  unfold Request.read
  simp only [if_neg (foreign "on".toList (by decide)), if_neg (foreign "not".toList (by decide)),
    if_neg (foreign "link".toList (by decide)), attribute?_of_fromGlyph small, colourName,
    colour_of_fromGlyph small]

/-- The part of such a text up to a character of another class begins with it as well. -/
theorem fromGlyph_takeWhile {p : Char → Bool} (kept : "okx".toList.all p) {t : Text}
    (glyph : FromGlyph t) : FromGlyph (t.takeWhile p) := by
  obtain ⟨o, k, x⟩ : p 'o' = true ∧ p 'k' = true ∧ p 'x' = true := by simpa using kept
  rcases glyph with ⟨more, rfl⟩ | ⟨more, rfl⟩
  · exact .inl ⟨more.takeWhile p, by simp [o, k]⟩
  · exact .inr ⟨more.takeWhile p, by simp [x]⟩

theorem fromGlyph_strip {t : Text} (glyph : FromGlyph t) : FromGlyph (Text.strip t) :=
  glyph.imp (Text.prefix_strip (by simp [isBlank])) (Text.prefix_strip (by simp [isBlank]))

/-- A text that begins so has a canonical name, which begins so as well. -/
theorem exists_canonicalName {name : Text} (glyph : FromGlyph name) :
    ∃ canonical, canonicalName name = .ok canonical ∧ FromGlyph canonical := by
  obtain ⟨word, isWord⟩ : ∃ word, word = name.takeWhile fun c => !isBlank c := ⟨_, rfl⟩
  have first : FromGlyph word := isWord ▸ fromGlyph_takeWhile (by decide) glyph
  have nonempty : word ≠ [] := by
    rintro rfl
    exact absurd first (by decide)
  have solid : ∀ c ∈ word, isBlank c = false := by
    intro c member
    rw [isWord] at member
    have holds := List.all_eq_true.1 List.all_takeWhile c member
    simpa using holds
  have split : words name = word :: words (name.dropWhile fun c => !isBlank c) := by
    rw [← words_append nonempty solid (Text.stops_dropWhile _ name), isWord,
      List.takeWhile_append_dropWhile]
  have bare := fromGlyph_strip glyph
  have foreign {known : Text} (other : ¬ FromGlyph known) : Text.strip name ≠ known :=
    fun same => other (same ▸ bare)
  have meaning : ¬ (decide (Text.strip name = []) || decide (Text.strip name = "none".toList)) = true := by
    rw [Bool.or_eq_true, decide_eq_true_eq, decide_eq_true_eq, not_or]
    exact ⟨foreign (by decide), foreign (by decide)⟩
  refine ⟨Text.lower (Text.strip name), ?_, fromGlyph_lower bare⟩
  rw [canonicalName, if_neg meaning, split, read_of_fromGlyph first]

/-- A text can be looked up as a style. -/
def Resolves (t : Text) : Prop := lookUp t = .ok ()

instance : DecidablePred Resolves := fun t => inferInstanceAs (Decidable (lookUp t = .ok ()))

theorem resolves_of_fromGlyph {t : Text} (glyph : FromGlyph t) : Resolves t := by
  obtain ⟨canonical, named, -⟩ := exists_canonicalName glyph
  rw [Resolves, lookUp, named]
  rfl

theorem resolves_iff {t : Text} : Resolves t ↔ ∃ canonical, canonicalName t = .ok canonical := by
  rw [Resolves, lookUp]
  cases canonicalName t with
  | error fault => simp [Except.map]
  | ok canonical => simp [Except.map]

end Style

end Display

end TagOrigin
