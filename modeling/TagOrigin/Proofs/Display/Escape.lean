import TagOrigin.Display.Terminal
import TagOrigin.Proofs.Display.Brackets

/-!
Escaped texts. Every bracket of an escaped text has an odd number of backslashes before it, so none of
them is a tag. Where glyphs are replaced afterwards, more brackets get the shape of tags; all of these
open a tag whose name begins with the replacement of a glyph.
-/
namespace TagOrigin.Display

namespace Markup

variable {t : Text} {b : Bracket}

/-- A tag that is not plain text. -/
def Bracket.IsLive (b : Bracket) : Prop := b.slashes % 2 = 0

instance : DecidablePred Bracket.IsLive := fun b => inferInstanceAs (Decidable (b.slashes % 2 = 0))

theorem Bracket.not_isLive_escaped (b : Bracket) : ¬ b.escaped.IsLive := by
  simp only [IsLive, escaped]
  omega

/-- Texts without tags stay, and the first tag is replaced. -/
theorem substitute_of_silent (silent : Silent t) (choose : Bracket → Text) :
    Scan.substitute Bracket.read choose t = t :=
  Scan.substitute_of_silent silent choose

theorem substitute_append_text {stretch : Text} (silent : Silent stretch)
    (clear : stretch.getLast? ≠ some '\\') (tag : IsTag b.body) (choose : Bracket → Text)
    (rest : Text) :
    Scan.substitute Bracket.read choose (stretch ++ (b.text ++ rest)) =
      stretch ++ (choose b ++ Scan.substitute Bracket.read choose rest) := by
  have front := substitute_of_silent silent choose
  rw [Scan.substitute] at front ⊢
  rw [tokens_append_text clear tag, List.flatMap_append, front]
  rfl

/-- Escaping doubles the backslashes before each bracket and adds one. -/
theorem brackets_escape (t : Text) : brackets (escape t) = (brackets t).map Bracket.escaped := by
  have substituted : brackets (Scan.substitute Bracket.read (fun b => b.escaped.text) t) =
      (brackets t).map Bracket.escaped := by
    induction t using text_induction with
    | plain t silent => rw [substitute_of_silent silent, brackets_of_silent silent, List.map_nil]
    | first stretch b rest silent clear tag ih =>
      have escapedTag : IsTag b.escaped.body := tag
      rw [substitute_append_text silent clear tag, brackets_append_text clear escapedTag,
        brackets_append_text clear tag, brackets_of_silent silent, ih]
      rfl
  rw [escape]
  split
  · rw [brackets_append_of_not_mem (by decide), substituted]
  · exact substituted

/-- No tag is left in an escaped text. -/
theorem not_isLive_of_mem_brackets_escape (member : b ∈ brackets (escape t)) : ¬ b.IsLive := by
  rw [brackets_escape] at member
  obtain ⟨plain, -, rfl⟩ := List.mem_map.1 member
  exact plain.not_isLive_escaped

end Markup

section Glyphs

variable {t u v : Text} {c d : Char}

theorem plainGlyph_cases (c : Char) :
    plainGlyph c = [c] ∨ (c = '✓' ∧ plainGlyph c = "ok".toList) ∨
      (c = '✗' ∧ plainGlyph c = "x".toList) ∨ (c = '⚠' ∧ plainGlyph c = "!".toList) := by
  unfold plainGlyph
  split <;> simp

/-- The characters that only stand for themselves when glyphs are replaced. -/
def Stays (c : Char) : Prop := c ∉ "okx!✓✗⚠".toList

instance : DecidablePred Stays := fun c => inferInstanceAs (Decidable (c ∉ "okx!✓✗⚠".toList))

theorem Stays.plainGlyph (stays : Stays c) : plainGlyph c = [c] := by
  rcases plainGlyph_cases c with same | ⟨rfl, -⟩ | ⟨rfl, -⟩ | ⟨rfl, -⟩
  · exact same
  all_goals exact absurd stays (by decide)

theorem Stays.eq_of_mem (stays : Stays c) (member : c ∈ Display.plainGlyph d) : d = c := by
  rcases plainGlyph_cases d with same | ⟨-, image⟩ | ⟨-, image⟩ | ⟨-, image⟩
  · rw [same] at member
    exact (List.mem_singleton.1 member).symm
  all_goals
    rw [image] at member
    simp_all [Stays]

theorem stays_opening : Stays '[' := by decide

theorem stays_closing : Stays ']' := by decide

theorem withoutGlyphs_cons (d : Char) (t : Text) :
    withoutGlyphs (d :: t) = plainGlyph d ++ withoutGlyphs t := rfl

theorem withoutGlyphs_append (t u : Text) :
    withoutGlyphs (t ++ u) = withoutGlyphs t ++ withoutGlyphs u :=
  List.flatMap_append

theorem withoutGlyphs_eq_self (plain : ∀ c ∈ t, plainGlyph c = [c]) : withoutGlyphs t = t := by
  induction t with
  | nil => rfl
  | cons c t ih =>
    rw [withoutGlyphs_cons, plain c List.mem_cons_self]
    exact congrArg (c :: ·) (ih fun d member => plain d (List.mem_cons_of_mem c member))

theorem Stays.mem_withoutGlyphs (stays : Stays c) : c ∈ withoutGlyphs t ↔ c ∈ t := by
  rw [withoutGlyphs, List.mem_flatMap]
  constructor
  · rintro ⟨d, member, image⟩
    exact stays.eq_of_mem image ▸ member
  · intro member
    exact ⟨c, member, by simp [stays.plainGlyph]⟩

/-- Where a text without glyphs can be cut at such a character, so can the text itself. -/
theorem Stays.exists_cut (stays : Stays c) (whole : withoutGlyphs t = u ++ c :: v) :
    ∃ before behind, t = before ++ c :: behind ∧ withoutGlyphs before = u ∧
      withoutGlyphs behind = v := by
  induction t generalizing u with
  | nil => simp [withoutGlyphs] at whole
  | cons d t ih =>
    have later {u : Text} (whole : withoutGlyphs t = u ++ c :: v) :
        ∃ before behind, d :: t = before ++ c :: behind ∧
          withoutGlyphs before = Display.plainGlyph d ++ u ∧ withoutGlyphs behind = v := by
      obtain ⟨before, behind, rfl, rfl, rfl⟩ := ih whole
      exact ⟨d :: before, behind, rfl, rfl, rfl⟩
    rw [withoutGlyphs_cons] at whole
    rcases List.append_eq_append_iff.1 whole with ⟨more, rfl, rest⟩ | ⟨more, image, rest⟩
    · exact later rest
    · cases more with
      | nil =>
        rw [List.append_nil] at image
        have found := later (u := []) rest.symm
        rwa [List.append_nil, image] at found
      | cons e more =>
        obtain ⟨rfl, behind⟩ := List.cons.inj rest
        obtain rfl : d = c := stays.eq_of_mem (by simp [image])
        rw [stays.plainGlyph] at image
        cases u with
        | nil =>
          obtain ⟨-, rfl⟩ := List.cons.inj image
          exact ⟨[], t, rfl, rfl, behind.symm⟩
        | cons f u => simp at image

theorem getLast?_withoutGlyphs (stays : Stays c) (last : (withoutGlyphs t).getLast? = some c) :
    t.getLast? = some c := by
  obtain ⟨u, cut⟩ := List.getLast?_eq_some_iff.1 last
  obtain ⟨before, behind, rfl, -, empty⟩ := stays.exists_cut cut
  have nothing : behind = [] := by
    cases behind with
    | nil => rfl
    | cons d behind =>
      rw [withoutGlyphs_cons] at empty
      rcases plainGlyph_cases d with image | ⟨-, image⟩ | ⟨-, image⟩ | ⟨-, image⟩ <;>
        simp [image] at empty
  simp [nothing]

/-- A text begins with what replaces a glyph and can begin a tag. -/
def FromGlyph (t : Text) : Prop :=
  "ok".toList <+: t ∨ "x".toList <+: t

instance : DecidablePred FromGlyph := fun t =>
  inferInstanceAs (Decidable ("ok".toList <+: t ∨ "x".toList <+: t))

end Glyphs

namespace Markup

section GlyphTags

variable {t body : Text} {b : Bracket}

/-- The bracket with its glyphs replaced. -/
def Bracket.withoutGlyphs (b : Bracket) : Bracket :=
  { b with body := Display.withoutGlyphs b.body }

theorem Bracket.withoutGlyphs_text (b : Bracket) :
    Display.withoutGlyphs b.text = b.withoutGlyphs.text := by
  have slashes : ∀ c ∈ List.replicate b.slashes '\\', plainGlyph c = [c] := by
    intro c member
    rw [List.eq_of_mem_replicate member]
    rfl
  rw [text, withoutGlyphs_append, withoutGlyphs_append, withoutGlyphs_eq_self slashes]
  rfl

theorem plainGlyph_of_startsTag {c : Char} (starts : startsTag c = true) : plainGlyph c = [c] := by
  rcases plainGlyph_cases c with same | ⟨rfl, -⟩ | ⟨rfl, -⟩ | ⟨rfl, -⟩
  · exact same
  all_goals exact absurd starts (by decide)

/-- A tag stays a tag. -/
theorem IsTag.withoutGlyphs (tag : IsTag body) : IsTag (Display.withoutGlyphs body) := by
  obtain ⟨⟨c, first, starts⟩, unopened, unclosed⟩ := tag
  refine ⟨⟨c, ?_, starts⟩, ?_, ?_⟩
  · obtain ⟨more, rfl⟩ := List.head?_eq_some_iff.1 first
    rw [withoutGlyphs_cons, plainGlyph_of_startsTag starts]
    rfl
  · rwa [stays_opening.mem_withoutGlyphs]
  · rwa [stays_closing.mem_withoutGlyphs]

/-- Where a tag stands without the glyphs, a bracket has stood before. -/
theorem exists_of_mem_brackets_withoutGlyphs (member : b ∈ brackets (Display.withoutGlyphs t)) :
    ∃ before inner rest, t = before ++ '[' :: (inner ++ ']' :: rest) ∧ Display.withoutGlyphs inner = b.body ∧
      IsTag b.body ∧ '[' ∉ inner ∧ ']' ∉ inner := by
  obtain ⟨tag, before, behind, whole⟩ := exists_of_mem_brackets member
  rw [b.text_append, ← List.append_assoc] at whole
  obtain ⟨u, v, rfl, -, within⟩ := stays_opening.exists_cut whole
  obtain ⟨inner, rest, rfl, image, -⟩ := stays_closing.exists_cut within
  refine ⟨u, inner, rest, rfl, image, tag, ?_, ?_⟩
  · rw [← stays_opening.mem_withoutGlyphs, image]
    exact tag.unopened
  · rw [← stays_closing.mem_withoutGlyphs, image]
    exact tag.unclosed

/-- Where no tag begins, replacing glyphs can only make tags that begin with a replacement. -/
theorem Silent.fromGlyph (silent : Silent t) (member : b ∈ brackets (Display.withoutGlyphs t)) :
    FromGlyph b.body := by
  obtain ⟨before, inner, rest, rfl, image, ⟨⟨c, first, starts⟩, -, -⟩, unopened, unclosed⟩ :=
    exists_of_mem_brackets_withoutGlyphs member
  cases inner with
  | nil => simp [← image, Display.withoutGlyphs] at first
  | cons d inner =>
    rw [← image, withoutGlyphs_cons] at first ⊢
    rcases plainGlyph_cases d with same | ⟨-, same⟩ | ⟨-, same⟩ | ⟨-, same⟩
    · -- the bracket would have been a tag before
      rw [same] at first
      obtain rfl : d = c := Option.some.inj first
      have written := Bracket.read_text_append (b := ⟨0, d :: inner⟩)
        ⟨⟨d, rfl, starts⟩, unopened, unclosed⟩ rest
      have here := silent ('[' :: (d :: inner ++ ']' :: rest)) (List.suffix_append before _)
        (List.cons_ne_nil _ _)
      rw [Bracket.text_append] at written
      cases here.symm.trans written
    · exact .inl (by simp [same])
    · exact .inr (by simp [same])
    · rw [same] at first
      obtain rfl : '!' = c := Option.some.inj first
      exact absurd starts (by decide)

/-- Replacing glyphs keeps each tag with its backslashes, and all others begin with a replacement. -/
theorem mem_brackets_withoutGlyphs (t : Text) (b : Bracket)
    (member : b ∈ brackets (Display.withoutGlyphs t)) :
    FromGlyph b.body ∨ ∃ a ∈ brackets t, a.slashes = b.slashes := by
  induction t using text_induction with
  | plain t silent => exact .inl (silent.fromGlyph member)
  | first stretch a rest silent clear tag ih =>
    have clear' : (Display.withoutGlyphs stretch).getLast? ≠ some '\\' :=
      fun last => clear (getLast?_withoutGlyphs (by decide) last)
    have tag' : IsTag a.withoutGlyphs.body := tag.withoutGlyphs
    rw [withoutGlyphs_append, withoutGlyphs_append, a.withoutGlyphs_text,
      brackets_append_text clear' tag', List.mem_append, List.mem_cons] at member
    rw [brackets_append_text clear tag]
    rcases member with here | rfl | later
    · exact .inl (silent.fromGlyph here)
    · exact .inr ⟨a, by simp, rfl⟩
    · rcases ih later with glyph | ⟨a', member, same⟩
      · exact .inl glyph
      · exact .inr ⟨a', by simp [member], same⟩

end GlyphTags

end Markup

end TagOrigin.Display
