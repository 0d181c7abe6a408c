import TagOrigin.Import.Binding
import TagOrigin.Proofs.Import.Grammar
import TagOrigin.Proofs.Text.Pieces

/-!
Local names of arbitrary lists. Whatever stands between the braces of a statement, a local name is a
stretch of it that could stand in a list by itself: it is not empty, has no white space around it, and
holds neither a comma nor the separator of an alias.
-/
namespace TagOrigin.Import

/-- A name that nothing more can be taken off. -/
structure IsTidy (name : Text) : Prop where
  nonempty : name ≠ []
  first : Text.Stops Text.isBlank name
  last : Text.Stops Text.isBlank name.reverse
  noComma : ',' ∉ name
  noBrace : '\x7d' ∉ name
  noSeparator : ¬ aliasSeparator <:+: name

variable {specifier subject name : Text}

theorem aliasSeparator_ne_nil : aliasSeparator ≠ [] := by decide

/-- A local name is a stripped part of its specifier, and no separator is left in it. -/
theorem exists_part_of_localName (specifier : Text) :
    ∃ part, part <:+: specifier ∧ localName specifier = Text.strip part ∧
      ¬ aliasSeparator <:+: localName specifier := by
  have stripped := Text.strip_infix specifier
  cases first : Text.breakOn aliasSeparator (Text.strip specifier) with
  | none =>
    have same : localName specifier = Text.strip specifier := by rw [localName, first]
    have clean := Text.not_infix_of_breakOn_eq_none aliasSeparator_ne_nil first
    exact ⟨specifier, List.infix_rfl, same, same ▸ clean⟩
  | some broken =>
    obtain ⟨before, rest⟩ := broken
    obtain ⟨whole, _⟩ := Text.breakOn_eq_some aliasSeparator_ne_nil first
    have behind : rest <:+: specifier := by
      refine List.IsInfix.trans ⟨before ++ aliasSeparator, [], ?_⟩ stripped
      rw [whole, List.append_nil, List.append_assoc]
    cases second : Text.breakOn aliasSeparator rest with
    | none =>
      have same : localName specifier = Text.strip rest := by simp only [localName, first, second]
      have clean := Text.not_infix_of_breakOn_eq_none aliasSeparator_ne_nil second
      exact ⟨rest, behind, same, fun inside => clean ((same ▸ inside).trans (Text.strip_infix rest))⟩
    | some broken =>
      obtain ⟨inner, last⟩ := broken
      have same : localName specifier = Text.strip inner := by simp only [localName, first, second]
      obtain ⟨whole, clean⟩ := Text.breakOn_eq_some aliasSeparator_ne_nil second
      have between : inner <:+: rest := ⟨[], aliasSeparator ++ last, whole.symm⟩
      exact ⟨inner, between.trans behind, same,
        fun inside => clean ((same ▸ inside).trans (Text.strip_infix inner))⟩

/-- The local names of a list without a closing brace are tidy, and each stands in the list. -/
theorem isTidy_of_mem_localNames (closed : '\x7d' ∉ subject) (member : name ∈ localNames subject) :
    IsTidy name ∧ name <:+: subject := by
  obtain ⟨listed, counts⟩ := List.mem_filter.1 member
  obtain ⟨piece, split, rfl⟩ := List.mem_map.1 listed
  obtain ⟨noComma, inside⟩ := Text.of_mem_splitOn split
  obtain ⟨part, within, same, noSeparator⟩ := exists_part_of_localName piece
  have inPiece : localName piece <:+: piece := same ▸ (Text.strip_infix part).trans within
  refine ⟨⟨of_decide_eq_true counts, ?_, ?_, ?_, ?_, noSeparator⟩, inPiece.trans inside⟩
  · rw [same]
    exact Text.stops_strip part
  · rw [same]
    exact Text.stops_reverse_strip part
  · exact fun comma => noComma (inPiece.subset comma)
  · exact fun brace => closed ((inPiece.trans inside).subset brace)

/-- The name of a single statement is tidy: its characters are those of names. -/
theorem isTidy_of_admits (admitted : Shape.single.Admits name) : IsTidy name := by
  obtain ⟨nonempty, chars⟩ := admitted
  have foreign (c : Char) (other : isNameChar c = false) : c ∉ name :=
    fun member => Bool.false_ne_true (other.symm.trans (chars c member))
  refine ⟨nonempty, ?_, ?_, foreign ',' (by decide), foreign '\x7d' (by decide), ?_⟩
  · intro c first
    exact not_isBlank_of_isNameChar (chars c (List.mem_of_mem_head? first))
  · intro c last
    exact not_isBlank_of_isNameChar (chars c (List.mem_reverse.1 (List.mem_of_mem_head? last)))
  · intro inside
    exact foreign ' ' (by decide) (inside.subset (by decide))

/-- Every name that a correctly spelled statement binds is tidy and stands in its subject. -/
theorem isTidy_of_mem_names {s : Statement} (spelled : s.Spelled) (member : name ∈ s.names) :
    IsTidy name ∧ name <:+: s.subject := by
  have admitted := spelled.subject
  rw [Statement.names] at member
  cases shape : s.shape with
  | single =>
    rw [shape] at admitted member
    obtain rfl := List.mem_singleton.1 member
    exact ⟨isTidy_of_admits admitted, List.infix_rfl⟩
  | grouped =>
    rw [shape] at admitted member
    exact isTidy_of_mem_localNames admitted.2 member

end TagOrigin.Import
