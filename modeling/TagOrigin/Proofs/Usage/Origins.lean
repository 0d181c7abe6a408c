import TagOrigin.Proofs.Import.Extraction
import TagOrigin.Proofs.Import.LocalNames
import TagOrigin.Proofs.Usage.Grouping

/-!
Origins of usages. An origin is the text of a statement of the same source that binds the name of the
usage, whatever else the source holds: it lies in the source, is spelled like a statement from its first
letter to its last, and names what it is the origin of at the place where a statement does so.
-/
namespace TagOrigin

namespace Import

/-- What stands before the first quote of a text. -/
def beforeQuote (t : Text) : Text :=
  t.takeWhile fun c => !isQuote c

/-- What stands between the first opening brace of a text and the next closing one. -/
def inBraces (t : Text) : Text :=
  ((t.dropWhile (· ≠ '\x7b')).drop 1).takeWhile (· ≠ '\x7d')

section Statements

variable {t : Text} {s : Statement} {shape : Shape}

/-- A statement of a text is correctly spelled and lies in it. -/
theorem spelled_of_mem_statements (member : s ∈ statements shape t) :
    s.Spelled ∧ s.shape = shape ∧ s.text <:+: t := by
  rw [← map_item_placed] at member
  obtain ⟨p, inside, rfl⟩ := List.mem_map.1 member
  obtain ⟨_, rest, reads⟩ := read_of_mem_placed inside
  obtain ⟨spelled, same, split, _⟩ := Statement.read_eq_some_iff.1 reads
  have front : p.item.text <+: t.drop p.offset := ⟨rest, split.symm⟩
  exact ⟨spelled, same, front.isInfix.trans (List.drop_suffix _ t).isInfix⟩

theorem keyword_front (s : Statement) : keyword <+: s.text := by
  refine ⟨s.beforeSubject ++ s.shape.write s.subject ++ s.beforeFrom ++ fromWord ++ s.beforeModule ++
    s.openQuote :: s.module ++ s.closeQuote :: (if s.terminated then [';'] else []), ?_⟩
  simp [Statement.text]

/-- A statement ends with a quote, or with a quote and a semicolon. -/
theorem exists_quote_last (spelled : s.Spelled) :
    ∃ front quote, isQuote quote = true ∧ (s.text = front ++ [quote] ∨ s.text = front ++ [quote, ';']) := by
  refine ⟨keyword ++ s.beforeSubject ++ s.shape.write s.subject ++ s.beforeFrom ++ fromWord ++
    s.beforeModule ++ s.openQuote :: s.module, s.closeQuote, spelled.closeQuote, ?_⟩
  cases terminated : s.terminated with
  | false => exact .inl (by simp [Statement.text, terminated])
  | true => exact .inr (by simp [Statement.text, terminated])

/-- The subject of a single statement stands before the first quote. -/
theorem subject_beforeQuote (spelled : s.Spelled) (single : s.shape = .single) :
    s.subject <:+: beforeQuote s.text := by
  have admitted := spelled.subject
  rw [single] at admitted
  have unquoted {u : Text} (plain : ∀ c ∈ u, isPlain c = true) : ∀ c ∈ u, (!isQuote c) = true := by
    intro c member
    rw [Bool.not_eq_true', Bool.eq_false_iff]
    intro quote
    exact Bool.false_ne_true ((not_isPlain_of_isQuote quote).symm.trans (plain c member))
  have front : ∀ c ∈ keyword ++ s.beforeSubject ++ s.subject, isPlain c = true := by
    simp only [List.forall_mem_append]
    exact ⟨⟨fun _ => isPlain_of_mem_keyword, fun _ => isPlain_of_mem_gap spelled.beforeSubject⟩,
      fun c member => isPlain_of_isNameChar (admitted.2 c member)⟩
  have whole : s.text = keyword ++ s.beforeSubject ++ s.subject ++ (s.beforeFrom ++ fromWord ++
      s.beforeModule ++ s.openQuote :: s.module ++
      s.closeQuote :: (if s.terminated then [';'] else [])) := by
    simp [Statement.text, single, Shape.write]
  rw [whole, beforeQuote, List.takeWhile_append_of_pos (unquoted front)]
  exact List.infix_append (keyword ++ s.beforeSubject) s.subject _

/-- The subject of a grouped statement is what stands in its first pair of braces. -/
theorem subject_inBraces (spelled : s.Spelled) (grouped : s.shape = .grouped) :
    inBraces s.text = s.subject := by
  have admitted := spelled.subject
  rw [grouped] at admitted
  have noBrace {u : Text} (plain : ∀ c ∈ u, isPlain c = true) :
      ∀ c ∈ u, decide (c ≠ '\x7b') = true := by
    intro c member
    apply decide_eq_true
    rintro rfl
    exact absurd (plain _ member) (by decide)
  have front : ∀ c ∈ keyword ++ s.beforeSubject, isPlain c = true := by
    simp only [List.forall_mem_append]
    exact ⟨fun _ => isPlain_of_mem_keyword, fun _ => isPlain_of_mem_gap spelled.beforeSubject⟩
  have whole : s.text = keyword ++ s.beforeSubject ++ '\x7b' :: (s.subject ++ '\x7d' :: (s.beforeFrom ++
      fromWord ++ s.beforeModule ++ s.openQuote :: s.module ++
      s.closeQuote :: (if s.terminated then [';'] else []))) := by
    simp [Statement.text, grouped, Shape.write]
  rw [whole, inBraces, Text.dropWhile_append_of_stops (noBrace front) (Text.stops_cons_iff.2 (by decide)),
    List.drop_one, List.tail_cons, Text.takeWhile_append_stop (by decide),
    Text.takeWhile_ne_of_not_mem admitted.2]

end Statements

/-- A text shows that a name is imported in a source: it is a statement of the source, and the name
stands in it where statements of its shape have their names. -/
structure ShowsImport (t name origin : Text) : Prop where
  inside : origin <:+: t
  begins : keyword <+: origin
  ends : ∃ front quote, isQuote quote = true ∧
    (origin = front ++ [quote] ∨ origin = front ++ [quote, ';'])
  named : InGrammar .single origin ∧ name <:+: beforeQuote origin ∨
    InGrammar .grouped origin ∧ name <:+: inBraces origin

section Bindings

variable {t name origin : Text}

/-- What a name is bound to is the text of a statement that binds it. -/
theorem exists_statement_of_get? (found : Register.get? name (bindings t) = some origin) :
    ∃ shape, ∃ s ∈ statements shape t, name ∈ s.names ∧ s.text = origin := by
  rw [bindings, get?_foldl_add, Register.get?, Option.or_none, Option.map_eq_some_iff] at found
  obtain ⟨s, last, same⟩ := found
  rw [List.findRev?_eq_find?_reverse] at last
  have binds : name ∈ s.names := by simpa using List.find?_some last
  rcases List.mem_append.1 (List.mem_reverse.1 (List.mem_of_find?_eq_some last)) with member | member
  · exact ⟨.single, s, member, binds, same⟩
  · exact ⟨.grouped, s, member, binds, same⟩

/-- Every bound name is bound to something that shows its import, and is tidy. -/
theorem showsImport_of_get? (found : Register.get? name (bindings t) = some origin) :
    ShowsImport t name origin ∧ IsTidy name := by
  obtain ⟨shape, s, member, binds, rfl⟩ := exists_statement_of_get? found
  obtain ⟨spelled, same, inside⟩ := spelled_of_mem_statements member
  obtain ⟨tidy, within⟩ := isTidy_of_mem_names spelled binds
  refine ⟨⟨inside, keyword_front s, exists_quote_last spelled, ?_⟩, tidy⟩
  cases shape with
  | single => exact .inl ⟨⟨s, spelled, same, rfl⟩, within.trans (subject_beforeQuote spelled same)⟩
  | grouped =>
    refine .inr ⟨⟨s, spelled, same, rfl⟩, ?_⟩
    rw [subject_inBraces spelled same]
    exact within

end Bindings

end Import

/-- A usage of a source has what its own imports give for its name. -/
theorem origin_of_mem_scanSource {t : Text} {u : Usage} (member : u ∈ (scanSource t).flatMap Prod.snd) :
    u.origin = Register.get? u.name (Import.bindings t) := by
  have listed := (Usage.perm_byName (Usage.ofText (Import.bindings t) t)).subset member
  rw [Usage.ofText_eq] at listed
  obtain ⟨i, _, rfl⟩ := List.mem_map.1 listed
  rfl

/-- A usage has an origin exactly if its name is bound in its source, and then the origin shows the import
of this name there. Every bound name is tidy. -/
theorem origins_show_imports (t : Text) :
    (∀ u ∈ (scanSource t).flatMap Prod.snd,
      (u.origin.isSome ↔ u.name ∈ Register.keys (Import.bindings t)) ∧
        ∀ origin, u.origin = some origin → Import.ShowsImport t u.name origin) ∧
      ∀ key ∈ Register.keys (Import.bindings t), Import.IsTidy key := by
  refine ⟨?_, ?_⟩
  · intro u member
    rw [origin_of_mem_scanSource member]
    exact ⟨Register.isSome_get?_iff, fun origin found => (Import.showsImport_of_get? found).1⟩
  · intro key member
    obtain ⟨origin, found⟩ := Option.isSome_iff_exists.1 (Register.isSome_get?_iff.2 member)
    exact (Import.showsImport_of_get? found).2

end TagOrigin
