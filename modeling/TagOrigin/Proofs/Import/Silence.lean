import TagOrigin.Proofs.Import.Grammar
import TagOrigin.Proofs.Text.Search

/-!
Stretches of text in which no statement begins. There are five reasons for a stretch to be silent:
its letters do not begin the keyword, it ends before white space can follow a keyword in it, it shows
a character that no statement of the shape has at that place, the keyword does not occur in it, or
there are too few quotes up to the end of the text.
Stretches can be put together, so a text is judged part by part.
-/
namespace TagOrigin.Import

/-- No statement of a shape begins in the stretch when the rest follows. -/
def Silent (shape : Shape) (stretch rest : Text) : Prop :=
  ∀ after, after <:+ stretch → after ≠ [] → Statement.read shape (after ++ rest) = none

variable {shape : Shape} {u v rest : Text}

theorem silent_append (left : Silent shape u (v ++ rest)) (right : Silent shape v rest) :
    Silent shape (u ++ v) rest := by
  rintro after ⟨before, split⟩ nonempty
  rcases List.append_eq_append_iff.1 split with ⟨inner, front, whole⟩ | ⟨inner, _, whole⟩
  · by_cases empty : inner = []
    · subst empty
      exact right after (whole ▸ List.suffix_rfl) nonempty
    · rw [whole, List.append_assoc]
      exact left inner ⟨before, front.symm⟩ empty
  · exact right after ⟨inner, whole.symm⟩ nonempty

theorem silent_cons {c : Char} (here : Statement.read shape (c :: (u ++ rest)) = none)
    (later : Silent shape u rest) : Silent shape (c :: u) rest := by
  intro after suffix nonempty
  rcases List.suffix_cons_iff.1 suffix with rfl | inside
  · exact here
  · exact later after inside nonempty

theorem statements_append_of_silent (silent : Silent shape u rest) :
    statements shape (u ++ rest) = statements shape rest := by
  apply Scan.matchesOf_append_of_silent
  intro after suffix nonempty
  rw [silent after suffix nonempty, Option.map_none]

section Front

variable {t : Text} {result : Statement × Text}

/-- A statement begins with the keyword and white space. -/
theorem eq_keyword_append_of_read (reads : Statement.read shape t = some result) :
    ∃ c more, t = keyword ++ c :: more ∧ Text.isBlank c = true := by
  unfold Statement.read at reads
  simp only [Option.bind_eq_bind, Option.bind_eq_some_iff, Prod.exists] at reads
  obtain ⟨t₁, word, gap, t₂, run, _⟩ := reads
  obtain ⟨whole, nonempty, blank⟩ := Text.run?_eq_some run
  obtain ⟨c, more, rfl⟩ := List.exists_cons_of_ne_nil nonempty
  refine ⟨c, more ++ t₂, ?_, blank c List.mem_cons_self⟩
  rw [Text.after?_eq_some_iff.1 word, whole, List.cons_append]

/-- The first character of a statement that is not a plain one: what opens a module, or a brace. -/
def Shape.Marks : Shape → Char → Prop
  | .single, c => isQuote c = true
  | .grouped, c => c = '\x7b'

instance (shape : Shape) (c : Char) : Decidable (shape.Marks c) :=
  match shape with
  | .single => inferInstanceAs (Decidable (isQuote c = true))
  | .grouped => inferInstanceAs (Decidable (c = '\x7b'))

theorem not_marks_of_isPlain {c : Char} (plain : isPlain c = true) : ¬ shape.Marks c := by
  intro marks
  cases shape with
  | single => exact absurd plain (by simp [not_isPlain_of_isQuote marks])
  | grouped => exact absurd (marks ▸ plain) (by decide)

theorem exists_mark_of_read (reads : Statement.read shape t = some result) :
    ∃ front mark back, t = front ++ mark :: back ∧ (∀ c ∈ front, isPlain c = true) ∧
      shape.Marks mark := by
  obtain ⟨s, rest⟩ := result
  obtain ⟨spelled, rfl, rfl, _⟩ := Statement.read_eq_some_iff.1 reads
  have keywordPlain : ∀ c ∈ keyword, isPlain c = true := fun _ => isPlain_of_mem_keyword
  have fromPlain : ∀ c ∈ fromWord, isPlain c = true := fun _ => isPlain_of_mem_fromWord
  have gap {w : Text} (spelled : IsGap w) : ∀ c ∈ w, isPlain c = true :=
    fun _ => isPlain_of_mem_gap spelled
  have admitted := spelled.subject
  cases shape : s.shape with
  | single =>
    rw [shape] at admitted
    have name : ∀ c ∈ s.subject, isPlain c = true :=
      fun c member => isPlain_of_isNameChar (admitted.2 c member)
    refine ⟨keyword ++ s.beforeSubject ++ s.subject ++ s.beforeFrom ++ fromWord ++ s.beforeModule,
      s.openQuote, s.module ++ s.closeQuote :: (if s.terminated then [';'] else []) ++ rest,
      ?_, ?_, spelled.openQuote⟩
    · simp [Statement.text, shape, Shape.write]
    · simp only [List.forall_mem_append]
      exact ⟨⟨⟨⟨⟨keywordPlain, gap spelled.beforeSubject⟩, name⟩, gap spelled.beforeFrom⟩,
        fromPlain⟩, gap spelled.beforeModule⟩
  | grouped =>
    refine ⟨keyword ++ s.beforeSubject, '\x7b', s.subject ++ '\x7d' :: (s.beforeFrom ++ fromWord ++
      s.beforeModule ++ s.openQuote :: s.module ++ s.closeQuote ::
      (if s.terminated then [';'] else []) ++ rest), ?_, ?_, rfl⟩
    · simp [Statement.text, shape, Shape.write]
    · simp only [List.forall_mem_append]
      exact ⟨keywordPlain, gap spelled.beforeSubject⟩

/-- Braces with nothing between them are no subject. -/
theorem read_empty_braces {gap : Text} (spelled : IsGap gap) (t : Text) :
    Statement.read .grouped (keyword ++ (gap ++ '\x7b' :: '\x7d' :: t)) = none := by
  have word : Text.after? keyword (keyword ++ (gap ++ '\x7b' :: '\x7d' :: t)) =
      some (gap ++ '\x7b' :: '\x7d' :: t) := Text.after?_eq_some_iff.2 rfl
  have blank : Text.run? Text.isBlank (gap ++ '\x7b' :: '\x7d' :: t) =
      some (gap, '\x7b' :: '\x7d' :: t) :=
    Statement.run?_gap spelled (Text.stops_cons_iff.2 (by decide))
  have subject : readSubject .grouped ('\x7b' :: '\x7d' :: t) = none := rfl
  simp [Statement.read, word, blank, subject]

end Front

/-- No statement begins at a character other than the first letter of the keyword. -/
theorem silent_of_not_mem (absent : 'i' ∉ u) : Silent shape u rest := by
  intro after suffix nonempty
  obtain ⟨c, more, rfl⟩ := List.exists_cons_of_ne_nil nonempty
  have other : 'i' ≠ c := by
    rintro rfl
    exact absent (suffix.subset List.mem_cons_self)
  simp [Statement.read, keyword, Text.after?, other]

theorem letter_not_mem_gap {gap : Text} (blank : IsGap gap) : 'i' ∉ gap :=
  fun member => absurd (blank.2 'i' member) (by decide)

/-- No statement begins between a subject and a module. -/
theorem silent_fromWord {gap gap' : Text} {quote : Char} (before : IsGap gap) (after : IsGap gap')
    (quoted : isQuote quote = true) : Silent shape (gap ++ fromWord ++ gap' ++ [quote]) rest := by
  have other : 'i' ≠ quote := by
    intro same
    exact absurd quoted (by rw [← same]; decide)
  have word : 'i' ∉ fromWord := by decide
  apply silent_of_not_mem
  simp [other, word, letter_not_mem_gap before, letter_not_mem_gap after]

/-- A statement has two quotes, so none begins where fewer are left. -/
theorem silent_of_few_quotes (few : (u ++ rest).countP isQuote < 2) : Silent shape u rest := by
  intro after suffix _
  rw [Option.eq_none_iff_forall_ne_some]
  rintro ⟨s, behind⟩ reads
  obtain ⟨spelled, _, whole, _⟩ := Statement.read_eq_some_iff.1 reads
  have two : 2 ≤ s.text.countP isQuote := by
    simp [Statement.text, List.countP_append, spelled.openQuote, spelled.closeQuote]
    omega
  have inside : (after ++ rest).countP isQuote ≤ (u ++ rest).countP isQuote :=
    (List.Sublist.append_right suffix.sublist rest).countP_le
  rw [whole, List.countP_append] at inside
  omega

section Split

variable {after : Text} {last : Char}

/-- Every part of the end of a stretch holds its last character. -/
theorem last_mem_of_suffix (suffix : after <:+ u ++ [last]) (nonempty : after ≠ []) :
    last ∈ after := by
  rcases List.suffix_concat_iff.1 suffix with empty | ⟨front, rfl, _⟩
  · exact absurd empty nonempty
  · exact List.mem_append_right front List.mem_cons_self

/-- If a character stands outside of the front of a text then the text before it reaches over the
front, and over the character behind that. -/
theorem mem_of_append_eq {front back : Text} {mark : Char}
    (split : after ++ rest = front ++ mark :: back) (ends : last ∈ after) (late : last ∉ front) :
    mark ∈ after := by
  rcases List.append_eq_append_iff.1 split with ⟨inner, whole, _⟩ | ⟨inner, whole, behind⟩
  · exact absurd (whole ▸ List.mem_append_left inner ends) late
  · cases inner with
    | nil =>
      rw [List.append_nil] at whole
      exact absurd (whole ▸ ends) late
    | cons d inner =>
      obtain rfl := (List.cons.inj behind).1
      exact whole ▸ List.mem_append_right front List.mem_cons_self

/-- A keyword in a stretch without white space is not followed by white space if the stretch ends
with a character of another word. -/
theorem silent_of_unspaced (unspaced : ∀ c ∈ u ++ [last], Text.isBlank c = false)
    (foreign : last ∉ keyword) : Silent shape (u ++ [last]) rest := by
  intro after suffix nonempty
  have ends := last_mem_of_suffix suffix nonempty
  rw [Option.eq_none_iff_forall_ne_some]
  intro result reads
  obtain ⟨c, more, split, blank⟩ := eq_keyword_append_of_read reads
  have inside := suffix.subset (mem_of_append_eq split ends foreign)
  exact absurd blank (by simp [unspaced c inside])

/-- A stretch that ends with a special character has no statement in it if it does not show the one
that a statement needs first. -/
theorem silent_of_unmarked (unmarked : ∀ c ∈ u ++ [last], ¬ shape.Marks c)
    (special : isPlain last = false) : Silent shape (u ++ [last]) rest := by
  intro after suffix nonempty
  have ends := last_mem_of_suffix suffix nonempty
  rw [Option.eq_none_iff_forall_ne_some]
  intro result reads
  obtain ⟨front, mark, back, split, plain, marks⟩ := exists_mark_of_read reads
  have late : last ∉ front := fun inside => absurd (plain last inside) (by simp [special])
  exact unmarked mark (suffix.subset (mem_of_append_eq split ends late)) marks

/-- Up to the end of its list a grouped statement shows no quote, unless there is one in the list. -/
theorem silent_list {gap list : Text} (blank : IsGap gap) (quoteless : ∀ c ∈ list, isQuote c = false) :
    Silent .single (keyword ++ gap ++ ['\x7b'] ++ list ++ ['\x7d']) rest := by
  refine silent_of_unmarked ?_ (by decide)
  intro c member
  simp only [List.mem_append, List.mem_singleton] at member
  rcases member with (((inside | inside) | rfl) | inside) | rfl
  · exact not_marks_of_isPlain (isPlain_of_mem_keyword inside)
  · exact not_marks_of_isPlain (isPlain_of_mem_gap blank inside)
  · decide
  · exact Bool.eq_false_iff.1 (quoteless c inside)
  · decide

/-- A keyword does not begin in one text and end in another that begins with a keyword, since its
first letter does not occur in it again. -/
theorem silent_of_clean (clean : ¬ keyword <:+: u) (next : rest = [] ∨ keyword <+: rest) :
    Silent shape u rest := by
  intro after suffix nonempty
  have absent : ¬ keyword <+: after := fun front => clean (front.isInfix.trans suffix.isInfix)
  rw [Option.eq_none_iff_forall_ne_some]
  intro result reads
  obtain ⟨c, more, split, _⟩ := eq_keyword_append_of_read reads
  rcases List.append_eq_append_iff.1 split with ⟨inner, whole, behind⟩ | ⟨inner, whole, _⟩
  · cases inner with
    | nil =>
      rw [List.append_nil] at whole
      exact absent (whole ▸ List.prefix_rfl)
    | cons d inner =>
      rcases next with rfl | ⟨tail, rfl⟩
      · cases behind
      · obtain rfl : 'i' = d := (List.cons.inj behind).1
        obtain ⟨a, begun, rfl⟩ := List.exists_cons_of_ne_nil nonempty
        have once : ['m', 'p', 'o', 'r', 't'] = begun ++ 'i' :: inner := (List.cons.inj whole).2
        have twice : 'i' ∈ ['m', 'p', 'o', 'r', 't'] := by
          rw [once]
          simp
        exact absurd twice (by decide)
  · exact absent ⟨inner, whole.symm⟩

end Split

end TagOrigin.Import
