import TagOrigin.Import.Statement
import TagOrigin.Proofs.Text.Runs

/-!
The grammar of import statements, and that the reader accepts exactly it. A statement is spelled
correctly if each of its parts is; its text is then a string of the grammar. Reading succeeds exactly
on a correctly spelled statement that stands at the front with its semicolon, if one is there. So at
one position the grammar has at most one string, up to the final semicolon.
-/
namespace TagOrigin.Import

/-- White space between two words. -/
def IsGap (u : Text) : Prop := u ≠ [] ∧ ∀ c ∈ u, Text.isBlank c = true

/-- What a shape takes as its subject: a name, or anything without a closing brace. -/
def Shape.Admits : Shape → Text → Prop
  | .single, u => u ≠ [] ∧ ∀ c ∈ u, isNameChar c = true
  | .grouped, u => u ≠ [] ∧ '\x7d' ∉ u

/-- Every part of a statement is spelled correctly. -/
structure Statement.Spelled (s : Statement) : Prop where
  beforeSubject : IsGap s.beforeSubject
  subject : s.shape.Admits s.subject
  beforeFrom : IsGap s.beforeFrom
  beforeModule : IsGap s.beforeModule
  openQuote : isQuote s.openQuote = true
  module : s.module ≠ [] ∧ ∀ c ∈ s.module, isQuote c = false
  closeQuote : isQuote s.closeQuote = true

/-- The strings of the grammar. -/
def InGrammar (shape : Shape) (g : Text) : Prop :=
  ∃ s : Statement, s.Spelled ∧ s.shape = shape ∧ g = s.text

section Classes

/-- Names and white space have no character in common. -/
theorem not_isBlank_of_isNameChar {c : Char} (name : isNameChar c = true) :
    Text.isBlank c = false := by
  rw [isNameChar, Bool.or_eq_true, Bool.or_eq_true, beq_iff_eq, beq_iff_eq] at name
  rcases name with (letter | rfl) | rfl
  · have code := Text.code_of_isAlphanum letter
    simp only [Text.isBlank, Bool.or_eq_false_iff, Bool.and_eq_false_iff, decide_eq_false_iff_not,
      beq_eq_false_iff_ne]
    omega
  · decide
  · decide

theorem not_isNameChar_of_isBlank {c : Char} (blank : Text.isBlank c = true) :
    isNameChar c = false := by
  cases name : isNameChar c with
  | false => rfl
  | true => exact absurd blank (by simp [not_isBlank_of_isNameChar name])

/-- Characters of names and of the white space around them. -/
def isPlain (c : Char) : Bool :=
  isNameChar c || Text.isBlank c

theorem isPlain_of_isNameChar {c : Char} (name : isNameChar c = true) : isPlain c = true := by
  rw [isPlain, name, Bool.true_or]

theorem isPlain_of_isBlank {c : Char} (blank : Text.isBlank c = true) : isPlain c = true := by
  rw [isPlain, blank, Bool.or_true]

theorem isPlain_of_mem_keyword {c : Char} (member : c ∈ keyword) : isPlain c = true :=
  List.all_eq_true.1 (by decide : keyword.all isPlain = true) c member

theorem isPlain_of_mem_fromWord {c : Char} (member : c ∈ fromWord) : isPlain c = true :=
  List.all_eq_true.1 (by decide : fromWord.all isPlain = true) c member

theorem isPlain_of_mem_gap {u : Text} (gap : IsGap u) {c : Char} (member : c ∈ u) :
    isPlain c = true :=
  isPlain_of_isBlank (gap.2 c member)

theorem not_isPlain_of_isQuote {c : Char} (quote : isQuote c = true) : isPlain c = false := by
  simp only [isQuote, Bool.or_eq_true, beq_iff_eq] at quote
  rcases quote with rfl | rfl <;> decide

theorem not_isBlank_of_isQuote {c : Char} (quote : isQuote c = true) : Text.isBlank c = false :=
  (Bool.or_eq_false_iff.1 (not_isPlain_of_isQuote quote)).2

end Classes

section Parts

variable {t u rest : Text}

theorem readUntil_eq_some_iff {closing : Char} :
    readUntil closing t = some (u, rest) ↔ t = u ++ closing :: rest ∧ u ≠ [] ∧ closing ∉ u := by
  constructor
  · intro reads
    refine ⟨readUntil_eq_some reads, ?_⟩
    unfold readUntil at reads
    split at reads
    · next front =>
      cases reads
      refine ⟨List.cons_ne_nil _ _, ?_⟩
      rw [← front]
      intro member
      simpa using List.all_eq_true.1 List.all_takeWhile _ member
    · cases reads
  · rintro ⟨rfl, nonempty, clean⟩
    have inside : ∀ c ∈ u, decide (c ≠ closing) = true := Text.decide_ne_of_not_mem clean
    have stops : Text.Stops (· ≠ closing) (closing :: rest) := Text.stops_cons_iff.2 (by simp)
    obtain ⟨c, more, rfl⟩ := List.exists_cons_of_ne_nil nonempty
    rw [readUntil, Text.takeWhile_append_of_stops inside stops,
      Text.dropWhile_append_of_stops inside stops]

theorem readQuote_eq_some_iff {quote : Char} :
    readQuote t = some (quote, rest) ↔ t = quote :: rest ∧ isQuote quote = true := by
  constructor
  · intro reads
    have shape := readQuote_eq_some reads
    refine ⟨shape, ?_⟩
    rw [shape, readQuote, Option.ite_none_right_eq_some] at reads
    exact reads.1
  · rintro ⟨rfl, known⟩
    rw [readQuote, if_pos known]

/-- A semicolon is left out only where there is none. -/
theorem readSemicolon_eq_iff {terminated : Bool} :
    readSemicolon t = (terminated, rest) ↔
      t = (if terminated then [';'] else []) ++ rest ∧
        (terminated = false → rest.head? ≠ some ';') := by
  constructor
  · intro reads
    have shape := readSemicolon_eq t
    rw [reads] at shape
    refine ⟨shape, ?_⟩
    rintro rfl again
    rw [shape] at reads
    cases rest with
    | nil => cases again
    | cons c rest =>
      cases again
      cases reads
  · rintro ⟨rfl, alone⟩
    cases terminated with
    | true => rfl
    | false =>
      cases rest with
      | nil => rfl
      | cons c rest =>
        have other : c ≠ ';' := fun same => alone rfl (congrArg some same)
        simp [readSemicolon, other]

theorem readSubject_eq_some_iff {shape : Shape} :
    readSubject shape t = some (u, rest) ↔
      t = shape.write u ++ rest ∧ shape.Admits u ∧
        (shape = .single → Text.Stops isNameChar rest) := by
  cases shape with
  | single =>
    rw [readSubject, Text.run?_eq_some_iff]
    simp [Shape.write, Shape.Admits, and_assoc]
  | grouped =>
    rw [readSubject, Option.bind_eq_some_iff]
    constructor
    · rintro ⟨inner, opened, closed⟩
      obtain ⟨shape, admitted⟩ := readUntil_eq_some_iff.1 closed
      refine ⟨?_, admitted, by simp⟩
      rw [Text.after?_eq_some_iff.1 opened, shape]
      simp [Shape.write]
    · rintro ⟨rfl, admitted, _⟩
      refine ⟨u ++ '\x7d' :: rest, ?_, readUntil_eq_some_iff.2 ⟨rfl, admitted⟩⟩
      rw [Text.after?_eq_some_iff]
      simp [Shape.write]

end Parts

namespace Statement

/-- What is read is spelled correctly and has the shape asked for. -/
theorem spelled_of_read {shape : Shape} {t rest : Text} {s : Statement}
    (reads : Statement.read shape t = some (s, rest)) :
    s.Spelled ∧ s.shape = shape ∧ (s.terminated = false → rest.head? ≠ some ';') := by
  unfold Statement.read at reads
  simp only [Option.bind_eq_bind, Option.bind_eq_some_iff, Prod.exists] at reads
  obtain ⟨t₁, _, gap₁, t₂, h₂, subject, t₃, h₃, gap₂, t₄, h₄, t₅, _, gap₃, t₆, h₆, first, t₇, h₇,
    module, t₈, h₈, second, t₉, h₉, last⟩ := reads
  obtain ⟨rfl, rfl⟩ := Prod.mk.inj (Option.some.inj last)
  obtain ⟨_, nonempty₁, blank₁, _⟩ := Text.run?_eq_some_iff.1 h₂
  obtain ⟨_, nonempty₂, blank₂, _⟩ := Text.run?_eq_some_iff.1 h₄
  obtain ⟨_, nonempty₃, blank₃, _⟩ := Text.run?_eq_some_iff.1 h₆
  obtain ⟨_, admitted, _⟩ := readSubject_eq_some_iff.1 h₃
  obtain ⟨_, nonempty, inside, _⟩ := Text.run?_eq_some_iff.1 h₈
  refine ⟨?_, rfl, (readSemicolon_eq_iff.1 rfl).2⟩
  exact
    { beforeSubject := ⟨nonempty₁, blank₁⟩
      subject := admitted
      beforeFrom := ⟨nonempty₂, blank₂⟩
      beforeModule := ⟨nonempty₃, blank₃⟩
      openQuote := (readQuote_eq_some_iff.1 h₇).2
      module := ⟨nonempty, fun c member => by simpa using inside c member⟩
      closeQuote := (readQuote_eq_some_iff.1 h₉).2 }

/-- A subject begins with a character that is not white space. -/
theorem stops_write {shape : Shape} {u : Text} (admitted : shape.Admits u) (rest : Text) :
    Text.Stops Text.isBlank (shape.write u ++ rest) := by
  cases shape with
  | single =>
    obtain ⟨nonempty, inside⟩ := admitted
    exact Text.stops_append (fun _ => not_isBlank_of_isNameChar) nonempty inside rest
  | grouped => exact Text.stops_cons_iff.2 (by decide)

theorem run?_gap {u : Text} (gap : IsGap u) {rest : Text} (stops : Text.Stops Text.isBlank rest) :
    Text.run? Text.isBlank (u ++ rest) = some (u, rest) :=
  Text.run?_eq_some_iff.2 ⟨rfl, gap.1, gap.2, stops⟩

/-- A correctly spelled statement is read as it is written, as long as no semicolon that could
belong to it is left behind. -/
theorem read_text_append {s : Statement} (spelled : s.Spelled) (rest : Text)
    (alone : s.terminated = false → rest.head? ≠ some ';') :
    Statement.read s.shape (s.text ++ rest) = some (s, rest) := by
  -- what is left of the text before each part, from the end
  obtain ⟨t₁, e₁⟩ : ∃ t, t = (if s.terminated then [';'] else []) ++ rest := ⟨_, rfl⟩
  obtain ⟨t₂, e₂⟩ : ∃ t, t = s.openQuote :: (s.module ++ s.closeQuote :: t₁) := ⟨_, rfl⟩
  obtain ⟨t₃, e₃⟩ : ∃ t, t = fromWord ++ (s.beforeModule ++ t₂) := ⟨_, rfl⟩
  have whole : s.text ++ rest =
      keyword ++ (s.beforeSubject ++ (s.shape.write s.subject ++ (s.beforeFrom ++ t₃))) := by
    simp [Statement.text, e₁, e₂, e₃]
  have keywordRead := Text.after?_eq_some_iff.2 whole
  have gap₁ := run?_gap spelled.beforeSubject (stops_write spelled.subject (s.beforeFrom ++ t₃))
  have subject : readSubject s.shape (s.shape.write s.subject ++ (s.beforeFrom ++ t₃)) =
      some (s.subject, s.beforeFrom ++ t₃) :=
    readSubject_eq_some_iff.2 ⟨rfl, spelled.subject, fun _ =>
      Text.stops_append (fun _ => not_isNameChar_of_isBlank) spelled.beforeFrom.1
        spelled.beforeFrom.2 t₃⟩
  have gap₂ : Text.run? Text.isBlank (s.beforeFrom ++ t₃) = some (s.beforeFrom, t₃) := by
    apply run?_gap spelled.beforeFrom
    rw [e₃]
    exact Text.stops_cons_iff.2 (by decide)
  have fromRead := Text.after?_eq_some_iff.2 e₃
  have gap₃ : Text.run? Text.isBlank (s.beforeModule ++ t₂) = some (s.beforeModule, t₂) := by
    apply run?_gap spelled.beforeModule
    rw [e₂]
    exact Text.stops_cons_iff.2 (not_isBlank_of_isQuote spelled.openQuote)
  have opened := readQuote_eq_some_iff.2 ⟨e₂, spelled.openQuote⟩
  have module : Text.run? (fun c => !isQuote c) (s.module ++ s.closeQuote :: t₁) =
      some (s.module, s.closeQuote :: t₁) := by
    refine Text.run?_eq_some_iff.2 ⟨rfl, spelled.module.1, ?_, ?_⟩
    · intro c member
      rw [spelled.module.2 c member]
      rfl
    · exact Text.stops_cons_iff.2 (by rw [spelled.closeQuote]; rfl)
  have closed : readQuote (s.closeQuote :: t₁) = some (s.closeQuote, t₁) :=
    readQuote_eq_some_iff.2 ⟨rfl, spelled.closeQuote⟩
  have semicolon := readSemicolon_eq_iff.2 ⟨e₁, alone⟩
  simp [Statement.read, keywordRead, gap₁, subject, gap₂, fromRead, gap₃, opened, module, closed,
    semicolon]

/-- The reader accepts exactly the correctly spelled statements at the front of a text. -/
theorem read_eq_some_iff {shape : Shape} {t rest : Text} {s : Statement} :
    Statement.read shape t = some (s, rest) ↔
      s.Spelled ∧ s.shape = shape ∧ t = s.text ++ rest ∧
        (s.terminated = false → rest.head? ≠ some ';') := by
  constructor
  · intro reads
    obtain ⟨spelled, same, alone⟩ := spelled_of_read reads
    exact ⟨spelled, same, eq_text_append_of_read reads, alone⟩
  · rintro ⟨spelled, rfl, rfl, alone⟩
    exact read_text_append spelled rest alone

/-- The statement with its final semicolon. -/
def terminate (s : Statement) : Statement :=
  { s with terminated := true }

theorem text_terminate {s : Statement} (unterminated : s.terminated = false) :
    s.terminate.text = s.text ++ [';'] := by
  simp [text, terminate, unterminated]

theorem text_ne_nil (s : Statement) : s.text ≠ [] := by
  simp [text, keyword]

/-- Where a string of the grammar stands the reader finds it, together with a semicolon that could
belong to it. -/
theorem exists_read_of_prefix {shape : Shape} {g t : Text} (grammatical : InGrammar shape g)
    (front : g <+: t) :
    ∃ s rest, Statement.read shape t = some (s, rest) ∧ (g = s.text ∨ g ++ [';'] = s.text) := by
  obtain ⟨s, spelled, rfl, rfl⟩ := grammatical
  obtain ⟨rest, rfl⟩ := front
  by_cases alone : s.terminated = false → rest.head? ≠ some ';'
  · exact ⟨s, rest, read_text_append spelled rest alone, .inl rfl⟩
  · obtain ⟨unterminated, again⟩ := Classical.not_imp.1 alone
    obtain ⟨rest, rfl⟩ : ∃ more, rest = ';' :: more := by
      cases rest with
      | nil => exact absurd again (by simp)
      | cons c rest => exact ⟨rest, by rw [Option.some.inj (Classical.not_not.1 again)]⟩
    have respelled : s.terminate.Spelled := { spelled with }
    have reads := read_text_append respelled rest (by simp [terminate])
    rw [text_terminate unterminated, List.append_assoc] at reads
    exact ⟨s.terminate, rest, reads, .inr (text_terminate unterminated).symm⟩

end Statement

/-- What is read at a position is a string of the grammar. -/
theorem inGrammar_of_read {shape : Shape} {t rest : Text} {s : Statement}
    (reads : Statement.read shape t = some (s, rest)) : InGrammar shape s.text := by
  obtain ⟨spelled, same, _, _⟩ := Statement.read_eq_some_iff.1 reads
  exact ⟨s, spelled, same, rfl⟩

/-- At one position the grammar has one string, up to the final semicolon. -/
theorem eq_up_to_semicolon {shape : Shape} {g g' t : Text} (left : InGrammar shape g)
    (right : InGrammar shape g') (front : g <+: t) (front' : g' <+: t) :
    g = g' ∨ g ++ [';'] = g' ∨ g' ++ [';'] = g := by
  obtain ⟨s, rest, reads, same⟩ := Statement.exists_read_of_prefix left front
  obtain ⟨s', rest', reads', same'⟩ := Statement.exists_read_of_prefix right front'
  obtain ⟨rfl, rfl⟩ := Prod.mk.inj (Option.some.inj (reads.symm.trans reads'))
  rcases same with rfl | long
  · rcases same' with rfl | long'
    · exact .inl rfl
    · exact .inr (.inr long')
  · rcases same' with rfl | long'
    · exact .inr (.inl long)
    · exact .inl (List.append_cancel_right (long.trans long'.symm))

end TagOrigin.Import
