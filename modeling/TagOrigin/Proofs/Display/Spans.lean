import TagOrigin.Proofs.Display.Tags

/-!
The styles of what is shown. Each span has the style of a tag that is opened in the text, so a text whose
tags ask for styles that can be looked up is printed if it can be read. Of two texts in one line, only a
tag that begins in the one and ends in the other can fail: because it cannot be applied where it stands,
or because its style cannot be looked up.
-/
namespace TagOrigin.Display

theorem Span.mem_insert {span other : Span} {spans : List Span} :
    other ∈ span.insert spans ↔ other = span ∨ other ∈ spans := by
  induction spans with
  | nil => simp [insert]
  | cons first rest ih =>
    rw [insert]
    split
    · simp
    · simp [ih, or_left_comm]

/-- Putting spans in order keeps all of them. -/
theorem Span.mem_inOrder {span : Span} {spans : List Span} : span ∈ inOrder spans ↔ span ∈ spans := by
  have folded (sorted : List Span) : span ∈ spans.foldl (fun sorted span => span.insert sorted) sorted ↔
      span ∈ sorted ∨ span ∈ spans := by
    induction spans generalizing sorted with
    | nil => simp
    | cons first rest ih => rw [List.foldl_cons, ih, mem_insert, List.mem_cons, or_comm (a := span = first),
        or_assoc]
  rw [inOrder, folded]
  simp

namespace Styled

variable {line : Styled} {span : Span}

/-- A style is looked up exactly if nothing cuts the text, or if its span covers something else than line
feeds. -/
theorem mem_printed_iff : span ∈ line.printed ↔ span ∈ line.spans ∧
    (('\n' ∉ line.text ∧ '\t' ∉ line.text) ∨ ∃ c ∈ line.text.extract span.start span.stop, c ≠ '\n') := by
  rw [printed]
  split
  · next cut =>
    have cut' : ¬ ('\n' ∉ line.text ∧ '\t' ∉ line.text) := by
      obtain ⟨c, member, stop⟩ := List.any_eq_true.1 cut
      rcases (by simpa using stop : c = '\n' ∨ c = '\t') with rfl | rfl
      · exact fun whole => whole.1 member
      · exact fun whole => whole.2 member
    simp [List.mem_filter, cut']
  · next whole =>
    have whole' : '\n' ∉ line.text ∧ '\t' ∉ line.text := by
      simp only [List.any_eq_true, not_exists, not_and] at whole
      exact ⟨fun member => whole '\n' member rfl, fun member => whole '\t' member rfl⟩
    exact (and_iff_left (.inl whole')).symm

/-- A style with a single span, which reaches to the end. -/
theorem exists_printed_iff {front back style : Text} (text : line.text = front ++ back)
    (asked : ⟨front.length, line.text.length, style⟩ ∈ line.spans)
    (only : ∀ span ∈ line.spans, span.style = style → span = ⟨front.length, line.text.length, style⟩) :
    (∃ span ∈ line.printed, span.style = style) ↔
      ('\n' ∉ line.text ∧ '\t' ∉ line.text) ∨ ∃ c ∈ back, c ≠ '\n' := by
  have single : (∃ span ∈ line.printed, span.style = style) ↔
      ⟨front.length, line.text.length, style⟩ ∈ line.printed := by
    constructor
    · rintro ⟨span, member, same⟩
      exact only span (mem_printed_iff.1 member).1 same ▸ member
    · exact fun member => ⟨_, member, rfl⟩
  have covered : line.text.extract front.length line.text.length = back := by simp [text]
  rw [single, mem_printed_iff, and_iff_right asked, covered]

/-- The styles of a text can be looked up exactly if each of them can. -/
theorem resolve_eq_ok_iff : line.resolve = .ok () ↔ ∀ span ∈ line.printed, Style.Resolves span.style := by
  rw [resolve, List.forM_eq_forM]
  induction line.printed with
  | nil => exact iff_of_true rfl (by simp)
  | cons span spans ih =>
    rw [List.forM_cons, List.forall_mem_cons, ← ih, bind_eq_ok_iff]
    constructor
    · rintro ⟨_, here, later⟩
      exact ⟨here, later⟩
    · rintro ⟨here, later⟩
      exact ⟨(), here, later⟩

end Styled

namespace Markup

section Steps

variable {p : Text → Prop} {stack : List Opened} {steps : List Step} {tag : Opened} {step : Step}

/-- What opens a tag is a bracket. -/
theorem exists_bracket_of_opens {pieces : List Piece} (traced : trace stack pieces = .ok steps)
    (member : step ∈ steps) (opens : step.change = some (.opens tag)) :
    ∃ b position, Piece.bracket b position ∈ pieces ∧ b.IsLive ∧ opened? b.body = some tag := by
  induction pieces generalizing stack steps with
  | nil =>
    obtain rfl : [] = steps := Except.ok.inj traced
    cases member
  | cons piece pieces ih =>
    obtain ⟨first, more, stepped, later, rfl⟩ := trace_cons_iff.1 traced
    rcases List.mem_cons.1 member with rfl | member
    · cases piece with
      | stretch t =>
        obtain rfl := Except.ok.inj stepped
        cases opens
      | bracket b position =>
        by_cases live : b.IsLive
        · refine ⟨b, position, List.mem_cons_self, live, ?_⟩
          rw [Piece.step_of_isLive live] at stepped
          obtain ⟨change, read, rfl⟩ := map_eq_ok_iff.1 stepped
          obtain rfl := Option.some.inj opens
          exact (opened?_eq_some_iff stack _).2 read
        · rw [Piece.step_of_plain live] at stepped
          obtain rfl := Except.ok.inj stepped
          cases opens
    · obtain ⟨b, position, inside, found⟩ := ih later member
      exact ⟨b, position, List.mem_cons_of_mem piece inside, found⟩

/-- Gathering adds no brackets. -/
theorem found_of_mem_gather {b : Bracket} {position place : Nat} {tokens : List (Scan.Token Char Bracket)}
    (member : Piece.bracket b place ∈ gather position tokens) : .found b ∈ tokens := by
  induction tokens generalizing position with
  | nil => cases member
  | cons token tokens ih =>
    cases token with
    | found first =>
      rw [gather] at member
      rcases List.mem_cons.1 member with same | later
      · obtain ⟨rfl, -⟩ := Piece.bracket.inj same
        exact List.mem_cons_self
      · exact List.mem_cons_of_mem _ (ih later)
    | other c =>
      have later : Piece.bracket b place ∈ gather (position + 1) tokens := by
        rw [gather] at member
        split at member
        · next t pieces gathered =>
          rw [gathered]
          simpa using member
        · simpa using member
      exact List.mem_cons_of_mem _ (ih later)

theorem mem_brackets_of_mem_gather {b : Bracket} {t : Text} {position place : Nat}
    (member : Piece.bracket b place ∈ gather position (Scan.tokens Bracket.read 0 t)) : b ∈ brackets t :=
  List.mem_filterMap.2 ⟨_, found_of_mem_gather member, rfl⟩

/-- Some steps close spans and leave tags open, all of which have been open before or are opened by them. -/
theorem spansFrom_append (first rest : List Step) (shown : Nat) (opened : List (Nat × Text))
    (before : ∀ entry ∈ opened, p entry.2)
    (each : ∀ step ∈ first, ∀ tag, step.change = some (.opens tag) → p tag.style) :
    ∃ closed still, spansFrom shown opened (first ++ rest) =
        closed ++ spansFrom (shown + (first.flatMap Step.shown).length) still rest ∧
      (∀ span ∈ closed, p span.style) ∧ ∀ entry ∈ still, p entry.2 := by
  induction first generalizing shown opened with
  | nil => exact ⟨[], opened, by simp, by simp, before⟩
  | cons step first ih =>
    obtain ⟨here, later⟩ := List.forall_mem_cons.1 each
    obtain ⟨t, change⟩ := step
    have places : shown + ((⟨t, change⟩ :: first).flatMap Step.shown).length =
        shown + t.length + (first.flatMap Step.shown).length := by
      simp [Nat.add_assoc]
    rw [places]
    cases change with
    | none => exact ih _ _ before later
    | some change =>
      cases change with
      | opens tag =>
        refine ih _ _ (List.forall_mem_cons.2 ⟨?_, before⟩) later
        exact here tag rfl
      | closes place =>
        have outer : ∀ entry ∈ opened.eraseIdx place, p entry.2 :=
          fun entry member => before entry (List.mem_of_mem_eraseIdx member)
        obtain ⟨closed, still, whole, ended, left⟩ := ih (shown + t.length) _ outer later
        refine ⟨opened[place]?.toList.map (fun entry => ⟨entry.1, shown + t.length, entry.2⟩) ++ closed,
          still, ?_, ?_, left⟩
        · rw [List.append_assoc, ← whole]
          rfl
        · intro span member
          rcases List.mem_append.1 member with now | member
          · obtain ⟨entry, inside, rfl⟩ := List.mem_map.1 now
            exact before entry (List.mem_of_getElem? (Option.mem_toList.1 inside))
          · exact ended span member

/-- What holds of the styles of all tags that are opened in a text holds of the styles of its spans. -/
theorem forall_spans {t : Text} {line : Styled} (read : styled t = .ok line)
    (each : ∀ b ∈ brackets t, b.IsLive → ∀ tag ∈ opened? b.body, p tag.style) :
    ∀ span ∈ line.spans, p span.style := by
  by_cases bracketed : '[' ∈ t
  · obtain ⟨steps, traced, rfl⟩ := (styled_eq_ok_iff bracketed).1 read
    have opened : ∀ step ∈ steps, ∀ tag, step.change = some (.opens tag) → p tag.style := by
      intro step member tag opens
      obtain ⟨b, position, inside, live, opened⟩ := exists_bracket_of_opens traced member opens
      exact each b (mem_brackets_of_mem_gather inside) live tag opened
    obtain ⟨closed, still, whole, ended, left⟩ := spansFrom_append steps [] 0 [] nofun opened
    intro span member
    have gathered : span ∈ spansFrom 0 [] (steps ++ []) := by
      rw [List.append_nil]
      exact Span.mem_inOrder.1 member
    rw [whole, List.mem_append] at gathered
    rcases gathered with now | last
    · exact ended span now
    · obtain ⟨entry, open', rfl⟩ := List.mem_map.1 last
      exact left entry open'
  · obtain rfl := Except.ok.inj ((styled_of_not_mem bracketed).symm.trans read)
    intro span member
    cases member

/-- So the styles of a text can be looked up if those of its tags can. -/
theorem resolve_of_resolves {t : Text} {line : Styled} (read : styled t = .ok line)
    (resolves : ∀ b ∈ brackets t, b.Resolves) : line.resolve = .ok () := by
  have each := forall_spans read resolves
  exact Styled.resolve_eq_ok_iff.2 fun span member => each span (Styled.mem_printed_iff.1 member).1

end Steps

/-- A tag that cannot be applied to the tags that are open behind a text. -/
def Refuses (front : Text) (b : Bracket) : Prop :=
  ∀ stack, openAfter [] (brackets front) = some stack → ∃ fault, applyTag stack b.body 0 = .error fault

/-- A tag whose style is looked up when a text is printed, and cannot be. -/
def Spoils (t : Text) (b : Bracket) : Prop :=
  ∃ tag ∈ opened? b.body, ¬ Style.Resolves tag.style ∧
    ∃ line, styled t = .ok line ∧ ∃ span ∈ line.printed, span.style = tag.style

/-- A tag that begins in one text, ends in the next one, and cannot be applied there or printed. -/
structure Breaks (front rest : Text) (b : Bracket) : Prop where
  crosses : Crosses front rest b
  live : b.IsLive
  fails : Refuses front b ∨ Spoils (front ++ rest) b

section Joining

variable {front rest : Text} {b : Bracket} {stack : List Opened}

theorem openAfter_of_crosses (begun : openAfter [] (brackets front) = some stack)
    (crosses : Crosses front rest b) :
    openAfter [] (brackets (front ++ rest)) = openAfter stack (b :: brackets rest) := by
  rw [brackets_append_of_crosses crosses, openAfter_append, begun, Option.bind_some]

theorem openAfter_of_refuses (begun : openAfter [] (brackets front) = some stack)
    (crosses : Crosses front rest b) (live : b.IsLive) (refuses : Refuses front b) :
    openAfter [] (brackets (front ++ rest)) = none := by
  obtain ⟨fault, refused⟩ := refuses stack begun
  rw [openAfter_of_crosses begun crosses, openAfter_cons_of_isLive live, refused]
  rfl

/-- A tag that crosses and breaks nothing leads to some open tags. -/
theorem exists_openAfter_of_crosses (begun : openAfter [] (brackets front) = some stack)
    (crosses : Crosses front rest b) (unbroken : ¬ Breaks front rest b) :
    ∃ next, openAfter [] (brackets (front ++ rest)) = openAfter next (brackets rest) := by
  by_cases live : b.IsLive
  · cases applied : applyTag stack b.body 0 with
    | error fault =>
      refine absurd ⟨crosses, live, .inl ?_⟩ unbroken
      intro other begun'
      obtain rfl : stack = other := Option.some.inj (begun.symm.trans begun')
      exact ⟨fault, applied⟩
    | ok next =>
      refine ⟨next, ?_⟩
      rw [openAfter_of_crosses begun crosses, openAfter_cons_of_isLive live, applied]
      rfl
  · refine ⟨stack, ?_⟩
    rw [openAfter_of_crosses begun crosses, openAfter_cons_of_plain live]

/-- The tags of two texts in one line can be applied if those of each text can and no tag breaks the line. -/
theorem isSome_openAfter_append (clear : front.getLast? ≠ some '\\')
    (begun : openAfter [] (brackets front) = some stack)
    (ended : ∀ stack, ∃ final, openAfter stack (brackets rest) = some final)
    (unbroken : ¬ ∃ b, Breaks front rest b) : (openAfter [] (brackets (front ++ rest))).isSome := by
  obtain ⟨next, onward⟩ : ∃ next, openAfter [] (brackets (front ++ rest)) =
      openAfter next (brackets rest) := by
    by_cases apart : ∃ b, Crosses front rest b
    · obtain ⟨b, crosses⟩ := apart
      exact exists_openAfter_of_crosses begun crosses fun breaks => unbroken ⟨b, breaks⟩
    · refine ⟨stack, ?_⟩
      rw [brackets_append (.inl clear) (not_exists.1 apart), openAfter_append, begun,
        Option.bind_some]
  obtain ⟨final, ends⟩ := ended next
  rw [onward, ends]
  rfl

/-- A bracket of two texts in one line is one of the first or of the second, or it crosses. -/
theorem mem_brackets_append (clear : front.getLast? ≠ some '\\') (member : b ∈ brackets (front ++ rest)) :
    b ∈ brackets front ∨ b ∈ brackets rest ∨ Crosses front rest b := by
  by_cases apart : ∃ b, Crosses front rest b
  · obtain ⟨other, crosses⟩ := apart
    rw [brackets_append_of_crosses crosses, List.mem_append, List.mem_cons] at member
    rcases member with first | rfl | second
    · exact .inl first
    · exact .inr (.inr crosses)
    · exact .inr (.inl second)
  · rw [brackets_append (.inl clear) (not_exists.1 apart), List.mem_append] at member
    exact member.imp_right .inl

/-- Two texts whose tags can be applied and looked up can be printed in one line exactly if no tag breaks
it. -/
theorem exists_resolve_append_iff (clear : front.getLast? ≠ some '\\')
    (begun : openAfter [] (brackets front) = some stack)
    (ended : ∀ stack, ∃ final, openAfter stack (brackets rest) = some final)
    (resolvesFront : ∀ b ∈ brackets front, b.Resolves) (resolvesRest : ∀ b ∈ brackets rest, b.Resolves) :
    (∃ line, styled (front ++ rest) = .ok line ∧ line.resolve = .ok ()) ↔ ¬ ∃ b, Breaks front rest b := by
  constructor
  · intro printed broken
    obtain ⟨line, read, resolved⟩ := printed
    obtain ⟨b, crosses, live, fails⟩ := broken
    rcases fails with refuses | ⟨tag, opens, unresolved, line', read', span, member, same⟩
    · have applied := (exists_styled_iff _).1 ⟨line, read⟩
      rw [openAfter_of_refuses begun crosses live refuses] at applied
      cases applied
    · obtain rfl : line = line' := Except.ok.inj (read.symm.trans read')
      exact unresolved (same ▸ Styled.resolve_eq_ok_iff.1 resolved span member)
  · intro unbroken
    obtain ⟨line, read⟩ := (exists_styled_iff _).2 (isSome_openAfter_append clear begun ended unbroken)
    refine ⟨line, read, Styled.resolve_eq_ok_iff.2 ?_⟩
    intro span member
    by_contra unresolved
    obtain ⟨b, inside, live, tag, opens, same⟩ := forall_spans
      (p := fun style => ∃ b ∈ brackets (front ++ rest), b.IsLive ∧ ∃ tag ∈ opened? b.body, tag.style = style)
      read (fun b inside live tag opens => ⟨b, inside, live, tag, opens, rfl⟩)
      span (Styled.mem_printed_iff.1 member).1
    rw [← same] at unresolved
    rcases mem_brackets_append clear inside with first | second | crosses
    · exact unresolved (resolvesFront b first live tag opens)
    · exact unresolved (resolvesRest b second live tag opens)
    · exact unbroken ⟨b, crosses, live, .inr ⟨tag, opens, unresolved, line, read, span, member, same.symm⟩⟩

end Joining

end Markup

end TagOrigin.Display
