import TagOrigin.Proofs.Display.Shown
import TagOrigin.Proofs.Display.Spans

/-!
Tags that cross from one text into the next one, where no other tag stays open. The style of such a tag
covers all that is shown behind it. It is looked up exactly if no line feed and no tab is shown in the line,
or something else than line feeds is shown behind the tag.
-/
namespace TagOrigin.Display.Markup

section Steps

variable {stack : List Opened} {steps : List Step}

/-- A bracket cuts a sequence of tokens: nothing is gathered across it. -/
theorem exists_gather_append_found (front rest : List (Scan.Token Char Bracket)) (b : Bracket)
    (position : Nat) : ∃ place behind, gather position (front ++ .found b :: rest) =
      gather position front ++ .bracket b place :: gather behind rest := by
  induction front generalizing position with
  | nil => exact ⟨position, position + b.text.length, rfl⟩
  | cons token front ih =>
    cases token with
    | found first =>
      obtain ⟨place, behind, later⟩ := ih (position + first.text.length)
      refine ⟨place, behind, ?_⟩
      rw [List.cons_append, gather, later]
      rfl
    | other c =>
      obtain ⟨place, behind, later⟩ := ih (position + 1)
      refine ⟨place, behind, ?_⟩
      rw [List.cons_append, gather, gather, later]
      cases gather (position + 1) front with
      | nil => rfl
      | cons piece pieces => cases piece <;> rfl

/-- A sequence of pieces is read part by part. -/
theorem exists_trace_append {front rest : List Piece} (traced : trace stack (front ++ rest) = .ok steps) :
    ∃ first last, trace stack front = .ok first ∧ trace (first.foldl Step.behind stack) rest = .ok last ∧
      steps = first ++ last := by
  induction front generalizing stack steps with
  | nil => exact ⟨[], steps, rfl, traced, rfl⟩
  | cons piece front ih =>
    obtain ⟨step, more, stepped, later, rfl⟩ := trace_cons_iff.1 traced
    obtain ⟨first, last, traced', behind, rfl⟩ := ih later
    exact ⟨step :: first, last, trace_cons_iff.2 ⟨step, first, stepped, traced', rfl⟩, behind, rfl⟩

/-- Without tags nothing is opened or closed. -/
theorem change_eq_none_of_plain {pieces : List Piece}
    (plain : ∀ b position, Piece.bracket b position ∈ pieces → ¬ b.IsLive)
    (traced : trace stack pieces = .ok steps) : ∀ step ∈ steps, step.change = none := by
  induction pieces generalizing stack steps with
  | nil =>
    obtain rfl : [] = steps := Except.ok.inj traced
    simp
  | cons piece pieces ih =>
    obtain ⟨step, more, stepped, later, rfl⟩ := trace_cons_iff.1 traced
    refine List.forall_mem_cons.2 ⟨?_, ih (fun b position inside => ?_) later⟩
    · cases piece with
      | stretch t =>
        obtain rfl := Except.ok.inj stepped
        rfl
      | bracket b position =>
        rw [Piece.step_of_plain (plain b position List.mem_cons_self)] at stepped
        obtain rfl := Except.ok.inj stepped
        rfl
    · exact plain b position (List.mem_cons_of_mem piece inside)

/-- All open tags then reach to the end. -/
theorem spansFrom_of_still (still : ∀ step ∈ steps, step.change = none) (shown : Nat)
    (opened : List (Nat × Text)) : spansFrom shown opened steps =
      opened.map fun entry => ⟨entry.1, shown + (steps.flatMap Step.shown).length, entry.2⟩ := by
  induction steps generalizing shown with
  | nil => rfl
  | cons step steps ih =>
    obtain ⟨here, later⟩ := List.forall_mem_cons.1 still
    obtain ⟨t, change⟩ := step
    obtain rfl : change = none := here
    have whole : spansFrom shown opened (⟨t, none⟩ :: steps) = spansFrom (shown + t.length) opened steps := rfl
    rw [whole, ih later]
    simp [Nat.add_assoc]

end Steps

section Plain

variable {t : Text}

/-- A text without tags shows the same behind all open tags. -/
theorem exists_showFrom_of_plain (plain : ∀ b ∈ brackets t, ¬ b.IsLive) :
    ∃ shown, ∀ stack position, showFrom stack position t = .ok shown := by
  induction t using text_induction with
  | plain t silent => exact ⟨shownStretch t, showFrom_of_silent silent⟩
  | first stretch b rest silent clear tag ih =>
    rw [brackets_append_text clear tag, brackets_of_silent silent, List.nil_append] at plain
    obtain ⟨here, later⟩ := List.forall_mem_cons.1 plain
    obtain ⟨shown, behind⟩ := ih later
    refine ⟨shownStretch stretch ++
      (List.replicate (b.slashes / 2) '\\' ++ Markup.shown ('[' :: b.body ++ [']']) ++ shown), ?_⟩
    intro stack position
    rw [showFrom_append_text silent clear tag rest (Piece.step_of_plain here stack _), behind]
    rfl

theorem showFrom_of_plain (plain : ∀ b ∈ brackets t, ¬ b.IsLive) (stack : List Opened) (position : Nat) :
    showFrom stack position t = render t := by
  obtain ⟨shown, same⟩ := exists_showFrom_of_plain plain
  rw [same]
  by_cases bracketed : '[' ∈ t
  · rw [render_of_mem bracketed, same]
  · have slashed : ¬ slashBracket <:+: t := fun inside => bracketed (inside.mem (by simp [slashBracket]))
    have alone := (showFrom_of_silent (silent_of_not_mem (.inl bracketed)) [] 0).symm.trans (same [] 0)
    rw [shownStretch_eq, replace_slash_eq_self_iff.2 slashed] at alone
    rw [render, styled_of_not_mem bracketed, ← alone]
    rfl

end Plain

section Cut

variable {before behind front rest : Text} {b : Bracket} {tag : Opened} {line : Styled}

/-- Behind a tag that opens, the steps are those of a text read alone if that holds no tags. -/
theorem exists_steps_of_opens {steps : List Step} (clear : before.getLast? ≠ some '\\')
    (isTag : IsTag b.body) (live : b.IsLive) (opens : opened? b.body = some tag)
    (plain : ∀ b ∈ brackets behind, ¬ b.IsLive)
    (traced : trace [] (pieces (before ++ (b.text ++ behind))) = .ok steps) :
    ∃ first slashes last, steps = first ++ ⟨slashes, some (.opens tag)⟩ :: last ∧
      trace [] (pieces before) = .ok first ∧ (∀ step ∈ last, step.change = none) ∧
        render behind = .ok (last.flatMap Step.shown) := by
  obtain ⟨place, position, gathered⟩ := exists_gather_append_found (Scan.tokens Bracket.read 0 before)
    (Scan.tokens Bracket.read 0 behind) b 0
  rw [pieces, tokens_append_text clear isTag, gathered] at traced
  obtain ⟨first, others, tracedFirst, tracedOthers, rfl⟩ := exists_trace_append traced
  obtain ⟨step, last, stepped, tracedLast, rfl⟩ := trace_cons_iff.1 tracedOthers
  rw [Piece.step_of_isLive live, (opened?_eq_some_iff _ _).1 opens] at stepped
  obtain rfl : Step.mk _ _ = step := Except.ok.inj stepped
  refine ⟨first, _, last, rfl, tracedFirst, ?_, ?_⟩
  · exact change_eq_none_of_plain (fun b _ inside => plain b (mem_brackets_of_mem_gather inside)) tracedLast
  · have alone := showFrom_of_plain plain
      (Step.behind (first.foldl Step.behind []) ⟨List.replicate (b.slashes / 2) '\\', some (.opens tag)⟩) position
    rw [showFrom, showPieces, tracedLast] at alone
    exact alone.symm

/-- The span of such a tag reaches to the end, and all others have the styles of tags before it. -/
theorem exists_spansFrom_opens {p : Text → Prop} {first last : List Step} (slashes : Text)
    (each : ∀ step ∈ first, ∀ tag, step.change = some (.opens tag) → p tag.style)
    (still : ∀ step ∈ last, step.change = none) :
    ∃ others : List Span, (∀ span ∈ others, p span.style) ∧
      ∀ span, span ∈ spansFrom 0 [] (first ++ ⟨slashes, some (.opens tag)⟩ :: last) ↔
        span = ⟨(first.flatMap Step.shown ++ slashes).length,
          (first.flatMap Step.shown ++ slashes ++ last.flatMap Step.shown).length, tag.style⟩ ∨
            span ∈ others := by
  obtain ⟨closed, left, whole, ended, kept⟩ :=
    spansFrom_append first (⟨slashes, some (.opens tag)⟩ :: last) 0 [] nofun each
  have opening (here : Nat) : spansFrom here left (⟨slashes, some (.opens tag)⟩ :: last) =
      spansFrom (here + slashes.length) ((here + slashes.length, tag.style) :: left) last := rfl
  rw [whole, opening, spansFrom_of_still still, Nat.zero_add, ← List.length_append, ← List.length_append]
  refine ⟨closed ++ left.map fun entry => ⟨entry.1,
    (first.flatMap Step.shown ++ slashes ++ last.flatMap Step.shown).length, entry.2⟩, ?_, fun span => ?_⟩
  · refine List.forall_mem_append.2 ⟨ended, fun span member => ?_⟩
    obtain ⟨entry, inside, rfl⟩ := List.mem_map.1 member
    exact kept entry inside
  · rw [List.map_cons, List.mem_append, List.mem_cons, List.mem_append, or_left_comm]

/-- A tag that opens before a text without tags covers all that this text shows, and its span is the only one
with a style that cannot be looked up. -/
theorem exists_span_of_opens (clear : before.getLast? ≠ some '\\') (isTag : IsTag b.body) (live : b.IsLive)
    (opens : opened? b.body = some tag) (resolves : ∀ b ∈ brackets before, b.Resolves)
    (plain : ∀ b ∈ brackets behind, ¬ b.IsLive)
    (read : styled (before ++ (b.text ++ behind)) = .ok line) :
    ∃ front shown, line.text = front ++ shown ∧ render behind = .ok shown ∧
      ⟨front.length, line.text.length, tag.style⟩ ∈ line.spans ∧
      ∀ span ∈ line.spans, span = ⟨front.length, line.text.length, tag.style⟩ ∨
        Style.Resolves span.style := by
  have bracketed : '[' ∈ before ++ (b.text ++ behind) := by simp [Bracket.text]
  obtain ⟨steps, traced, isLine⟩ := (styled_eq_ok_iff bracketed).1 read
  obtain ⟨first, slashes, last, rfl, tracedFirst, still, rendered⟩ :=
    exists_steps_of_opens clear isTag live opens plain traced
  have each : ∀ step ∈ first, ∀ tag, step.change = some (.opens tag) → Style.Resolves tag.style := by
    intro step member tag opens
    obtain ⟨b, place, inside, live, opened⟩ := exists_bracket_of_opens tracedFirst member opens
    exact resolves b (mem_brackets_of_mem_gather inside) live tag opened
  obtain ⟨others, resolved, spans⟩ := exists_spansFrom_opens slashes each still
  have text : line.text = first.flatMap Step.shown ++ slashes ++ last.flatMap Step.shown := by
    rw [← isLine]
    simp [assemble]
  refine ⟨first.flatMap Step.shown ++ slashes, last.flatMap Step.shown, text, rendered, ?_, ?_⟩
  · rw [text, ← isLine]
    exact Span.mem_inOrder.2 ((spans _).2 (.inl rfl))
  · intro span member
    rw [← isLine] at member
    rw [text]
    exact ((spans span).1 (Span.mem_inOrder.1 member)).imp_right (resolved span)

/-- Whether the style of a tag that crosses is looked up: no line feed and no tab is shown in the line, or
something else than line feeds is shown behind the tag. -/
def IsLookedUp (front rest : Text) : Prop :=
  (∃ shown, render (front ++ rest) = .ok shown ∧ '\n' ∉ shown ∧ '\t' ∉ shown) ∨
    ∃ shown, render (behindTag rest) = .ok shown ∧ ∃ c ∈ shown, c ≠ '\n'

theorem exists_printed_iff_isLookedUp (crosses : Crosses front rest b) (live : b.IsLive)
    (opens : opened? b.body = some tag) (unresolved : ¬ Style.Resolves tag.style)
    (resolves : ∀ b ∈ brackets front, b.Resolves) (plain : ∀ b ∈ brackets rest, ¬ b.IsLive)
    (read : styled (front ++ rest) = .ok line) :
    (∃ span ∈ line.printed, span.style = tag.style) ↔ IsLookedUp front rest := by
  obtain ⟨before, clear, whole, first, last⟩ := crosses.exists_cut
  have rendered : render (front ++ rest) = .ok line.text := by
    rw [render, read]
    rfl
  rw [first] at resolves
  rw [last] at plain
  rw [whole] at read
  obtain ⟨shownFront, shown, text, behind, asked, only⟩ :=
    exists_span_of_opens clear crosses.tag live opens resolves plain read
  have single : ∀ span ∈ line.spans, span.style = tag.style →
      span = ⟨shownFront.length, line.text.length, tag.style⟩ :=
    fun span member same => (only span member).resolve_right (same ▸ unresolved)
  rw [Styled.exists_printed_iff text asked single, IsLookedUp, rendered, behind]
  simp

/-- Where no tag is open before and none is read behind, a tag that crosses spoils the line exactly if its
style cannot be looked up and is. -/
theorem spoils_iff (crosses : Crosses front rest b) (live : b.IsLive)
    (begun : openAfter [] (brackets front) = some []) (resolves : ∀ b ∈ brackets front, b.Resolves)
    (plain : ∀ b ∈ brackets rest, ¬ b.IsLive) :
    Spoils (front ++ rest) b ↔
      (∃ tag ∈ opened? b.body, ¬ Style.Resolves tag.style) ∧ IsLookedUp front rest := by
  constructor
  · rintro ⟨tag, opens, unresolved, line, read, printed⟩
    exact ⟨⟨tag, opens, unresolved⟩,
      (exists_printed_iff_isLookedUp crosses live opens unresolved resolves plain read).1 printed⟩
  · rintro ⟨⟨tag, opens, unresolved⟩, lookedUp⟩
    have applied : openAfter [] (brackets (front ++ rest)) = some [tag] := by
      rw [openAfter_of_crosses begun crosses, openAfter_cons_of_isLive live, applyTag,
        (opened?_eq_some_iff [] 0).1 opens]
      exact openAfter_of_plain plain [tag]
    obtain ⟨line, read⟩ := (exists_styled_iff (front ++ rest)).2 (by rw [applied]; rfl)
    exact ⟨tag, opens, unresolved, line, read,
      (exists_printed_iff_isLookedUp crosses live opens unresolved resolves plain read).2 lookedUp⟩

end Cut

end TagOrigin.Display.Markup
