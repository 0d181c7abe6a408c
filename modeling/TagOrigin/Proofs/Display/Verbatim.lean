import TagOrigin.Proofs.Display.Console
import TagOrigin.Proofs.Display.Shown
import TagOrigin.Proofs.Text.Pieces

/-!
Errors and warnings. A message is escaped behind a label in bold. Where glyphs are shown, exactly the
messages without emoji codes, without a backslash before a bracket that is no tag and without a lone
backslash at their end are printed as they are.
-/
namespace TagOrigin.Display

namespace Markup

section Escaping

variable {t front rest : Text}

theorem endsInLoneSlash_append_singleton {c : Char} :
    endsInLoneSlash (t ++ [c]) = true ↔ c = '\\' ∧ t.getLast? ≠ some '\\' := by
  rw [← List.head?_reverse, endsInLoneSlash, List.reverse_append, List.reverse_singleton,
    List.singleton_append]
  cases t.reverse with
  | nil => by_cases slash : c = '\\' <;> simp [slash]
  | cons d more => by_cases slash : c = '\\' <;> by_cases double : d = '\\' <;> simp [slash, double]

theorem endsInLoneSlash_iff :
    endsInLoneSlash t = true ↔ ∃ before, t = before ++ ['\\'] ∧ before.getLast? ≠ some '\\' := by
  constructor
  · intro lone
    rcases List.eq_nil_or_concat t with rfl | ⟨before, c, rfl⟩
    · cases lone
    · rw [List.concat_eq_append] at lone ⊢
      obtain ⟨rfl, clear⟩ := endsInLoneSlash_append_singleton.1 lone
      exact ⟨before, rfl, clear⟩
  · rintro ⟨before, rfl, clear⟩
    exact endsInLoneSlash_append_singleton.2 ⟨rfl, clear⟩

/-- Behind another character only the second text counts. -/
theorem endsInLoneSlash_append (clear : front.getLast? ≠ some '\\') :
    endsInLoneSlash (front ++ rest) = endsInLoneSlash rest := by
  rw [Bool.eq_iff_iff]
  rcases List.eq_nil_or_concat rest with rfl | ⟨before, c, rfl⟩
  · rw [List.append_nil]
    refine iff_of_false (fun lone => ?_) Bool.false_ne_true
    obtain ⟨before, rfl, -⟩ := endsInLoneSlash_iff.1 lone
    exact clear (by simp)
  · rw [List.concat_eq_append, ← List.append_assoc, endsInLoneSlash_append_singleton,
      endsInLoneSlash_append_singleton, List.getLast?_append]
    refine and_congr_right fun _ => not_congr ?_
    cases before.getLast? with
    | none => exact iff_of_false clear (by simp)
    | some d => rfl

/-- A text whose last backslash is doubled if it stands alone. -/
def paired (t : Text) : Text :=
  if endsInLoneSlash t then t ++ ['\\'] else t

/-- A text with its tags escaped, and its end left alone. -/
def escapedTags (t : Text) : Text :=
  Scan.substitute Bracket.read (fun b => b.escaped.text) t

theorem escapedTags_append_text {stretch : Text} {b : Bracket} (silent : Silent stretch)
    (clear : stretch.getLast? ≠ some '\\') (tag : IsTag b.body) (rest : Text) :
    escapedTags (stretch ++ (b.text ++ rest)) = stretch ++ (b.escaped.text ++ escapedTags rest) :=
  substitute_append_text silent clear tag _ rest

theorem escapedTags_cons_space (t : Text) : escapedTags (' ' :: t) = ' ' :: escapedTags t := by
  have silent : Bracket.read (' ' :: t) = none := rfl
  rw [escapedTags, Scan.substitute, Scan.tokens_cons_of_none silent]
  rfl

theorem endsInLoneSlash_escapedTags (t : Text) : endsInLoneSlash (escapedTags t) = endsInLoneSlash t := by
  induction t using text_induction with
  | plain t silent => rw [escapedTags, substitute_of_silent silent]
  | first stretch b rest silent clear tag ih =>
    have closed (b : Bracket) : (stretch ++ b.text).getLast? ≠ some '\\' := by
      rw [Bracket.text, ← List.append_assoc, List.getLast?_concat]
      decide
    rw [escapedTags_append_text silent clear tag, ← List.append_assoc, ← List.append_assoc,
      endsInLoneSlash_append (closed b.escaped), endsInLoneSlash_append (closed b), ih]

theorem escape_eq (t : Text) : escape t = escapedTags (paired t) := by
  have last (b : Bracket) : b.text.getLast? ≠ some '\\' := by
    rw [Bracket.text, List.getLast?_concat]
    decide
  have whole : escape t =
      if endsInLoneSlash (escapedTags t) then escapedTags t ++ ['\\'] else escapedTags t := rfl
  rw [whole, endsInLoneSlash_escapedTags, paired]
  split
  · exact (writes_bracket.substitute_append_singleton last t).symm
  · rfl

/-- What an escaped text shows. -/
theorem showFrom_escape (stack : List Opened) (position : Nat) (t : Text) :
    showFrom stack position (escape t) = .ok (keptText (paired t)) := by
  rw [escape_eq]
  induction paired t using text_induction generalizing position with
  | plain t silent =>
    rw [escapedTags, substitute_of_silent silent, showFrom_of_silent silent, keptText_of_silent silent]
  | first stretch b rest silent clear tag ih =>
    have stepped (position : Nat) : (Piece.bracket b.escaped position).step stack =
        .ok ⟨Piece.kept (.bracket b 0), none⟩ := by
      have half : (2 * b.slashes + 1) / 2 = b.slashes := by omega
      have doubled : b.escaped.slashes = 2 * b.slashes + 1 := rfl
      rw [Piece.step_of_plain b.not_isLive_escaped, doubled, half]
      rfl
    have escapedTag : IsTag b.escaped.body := tag
    rw [escapedTags_append_text silent clear tag,
      showFrom_append_text silent clear escapedTag _ (stepped _), Step.behind, ih, keptText_append_text silent clear tag]
    rfl

theorem mem_paired {c : Char} (other : c ≠ '\\') : c ∈ paired t ↔ c ∈ t := by
  rw [paired]
  split
  · simp [other]
  · rfl

/-- A space before an escaped text is shown before it. -/
theorem showFrom_space_escape (stack : List Opened) (position : Nat) (t : Text) :
    showFrom stack position (' ' :: escape t) = .ok (' ' :: keptText (paired t)) := by
  have pair : paired (' ' :: t) = ' ' :: paired t := by
    have lone : endsInLoneSlash ([' '] ++ t) = endsInLoneSlash t := endsInLoneSlash_append (by decide)
    rw [List.singleton_append] at lone
    rw [paired, lone, paired]
    split <;> rfl
  have escaped : escape (' ' :: t) = ' ' :: escape t := by
    rw [escape_eq, escape_eq, pair, escapedTags_cons_space]
  rw [← escaped, showFrom_escape, pair, keptText_cons_space]

/-- A text that is shown as it is once it has been escaped: no lone backslash stands at its end, none
before a bracket that is no tag, and no piece of it holds the code of an emoji. -/
structure IsVerbatim (t : Text) : Prop where
  paired : endsInLoneSlash t = false
  plain : ∀ piece ∈ pieces t, piece.IsPlain

instance (t : Text) : Decidable (IsVerbatim t) :=
  decidable_of_iff (endsInLoneSlash t = false ∧ ∀ piece ∈ pieces t, piece.IsPlain)
    ⟨fun ⟨paired, plain⟩ => { paired, plain }, fun verbatim => ⟨verbatim.paired, verbatim.plain⟩⟩

/-- Exactly these texts are kept. -/
theorem keptText_paired_eq_self_iff (clear : ∀ c ∈ t, isDropped c = false) :
    keptText (paired t) = t ↔ IsVerbatim t := by
  by_cases lone : endsInLoneSlash t = true
  · refine iff_of_false ?_ fun verbatim => ?_
    · intro same
      -- two backslashes would stand at its end
      obtain ⟨before, rfl, -⟩ := endsInLoneSlash_iff.1 lone
      rw [Markup.paired, if_pos lone, keptText_append_slash, keptText_append_slash] at same
      rw [← same, endsInLoneSlash_append_singleton, List.getLast?_concat] at lone
      exact lone.2 rfl
    · rw [verbatim.paired] at lone
      cases lone
  · have even : endsInLoneSlash t = false := by simpa using lone
    rw [Markup.paired, if_neg lone, keptText_eq_self_iff clear]
    exact ⟨fun plain => ⟨even, plain⟩, IsVerbatim.plain⟩

end Escaping

section Labels

variable {style label t : Text} {stack next : List Opened} {b : Bracket}

/-- Markup in which a tag stands around a label. -/
def labelled (style label t : Text) : Text :=
  Bracket.text ⟨0, style⟩ ++ (label ++ (Bracket.text ⟨0, '/' :: style⟩ ++ t))

/-- A tag that can be applied is read, wherever it stands. -/
theorem exists_step_of_isLive (live : b.IsLive)
    (applied : (applyTag stack b.body 0).toOption = some next) (position : Nat) :
    ∃ step, (Piece.bracket b position).step stack = .ok step ∧
      step.shown = List.replicate (b.slashes / 2) '\\' ∧ step.behind stack = next := by
  rw [← toOption_applyTag stack b.body (position + b.slashes), applyTag] at applied
  rw [Piece.step_of_isLive live]
  cases read : readTag stack b.body (position + b.slashes) with
  | error fault =>
    rw [read] at applied
    cases applied
  | ok change =>
    rw [read] at applied
    exact ⟨_, rfl, rfl, Option.some.inj applied⟩

/-- A tag that can be opened and closed again. -/
structure IsStyle (style : Text) : Prop where
  tag : IsTag style
  closes : openAfter [] [⟨0, style⟩, ⟨0, '/' :: style⟩] = some []

theorem IsTag.closing (tag : IsTag style) : IsTag ('/' :: style) where
  begins := ⟨'/', rfl, rfl⟩
  unopened := by simpa using tag.unopened
  unclosed := by simpa using tag.unclosed

/-- What stands behind a label is shown as if it stood alone. -/
theorem render_labelled (isStyle : IsStyle style) (silent : Silent label)
    (clear : label.getLast? ≠ some '\\') {shown : Text}
    (alone : ∀ position, showFrom [] position t = .ok shown) :
    render (labelled style label t) = .ok (shownStretch label ++ shown) := by
  have live {body : Text} : Bracket.IsLive ⟨0, body⟩ := rfl
  have closes := isStyle.closes
  rw [openAfter_cons_of_isLive live] at closes
  obtain ⟨stack, opened, closes⟩ := Option.bind_eq_some_iff.1 closes
  rw [openAfter_cons_of_isLive live] at closes
  obtain ⟨left, closed, last⟩ := Option.bind_eq_some_iff.1 closes
  obtain rfl : left = [] := Option.some.inj last
  obtain ⟨opening, readOpening, hidden, behindOpening⟩ := exists_step_of_isLive live opened 0
  obtain ⟨closing, readClosing, hidden', behindClosing⟩ :=
    exists_step_of_isLive live closed (0 + (Bracket.text ⟨0, style⟩).length + label.length)
  rw [← behindOpening] at readClosing behindClosing
  have bracketed : '[' ∈ labelled style label t := by simp [labelled, Bracket.text]
  have whole := showFrom_append_text (silent_of_not_mem (t := []) (.inl (by simp))) (by simp) isStyle.tag
    (label ++ (Bracket.text ⟨0, '/' :: style⟩ ++ t)) readOpening
  have behind := showFrom_append_text silent clear isStyle.tag.closing t readClosing
  rw [behindClosing, alone] at behind
  have nothing : shownStretch [] = [] := rfl
  rw [List.nil_append, List.length_nil, Nat.add_zero, behind, hidden, hidden', nothing] at whole
  rw [render_of_mem bracketed, labelled, whole]
  simp [Except.map]

end Labels

end Markup

open Markup

section Tabs

/-- Without tabs nothing is filled up. -/
theorem expandTabs_of_not_mem {t : Text} (without : '\t' ∉ t) : expandTabs t = t := by
  have each : ∀ line ∈ Text.lines t, fillTabs 0 (line.splitOn '\t') = line := by
    intro line member
    have clean : '\t' ∉ line := fun inside => without ((Text.of_mem_splitOn member).2.mem inside)
    rw [List.splitOn_eq_singleton clean, fillTabs]
  rw [expandTabs, List.map_congr_left each, List.map_id', Text.join, Text.lines, List.intercalate_splitOn]

end Tabs

namespace Console

variable (console : Console)

/-- A label that is shown as it is. -/
structure IsLabel (label : Text) : Prop where
  unopened : '[' ∉ label
  clear : label.getLast? ≠ some '\\'
  shown : shownStretch label = label
  untabbed : '\t' ∉ label

/-- A label and what stands behind it are printed one after the other. -/
theorem line_of_labelled {markup style label t shown : Text}
    (written : console.present markup = labelled style label t) (isStyle : IsStyle style)
    (isLabel : IsLabel label) (alone : ∀ position, showFrom [] position t = .ok shown)
    (untabbed : '\t' ∉ shown) (prints : console.Prints markup) :
    console.line [.markup markup] = .ok (label ++ shown ++ ['\n']) := by
  have tabs : '\t' ∉ label ++ shown := by simp [isLabel.untabbed, untabbed]
  have rendered :=
    render_labelled isStyle (silent_of_not_mem (.inl isLabel.unopened)) isLabel.clear alone
  rw [← written, isLabel.shown] at rendered
  rw [console.line_eq_of_prints prints rendered, expandTabs_of_not_mem tabs]

theorem isStyle_boldRed : IsStyle "bold red".toList :=
  ⟨⟨⟨'b', rfl, rfl⟩, by decide, by decide⟩, by decide +kernel⟩

theorem isStyle_boldYellow : IsStyle "bold yellow".toList :=
  ⟨⟨⟨'b', rfl, rfl⟩, by decide, by decide⟩, by decide +kernel⟩

theorem errorLine_eq (message : Text) :
    errorLine message = labelled "bold red".toList "Error:".toList (' ' :: escape message) := by
  have front : "[bold red]Error:[/bold red] ".toList =
      Bracket.text ⟨0, "bold red".toList⟩ ++
        ("Error:".toList ++ (Bracket.text ⟨0, '/' :: "bold red".toList⟩ ++ [' '])) := by
    decide +kernel
  unfold errorLine labelled
  rw [front]
  simp only [List.append_assoc, List.singleton_append]

theorem warningLine_eq (message : Text) :
    warningLine message = labelled "bold yellow".toList "⚠ Warning:".toList (' ' :: escape message) := by
  have front : "[bold yellow]⚠ Warning:[/bold yellow] ".toList =
      Bracket.text ⟨0, "bold yellow".toList⟩ ++
        ("⚠ Warning:".toList ++ (Bracket.text ⟨0, '/' :: "bold yellow".toList⟩ ++ [' '])) := by
    decide +kernel
  unfold warningLine labelled
  rw [front]
  simp only [List.append_assoc, List.singleton_append]

/-- On a console that shows glyphs, a message without control characters is printed as it is exactly if
it is verbatim, as an error and as a warning. -/
theorem diagnostics_verbatim_iff (shows : console.showsGlyphs) {message : Text}
    (plain : ∀ c ∈ message, ' ' ≤ c) :
    (console.line [.markup (errorLine message)] = .ok ("Error: ".toList ++ message ++ ['\n']) ↔
        IsVerbatim message) ∧
      (console.line [.markup (warningLine message)] = .ok ("⚠ Warning: ".toList ++ message ++ ['\n']) ↔
        IsVerbatim message) := by
  have control {c : Char} (small : ¬ ' ' ≤ c) : c ∉ message := fun member => small (plain c member)
  have clear : ∀ c ∈ message, isDropped c = false := by
    intro c member
    have large : 0x20 ≤ c.toNat := plain c member
    simp [isDropped]
    omega
  have untabbed : '\t' ∉ ' ' :: keptText (paired message) := by
    rw [List.mem_cons, not_or]
    refine ⟨by decide, fun kept => ?_⟩
    have before := mem_of_mem_keptText (by decide) kept
    rw [mem_paired (by decide)] at before
    exact control (by decide) before
  have present (t : Text) : console.present t = t := if_pos shows
  have error := console.line_of_labelled ((present _).trans (errorLine_eq message)) isStyle_boldRed
    ⟨by decide, by decide, by decide +kernel, by decide⟩ (showFrom_space_escape [] · message) untabbed
    (console.exists_errorLine message)
  have warning := console.line_of_labelled ((present _).trans (warningLine_eq message)) isStyle_boldYellow
    ⟨by decide, by decide, by decide +kernel, by decide⟩ (showFrom_space_escape [] · message) untabbed
    (console.exists_warningLine message)
  rw [error, warning, ← keptText_paired_eq_self_iff clear]
  simp

/-- Tags, doubled backslashes and colons that make no code. -/
theorem diagnostics_verbatim_iff_bracketed :
    let console : Console := ⟨"utf-8".toList⟩
    let message := "[bold] \\[/i] a: ✓[1] C:\\\\".toList
    console.showsGlyphs ∧ (∀ c ∈ message, ' ' ≤ c) ∧
      console.line [.markup (errorLine message)] = .ok ("Error: ".toList ++ message ++ ['\n']) := by
  intro console message
  have shows : console.showsGlyphs = true := by decide
  have plain : ∀ c ∈ message, ' ' ≤ c := by simp [message]
  have verbatim : IsVerbatim message := by decide +kernel
  exact ⟨shows, plain, (console.diagnostics_verbatim_iff shows plain).1.2 verbatim⟩

/-- The code of an emoji is replaced although the message has been escaped. -/
theorem error_replaces_code :
    let console : Console := ⟨"utf-8".toList⟩
    let message := ":smile:".toList
    console.showsGlyphs ∧ (∀ c ∈ message, ' ' ≤ c) ∧
      console.line [.markup (errorLine message)] = .ok "Error: 😄\n".toList ∧
      "Error: 😄\n".toList ≠ "Error: ".toList ++ message ++ ['\n'] := by
  intro console message
  have shows : console.showsGlyphs = true := by decide
  have plain : ∀ c ∈ message, ' ' ≤ c := by simp [message]
  have printed : console.line [.markup (errorLine message)] = .ok "Error: 😄\n".toList := by decide +kernel
  exact ⟨shows, plain, printed, by decide +kernel⟩

end Console

end TagOrigin.Display
