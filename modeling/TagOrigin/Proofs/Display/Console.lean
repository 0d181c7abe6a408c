import TagOrigin.Display.Console
import TagOrigin.Proofs.Display.Spans

/-!
Lines on a console. A line is printed exactly if each of its tags can be applied and its styles can be
looked up. What a user wrote and what has been escaped never adds a tag that fails, so a line with one such
text is always printed; with two of them a tag can begin in the one and end in the other.
-/
namespace TagOrigin.Display

open Markup

namespace Console

variable (console : Console)

theorem present_append (t u : Text) :
    console.present (t ++ u) = console.present t ++ console.present u := by
  unfold present
  split
  · rfl
  · exact withoutGlyphs_append t u

theorem present_eq_self {t : Text} (plain : t.all fun c => plainGlyph c = [c]) :
    console.present t = t := by
  unfold present
  split
  · rfl
  · exact withoutGlyphs_eq_self (by simpa using plain)

theorem line_markup (t : Text) :
    console.line [.markup t] = do
      let line ← styled (console.present t)
      line.resolve.mapError Fault.ofAmount
      return expandTabs line.text ++ ['\n'] := by
  rw [line, List.mapM_cons, showPart]
  cases styled (console.present t) with
  | error fault => rfl
  | ok line => rfl

theorem line_eq_error {t : Text} {fault : Fault} (refused : styled (console.present t) = .error fault) :
    console.line [.markup t] = .error fault := by
  rw [line_markup, refused]
  rfl

theorem line_eq_ok {t : Text} {line : Styled} (read : styled (console.present t) = .ok line)
    (resolved : line.resolve = .ok ()) : console.line [.markup t] = .ok (expandTabs line.text ++ ['\n']) := by
  rw [line_markup, read]
  simp only [bind, Except.bind, resolved]
  rfl

/-- A line is printed exactly if it can be read and its styles can be looked up. -/
theorem exists_line_iff (t : Text) :
    (∃ shown, console.line [.markup t] = .ok shown) ↔
      ∃ line, styled (console.present t) = .ok line ∧ line.resolve = .ok () := by
  constructor
  · intro printed
    obtain ⟨shown, printed⟩ := printed
    rw [line_markup] at printed
    obtain ⟨line, read, printed⟩ := bind_eq_ok_iff.1 printed
    obtain ⟨_, resolved, _⟩ := bind_eq_ok_iff.1 printed
    exact ⟨line, read, mapError_eq_ok_iff.1 resolved⟩
  · intro reads
    obtain ⟨line, read, resolved⟩ := reads
    exact ⟨_, console.line_eq_ok read resolved⟩

/-- On no console does an escaped text hold other tags than those made from glyphs. -/
theorem fromGlyph_of_mem_brackets (t : Text) (b : Bracket)
    (member : b ∈ brackets (console.present (escape t))) (live : b.IsLive) :
    ¬ console.showsGlyphs ∧ FromGlyph b.body := by
  unfold present at member
  split at member
  · exact absurd live (not_isLive_of_mem_brackets_escape member)
  · next replaced =>
    refine ⟨replaced, ?_⟩
    rcases mem_brackets_withoutGlyphs _ b member with glyph | ⟨a, inside, same⟩
    · exact glyph
    · have plain := not_isLive_of_mem_brackets_escape inside
      rw [Bracket.IsLive, same] at plain
      exact absurd live plain

/-- The styles of these can be looked up. -/
theorem resolves_escape (t : Text) : ∀ b ∈ brackets (console.present (escape t)), b.Resolves :=
  fun b member => Bracket.resolves_of_fromGlyph fun live =>
    (console.fromGlyph_of_mem_brackets t b member live).2

/-- An escaped text opens tags at most. -/
theorem exists_openAfter_escape (stack : List Opened) (t : Text) :
    ∃ opened, openAfter stack (brackets (console.present (escape t))) = some (opened ++ stack) :=
  exists_openAfter (fun b member live => (console.fromGlyph_of_mem_brackets t b member live).2) stack

/-- Where glyphs are shown, an escaped text opens no tag. -/
theorem openAfter_escape_of_showsGlyphs (shows : console.showsGlyphs) (stack : List Opened)
    (t : Text) : openAfter stack (brackets (console.present (escape t))) = some stack :=
  openAfter_of_plain
    (fun b member live => (console.fromGlyph_of_mem_brackets t b member live).1 shows) stack

/-- What holds of a text with its glyphs and without them holds of what is printed. -/
theorem present_cases {p : Text → Prop} {t : Text} (shown : p t) (replaced : p (withoutGlyphs t)) :
    p (console.present t) := by
  unfold present
  split
  · exact shown
  · exact replaced

theorem mem_present_iff {c : Char} (stays : Stays c) {t : Text} : c ∈ console.present t ↔ c ∈ t := by
  unfold present
  split
  · rfl
  · exact stays.mem_withoutGlyphs

theorem getLast?_present {c : Char} (stays : Stays c) {t : Text}
    (last : (console.present t).getLast? = some c) : t.getLast? = some c := by
  unfold present at last
  split at last
  · exact last
  · exact getLast?_withoutGlyphs stays last

/-- A line can be printed. -/
def Prints (t : Text) : Prop := ∃ shown, console.line [.markup t] = .ok shown

/-- A line is printed if its tags can be applied and their styles can be looked up. -/
theorem prints_of_resolves {t : Text} (resolves : ∀ b ∈ brackets (console.present t), b.Resolves)
    (applied : (openAfter [] (brackets (console.present t))).isSome) : console.Prints t := by
  obtain ⟨line, read⟩ := (exists_styled_iff _).2 applied
  exact (console.exists_line_iff t).2 ⟨line, read, resolve_of_resolves read resolves⟩

/-- A text without brackets is always printed. -/
theorem prints_of_not_mem {t : Text} (without : '[' ∉ t) : console.Prints t := by
  rw [← console.mem_present_iff stays_opening] at without
  have none : brackets (console.present t) = [] := brackets_eq_nil (.inl without)
  apply console.prints_of_resolves
  · simp [none]
  · rw [none]
    rfl

/-- What a line shows that can be printed. -/
theorem line_eq_of_prints {t shown : Text} (prints : console.Prints t)
    (rendered : render (console.present t) = .ok shown) :
    console.line [.markup t] = .ok (expandTabs shown ++ ['\n']) := by
  obtain ⟨line, read, resolved⟩ := (console.exists_line_iff t).1 prints
  rw [render, read] at rendered
  obtain rfl : line.text = shown := Except.ok.inj rendered
  exact console.line_eq_ok read resolved

theorem isClosed_present {front : Text} (plain : front.all fun c => plainGlyph c = [c])
    (closed : IsClosed front) : IsClosed (console.present front) := by
  rwa [console.present_eq_self plain]

theorem isClosed_present_of_not_mem {front : Text} (without : '[' ∉ front)
    (clear : front.getLast? ≠ some '\\') : IsClosed (console.present front) := by
  rw [← console.mem_present_iff stays_opening] at without
  exact isClosed_of_not_mem without fun last => clear (console.getLast?_present (by decide) last)

/-- Behind markup that is closed any escaped text can be printed. -/
theorem prints_append_escape {front : Text} (closed : IsClosed (console.present front)) (t : Text) :
    console.Prints (front ++ escape t) := by
  obtain ⟨opened, applied⟩ := console.exists_openAfter_escape [] t
  apply console.prints_of_resolves
  · rw [present_append, closed.brackets_append, List.forall_mem_append]
    exact ⟨closed.resolves, console.resolves_escape t⟩
  · rw [present_append, closed.openAfter_append, applied]
    rfl

/-- An error can always be reported. -/
theorem exists_errorLine (message : Text) :
    ∃ shown, console.line [.markup (errorLine message)] = .ok shown :=
  console.prints_append_escape (console.isClosed_present (by decide) (by decide +kernel)) message

/-- A warning can always be given. -/
theorem exists_warningLine (message : Text) :
    ∃ shown, console.line [.markup (warningLine message)] = .ok shown :=
  console.prints_append_escape (console.present_cases (by decide +kernel) (by decide +kernel)) message

end Console

end TagOrigin.Display
