import TagOrigin.Proofs.Display.Style
import TagOrigin.Proofs.Success

/-!
Tags one after the other. A text in markup can be read unless a tag cannot be applied to the tags that are
open at its place, so only the brackets count. Tags made by replacing glyphs can always be applied, and
their styles can be looked up.
-/
namespace TagOrigin.Display

namespace Markup

variable {stack : List Opened} {body : Text}

/-- The position of a tag only counts for the wording of a fault. -/
theorem toOption_readTag (stack : List Opened) (body : Text) (p q : Nat) :
    (readTag stack body p).toOption = (readTag stack body q).toOption := by
  have place (name : Text) : (closedPlace stack name body p).toOption =
      (closedPlace stack name body q).toOption := by
    unfold closedPlace
    split
    · rfl
    · rfl
    · cases canonicalName _ with
      | error fault => rfl
      | ok canonical =>
        dsimp only [bind, Except.bind]
        split
        · rfl
        · rfl
  unfold readTag
  split
  · exact toOption_map _ (place _)
  · rfl

/-- A tag that begins with a slash closes a tag, or it cannot be read. -/
theorem readTag_closing (more : Text) (stack : List Opened) (position : Nat) :
    readTag stack ('/' :: more) position =
      (closedPlace stack (more.takeWhile (· ≠ '=')) ('/' :: more) position).map .closes := by
  have name : ('/' :: more).takeWhile (· ≠ '=') = '/' :: more.takeWhile (· ≠ '=') := by simp
  rw [readTag, name]
  rfl

/-- All others are opened, whatever tags are open. -/
theorem readTag_opening (opens : body.head? ≠ some '/') (stack : List Opened) (position : Nat) :
    readTag stack body position =
      (canonicalName (body.takeWhile (· ≠ '='))).map fun name =>
        .opens ⟨name, body.drop ((body.takeWhile (· ≠ '=')).length + 1)⟩ := by
  unfold readTag
  split
  · next name closes =>
    cases body with
    | nil => cases closes
    | cons c body =>
      rw [List.takeWhile_cons] at closes
      split at closes
      · simp_all
      · cases closes
  · rfl

theorem head?_ne_of_readTag_eq_opens {tag : Opened} {position : Nat}
    (opens : readTag stack body position = .ok (.opens tag)) : body.head? ≠ some '/' := by
  intro closes
  obtain ⟨more, rfl⟩ := List.head?_eq_some_iff.1 closes
  rw [readTag_closing] at opens
  obtain ⟨place, _, same⟩ := map_eq_ok_iff.1 opens
  cases same

/-- The tag that is opened by what stands between two brackets. -/
def opened? (body : Text) : Option Opened :=
  match readTag [] body 0 with
  | .ok (.opens tag) => some tag
  | _ => none

/-- The tags that are open before do not count for it. -/
theorem opened?_eq_some_iff {tag : Opened} (stack : List Opened) (position : Nat) :
    opened? body = some tag ↔ readTag stack body position = .ok (.opens tag) := by
  have first : opened? body = some tag ↔ readTag [] body 0 = .ok (.opens tag) := by
    rw [opened?]
    split <;> simp_all
  rw [first]
  constructor
  · intro opens
    have opening := head?_ne_of_readTag_eq_opens opens
    rwa [readTag_opening opening] at opens ⊢
  · intro opens
    have opening := head?_ne_of_readTag_eq_opens opens
    rwa [readTag_opening opening] at opens ⊢

/-- The open tags behind a tag. -/
def applyTag (stack : List Opened) (body : Text) (position : Nat) : Except Fault (List Opened) :=
  (readTag stack body position).map (Change.apply stack)

theorem toOption_applyTag (stack : List Opened) (body : Text) (p q : Nat) :
    (applyTag stack body p).toOption = (applyTag stack body q).toOption :=
  toOption_map _ (toOption_readTag stack body p q)

/-- A tag made from a glyph is opened, and its style can be looked up. -/
theorem exists_opened?_of_fromGlyph (glyph : FromGlyph body) :
    ∃ tag, opened? body = some tag ∧ Style.Resolves tag.style := by
  have opens : body.head? ≠ some '/' := by
    rcases glyph with ⟨more, rfl⟩ | ⟨more, rfl⟩
    · simp
    · simp
  obtain ⟨canonical, named, begins⟩ :=
    Style.exists_canonicalName (Style.fromGlyph_takeWhile (p := (· ≠ '=')) (by decide) glyph)
  refine ⟨⟨canonical, body.drop ((body.takeWhile (· ≠ '=')).length + 1)⟩, ?_, ?_⟩
  · rw [opened?_eq_some_iff [] 0, readTag_opening opens, canonicalName, named]
    rfl
  · have front : canonical <+: canonical ++ ' ' :: body.drop ((body.takeWhile (· ≠ '=')).length + 1) :=
      List.prefix_append _ _
    exact Style.resolves_of_fromGlyph (begins.imp (·.trans front) (·.trans front))

theorem exists_applyTag_of_fromGlyph (glyph : FromGlyph body) (stack : List Opened) (position : Nat) :
    ∃ tag, applyTag stack body position = .ok (tag :: stack) := by
  obtain ⟨tag, opens, -⟩ := exists_opened?_of_fromGlyph glyph
  refine ⟨tag, ?_⟩
  rw [applyTag, (opened?_eq_some_iff stack position).1 opens]
  rfl

/-- A closing tag finds an open tag of its name, if that is no action. -/
theorem exists_applyTag_closing {name : Text} {tag : Opened} (closes : body.takeWhile (· ≠ '=') = '/' :: name)
    (member : tag ∈ stack) (named : canonicalName (Text.strip name) = .ok tag.name)
    (nonempty : Text.strip name ≠ []) (plain : tag.name.head? ≠ some '@') (position : Nat) :
    ∃ next, applyTag stack body position = .ok next := by
  obtain ⟨other, opened⟩ : ∃ other, stack.find? (·.name = tag.name) = some other :=
    Option.isSome_iff_exists.1 (List.find?_isSome.2 ⟨tag, member, decide_eq_true rfl⟩)
  have same : other.name = tag.name := by simpa using List.find?_some opened
  have closed : other.close = .ok () := by rw [Opened.close, same, if_neg plain]
  have place : ∃ n, closedPlace stack name body position = .ok n := by
    unfold closedPlace
    split
    · next empty => exact absurd empty nonempty
    · next empty => exact absurd empty nonempty
    · rw [named]
      simp only [bind, Except.bind, opened, closed]
      exact ⟨_, rfl⟩
  obtain ⟨n, place⟩ := place
  rw [applyTag, readTag, closes]
  simp only [place]
  exact ⟨_, rfl⟩

/-- The tags that are open behind a sequence of brackets, if each tag among them can be applied. -/
def openAfter (stack : List Opened) : List Bracket → Option (List Opened)
  | [] => some stack
  | b :: rest =>
    if b.IsLive then (applyTag stack b.body 0).toOption.bind fun stack => openAfter stack rest
    else openAfter stack rest

theorem openAfter_cons_of_isLive {b : Bracket} (live : b.IsLive) (rest : List Bracket) :
    openAfter stack (b :: rest) =
      (applyTag stack b.body 0).toOption.bind fun stack => openAfter stack rest := by
  rw [openAfter, if_pos live]

theorem openAfter_cons_of_plain {b : Bracket} (plain : ¬ b.IsLive) (rest : List Bracket) :
    openAfter stack (b :: rest) = openAfter stack rest := by
  rw [openAfter, if_neg plain]

theorem openAfter_append (stack : List Opened) (front rest : List Bracket) :
    openAfter stack (front ++ rest) = (openAfter stack front).bind (openAfter · rest) := by
  induction front generalizing stack with
  | nil => rfl
  | cons b front ih =>
    rw [List.cons_append, openAfter, openAfter]
    split
    · rw [Option.bind_assoc]
      exact congrArg _ (funext fun stack => ih stack)
    · exact ih stack

/-- Where no bracket is a tag but those made from glyphs, all tags are opened. -/
theorem exists_openAfter {bs : List Bracket} (glyphs : ∀ b ∈ bs, b.IsLive → FromGlyph b.body)
    (stack : List Opened) : ∃ opened, openAfter stack bs = some (opened ++ stack) := by
  induction bs generalizing stack with
  | nil => exact ⟨[], rfl⟩
  | cons b bs ih =>
    obtain ⟨here, later⟩ := List.forall_mem_cons.1 glyphs
    by_cases live : b.IsLive
    · obtain ⟨tag, applied⟩ := exists_applyTag_of_fromGlyph (here live) stack 0
      obtain ⟨opened, behind⟩ := ih later (tag :: stack)
      rw [openAfter_cons_of_isLive live, applied]
      exact ⟨opened ++ [tag], by rw [List.append_assoc]; exact behind⟩
    · rw [openAfter_cons_of_plain live]
      exact ih later stack

theorem openAfter_of_plain {bs : List Bracket} (plain : ∀ b ∈ bs, ¬ b.IsLive) (stack : List Opened) :
    openAfter stack bs = some stack := by
  induction bs with
  | nil => rfl
  | cons b bs ih =>
    obtain ⟨here, later⟩ := List.forall_mem_cons.1 plain
    rw [openAfter_cons_of_plain here, ih later]

/-- A bracket that asks for no style that cannot be looked up. -/
def Bracket.Resolves (b : Bracket) : Prop :=
  b.IsLive → ∀ tag ∈ opened? b.body, Style.Resolves tag.style

instance : DecidablePred Bracket.Resolves := fun b =>
  inferInstanceAs (Decidable (b.IsLive → ∀ tag ∈ opened? b.body, Style.Resolves tag.style))

theorem Bracket.resolves_of_fromGlyph {b : Bracket} (glyphs : b.IsLive → FromGlyph b.body) : b.Resolves := by
  intro live tag opens
  obtain ⟨other, opened, resolves⟩ := exists_opened?_of_fromGlyph (glyphs live)
  obtain rfl : other = tag := Option.some.inj (opened.symm.trans opens)
  exact resolves

/-- A text whose tags are all closed again, and which leaves no bracket open. -/
structure IsClosed (t : Text) : Prop where
  clear : t.getLast? ≠ some '\\'
  last : firstBracket? t.reverse ≠ some '['
  tags : openAfter [] (brackets t) = some []
  resolves : ∀ b ∈ brackets t, b.Resolves

instance (t : Text) : Decidable (IsClosed t) :=
  decidable_of_iff (t.getLast? ≠ some '\\' ∧ firstBracket? t.reverse ≠ some '[' ∧
      openAfter [] (brackets t) = some [] ∧ ∀ b ∈ brackets t, b.Resolves)
    ⟨fun ⟨clear, last, tags, resolves⟩ => { clear, last, tags, resolves },
      fun closed => ⟨closed.clear, closed.last, closed.tags, closed.resolves⟩⟩

theorem isClosed_of_not_mem {t : Text} (without : '[' ∉ t) (clear : t.getLast? ≠ some '\\') :
    IsClosed t where
  clear := clear
  last := firstBracket?_ne (by simpa using without)
  tags := by rw [brackets_eq_nil (.inl without)]; rfl
  resolves := by simp [brackets_eq_nil (.inl without)]

theorem IsClosed.brackets_append {front : Text} (closed : IsClosed front) (rest : Text) :
    brackets (front ++ rest) = brackets front ++ brackets rest :=
  Markup.brackets_append (.inl closed.clear) (not_crosses_of_last closed.last)

/-- Behind such a text the tags are applied as if nothing stood before them. -/
theorem IsClosed.openAfter_append {front : Text} (closed : IsClosed front) (rest : Text) :
    openAfter [] (brackets (front ++ rest)) = openAfter [] (brackets rest) := by
  rw [closed.brackets_append, Markup.openAfter_append, closed.tags, Option.bind_some]

/-- Where no tag is open, those that cannot be applied are the closing ones and those whose name cannot be
looked up. -/
theorem applyTag_nil_eq_error_iff (position : Nat) :
    (∃ fault, applyTag [] body position = .error fault) ↔
      body.head? = some '/' ∨ ¬ Style.Resolves (body.takeWhile (· ≠ '=')) := by
  by_cases closes : body.head? = some '/'
  · refine iff_of_true ?_ (.inl closes)
    obtain ⟨more, rfl⟩ := List.head?_eq_some_iff.1 closes
    rw [applyTag, readTag_closing]
    unfold closedPlace
    split
    · exact ⟨_, rfl⟩
    · next _ nothing => cases nothing
    · cases canonicalName _ with
      | error fault => exact ⟨fault, rfl⟩
      | ok canonical => exact ⟨_, rfl⟩
  · rw [applyTag, readTag_opening closes, Style.resolves_iff, canonicalName]
    cases Style.canonicalName (body.takeWhile (· ≠ '=')) with
    | error fault => simp [Except.map, Except.mapError]
    | ok canonical => simp [Except.map, Except.mapError, closes]

theorem Piece.step_of_plain {b : Bracket} (plain : ¬ b.IsLive) (stack : List Opened) (position : Nat) :
    (Piece.bracket b position).step stack =
      .ok ⟨List.replicate (b.slashes / 2) '\\' ++ shown ('[' :: b.body ++ [']']), none⟩ := by
  have odd : b.slashes % 2 = 1 := by
    unfold Bracket.IsLive at plain
    omega
  rw [Piece.step, if_pos odd]

theorem Piece.step_of_isLive {b : Bracket} (live : b.IsLive) (stack : List Opened) (position : Nat) :
    (Piece.bracket b position).step stack =
      (readTag stack b.body (position + b.slashes)).map fun change =>
        ⟨List.replicate (b.slashes / 2) '\\', some change⟩ := by
  have even : ¬ b.slashes % 2 = 1 := by
    unfold Bracket.IsLive at live
    omega
  rw [Piece.step, if_neg even]

/-- The first of some pieces is read alone, and the others behind it. -/
theorem trace_cons_iff {piece : Piece} {pieces : List Piece} {steps : List Step} :
    trace stack (piece :: pieces) = .ok steps ↔ ∃ step more, piece.step stack = .ok step ∧
      trace (step.behind stack) pieces = .ok more ∧ steps = step :: more := by
  constructor
  · intro traced
    rw [trace] at traced
    obtain ⟨step, stepped, traced⟩ := bind_eq_ok_iff.1 traced
    obtain ⟨more, later, whole⟩ := bind_eq_ok_iff.1 traced
    exact ⟨step, more, stepped, later, (Except.ok.inj whole).symm⟩
  · rintro ⟨step, more, stepped, later, rfl⟩
    rw [trace]
    exact bind_eq_ok_iff.2 ⟨step, stepped, bind_eq_ok_iff.2 ⟨more, later, rfl⟩⟩

theorem exists_trace_cons {piece : Piece} {step : Step} (stepped : piece.step stack = .ok step)
    (pieces : List Piece) :
    (∃ steps, trace stack (piece :: pieces) = .ok steps) ↔
      ∃ steps, trace (step.behind stack) pieces = .ok steps := by
  constructor
  · intro traced
    obtain ⟨steps, traced⟩ := traced
    obtain ⟨other, more, stepped', later, -⟩ := trace_cons_iff.1 traced
    obtain rfl : step = other := Except.ok.inj (stepped.symm.trans stepped')
    exact ⟨more, later⟩
  · intro traced
    obtain ⟨more, later⟩ := traced
    exact ⟨step :: more, trace_cons_iff.2 ⟨step, more, stepped, later, rfl⟩⟩

/-- A sequence of tokens can be read exactly if each tag in it can be applied. -/
theorem exists_trace_iff (stack : List Opened) (position : Nat)
    (tokens : List (Scan.Token Char Bracket)) :
    (∃ steps, trace stack (gather position tokens) = .ok steps) ↔
      (openAfter stack (tokens.filterMap Scan.Token.found?)).isSome := by
  have stretched (stack : List Opened) (t : Text) :
      (Piece.stretch t).step stack = .ok ⟨shownStretch t, none⟩ := rfl
  induction tokens generalizing stack position with
  | nil => simp [gather, trace, openAfter]
  | cons token tokens ih =>
    cases token with
    | other c =>
      have later := ih stack (position + 1)
      rw [gather]
      split
      · next t pieces gathered =>
        rw [gathered, exists_trace_cons (stretched stack t)] at later
        rwa [exists_trace_cons (stretched stack (c :: t))]
      · rwa [exists_trace_cons (stretched stack [c])]
    | found b =>
      have later (next : List Opened) := ih next (position + b.text.length)
      have found : (Scan.Token.found b :: tokens).filterMap Scan.Token.found? =
          b :: tokens.filterMap Scan.Token.found? := rfl
      rw [gather, found]
      by_cases live : b.IsLive
      · have same := toOption_applyTag stack b.body (position + b.slashes) 0
        have stepped := Piece.step_of_isLive live stack position
        rw [openAfter_cons_of_isLive live, ← same, applyTag]
        cases tried : readTag stack b.body (position + b.slashes) with
        | error fault =>
          rw [tried] at stepped
          simp [trace_cons_iff, stepped, Except.map, Except.toOption]
        | ok change =>
          rw [tried] at stepped
          rw [exists_trace_cons stepped]
          exact later (change.apply stack)
      · rw [openAfter_cons_of_plain live, exists_trace_cons (Piece.step_of_plain live stack position)]
        exact later stack

/-- A text with a bracket is what its steps show. -/
theorem styled_eq_ok_iff {t : Text} {line : Styled} (bracketed : '[' ∈ t) :
    styled t = .ok line ↔ ∃ steps, trace [] (pieces t) = .ok steps ∧ assemble steps = line := by
  rw [styled, if_pos (List.contains_iff_mem.2 bracketed)]
  exact map_eq_ok_iff

theorem styled_of_not_mem {t : Text} (without : '[' ∉ t) : styled t = .ok (.plain (shown t)) := by
  rw [styled, if_neg (by simpa using without)]

/-- A text in markup can be read exactly if each of its tags can be applied. -/
theorem exists_styled_iff (t : Text) :
    (∃ line, styled t = .ok line) ↔ (openAfter [] (brackets t)).isSome := by
  by_cases bracketed : '[' ∈ t
  · have traced : (∃ steps, trace [] (pieces t) = .ok steps) ↔ (openAfter [] (brackets t)).isSome :=
      exists_trace_iff [] 0 (Scan.tokens Bracket.read 0 t)
    rw [← traced]
    constructor
    · rintro ⟨line, read⟩
      obtain ⟨steps, traced, -⟩ := (styled_eq_ok_iff bracketed).1 read
      exact ⟨steps, traced⟩
    · rintro ⟨steps, traced⟩
      exact ⟨_, (styled_eq_ok_iff bracketed).2 ⟨steps, traced, rfl⟩⟩
  · simp [styled_of_not_mem bracketed, brackets_eq_nil (.inl bracketed), openAfter]

end Markup

end TagOrigin.Display
