import TagOrigin.Proofs.Display.Verbatim

/-!
Messages on a console that replaces glyphs. They are replaced after the message has been escaped, so a
bracket that begins with a glyph becomes a tag that nothing escapes, and is not printed. A message without
backslashes, colons and control characters loses exactly these brackets.
-/
namespace TagOrigin.Display

namespace Markup

section Reading

variable {begins others : Char → Bool} {t rest body : Text} {width : Nat}

/-- Brackets around a text. -/
def bracketText (body : Text) : Text := '[' :: body ++ [']']

/-- Reads a bracket that begins with a character of a class and holds no bracket. -/
def readBracket (begins : Char → Bool) : Text → Option (Text × Nat)
  | '[' :: rest =>
    let inner := fun d => d ≠ '[' && d ≠ ']'
    let body := rest.takeWhile inner
    if (rest.dropWhile inner).head? = some ']' ∧ body.head?.any begins then some (body, body.length + 2)
    else none
  | _ => none

/-- A text that holds no bracket. -/
structure IsUnbracketed (t : Text) : Prop where
  unopened : '[' ∉ t
  unclosed : ']' ∉ t

theorem bracketText_append (body rest : Text) :
    bracketText body ++ rest = '[' :: (body ++ ']' :: rest) := by
  simp [bracketText]

theorem readBracket_append (free : IsUnbracketed body) (rest : Text) :
    readBracket begins (bracketText body ++ rest) =
      if body.head?.any begins then some (body, (bracketText body).length) else none := by
  have inside : ∀ c ∈ body, (decide (c ≠ '[') && decide (c ≠ ']')) = true := by
    intro c member
    have neither : c ≠ '[' ∧ c ≠ ']' :=
      ⟨fun same => free.unopened (same ▸ member), fun same => free.unclosed (same ▸ member)⟩
    simpa using neither
  have stops : Text.Stops (fun c => decide (c ≠ '[') && decide (c ≠ ']')) (']' :: rest) :=
    Text.stops_cons_iff.2 rfl
  rw [bracketText_append, readBracket]
  simp only [Text.dropWhile_append_of_stops inside stops, Text.takeWhile_append_of_stops inside stops]
  simp [bracketText]

theorem exists_of_readBracket (reads : readBracket begins t = some (body, width)) :
    IsUnbracketed body ∧ body.head?.any begins ∧ width = (bracketText body).length ∧
      ∃ rest, t = bracketText body ++ rest := by
  unfold readBracket at reads
  split at reads
  · next rest =>
    obtain ⟨inner, isInner⟩ : ∃ p : Char → Bool, p = fun d => decide (d ≠ '[') && decide (d ≠ ']') :=
      ⟨_, rfl⟩
    simp only [← isInner] at reads
    split at reads
    · next found =>
      obtain ⟨rfl, rfl⟩ := Prod.mk.inj (Option.some.inj reads)
      obtain ⟨behind, dropped⟩ := List.head?_eq_some_iff.1 found.1
      have foreign (c : Char) (outside : inner c = false) : c ∉ rest.takeWhile inner := by
        intro member
        rw [List.all_eq_true.1 List.all_takeWhile c member] at outside
        cases outside
      refine ⟨⟨foreign '[' ?_, foreign ']' ?_⟩, found.2, by simp [bracketText], behind, ?_⟩
      · rw [isInner]
        rfl
      · rw [isInner]
        rfl
      · rw [bracketText, List.cons_append, List.cons_append, List.append_assoc, List.singleton_append,
          ← dropped, List.takeWhile_append_dropWhile]
    · cases reads
  · cases reads

theorem readBracket_of_begins (free : IsUnbracketed body) (begun : body.head?.any begins) (rest : Text) :
    readBracket begins (bracketText body ++ rest) = some (body, (bracketText body).length) := by
  rw [readBracket_append free, if_pos begun]

theorem writes_bracketText (begins : Char → Bool) : Scan.Writes (readBracket begins) bracketText where
  nonempty _ := List.cons_ne_nil '[' _
  written reads := (exists_of_readBracket reads).2.2
  settled reads rest := by
    obtain ⟨free, begun, rfl, -⟩ := exists_of_readBracket reads
    exact readBracket_of_begins free begun rest

/-- None is read anywhere in a text that has none in it. -/
theorem readBracket_silent_iff :
    (∀ after, after <:+ t → after ≠ [] → readBracket begins after = none) ↔
      ¬ ∃ body, IsUnbracketed body ∧ body.head?.any begins ∧ bracketText body <:+: t := by
  constructor
  · rintro silent ⟨body, free, begun, before, behind, rfl⟩
    have here := silent (bracketText body ++ behind) ⟨before, by simp⟩ (by simp [bracketText])
    rw [readBracket_of_begins free begun] at here
    cases here
  · intro absent after suffix _
    rw [Option.eq_none_iff_forall_ne_some]
    rintro ⟨body, width⟩ reads
    obtain ⟨free, begun, -, rest, rfl⟩ := exists_of_readBracket reads
    exact absent ⟨body, free, begun, (List.prefix_append _ rest).isInfix.trans suffix.isInfix⟩

/-- Where a larger class reads nothing, a smaller one reads nothing. -/
theorem readBracket_mono (smaller : ∀ c, begins c = true → others c = true)
    (silent : readBracket others t = none) : readBracket begins t = none := by
  rw [Option.eq_none_iff_forall_ne_some]
  rintro ⟨body, width⟩ reads
  obtain ⟨free, begun, -, rest, rfl⟩ := exists_of_readBracket reads
  obtain ⟨c, first, starts⟩ := (Option.any_eq_true _ _).1 begun
  rw [readBracket_of_begins free ((Option.any_eq_true _ _).2 ⟨c, first, smaller c starts⟩)] at silent
  cases silent

/-- In a bracket that begins with another character none is read. -/
theorem readBracket_of_suffix (free : IsUnbracketed body) (other : body.head?.any begins = false)
    {after : Text} (suffix : after <:+ bracketText body) (begun : after ≠ []) (rest : Text) :
    readBracket begins (after ++ rest) = none := by
  rcases List.suffix_cons_iff.1 suffix with rfl | inside
  · have whole : readBracket begins (bracketText body ++ rest) = _ := readBracket_append free rest
    rwa [other] at whole
  · rw [Option.eq_none_iff_forall_ne_some]
    rintro ⟨found, width⟩ reads
    obtain ⟨-, -, -, behind, whole⟩ := exists_of_readBracket reads
    obtain ⟨c, more, rfl⟩ := List.exists_cons_of_ne_nil begun
    obtain rfl : c = '[' := (List.cons.inj whole).1
    have member := inside.mem (a := '[') List.mem_cons_self
    simp [free.unopened] at member

/-- Without a backslash at its front, a text begins with a tag only if it begins with its bracket. -/
theorem Bracket.read_of_readBracket (slash : t.head? ≠ some '\\')
    (silent : readBracket startsTag t = none) : Bracket.read t = none := by
  rw [Option.eq_none_iff_forall_ne_some]
  rintro ⟨⟨slashes, body⟩, width⟩ reads
  obtain ⟨⟨⟨c, first, starts⟩, unopened, unclosed⟩, -, rest, rfl⟩ := Bracket.exists_of_read reads
  cases slashes with
  | succ n => exact slash rfl
  | zero =>
    have written : readBracket startsTag _ = _ := readBracket_of_begins ⟨unopened, unclosed⟩
      ((Option.any_eq_true _ _).2 ⟨c, first, starts⟩) rest
    cases silent.symm.trans written

end Reading

section Glyphs

variable {t stretch body rest : Text} {c : Char}

/-- The glyphs whose replacements can begin a tag. -/
def isTagGlyph (c : Char) : Bool := c = '✓' || c = '✗'

/-- The characters that begin a tag, as they are or after glyphs have been replaced. -/
def isMarking (c : Char) : Bool := startsTag c || isTagGlyph c

/-- A text without the brackets that begin with a glyph. -/
def withoutGlyphTags (t : Text) : Text :=
  Scan.substitute (readBracket isTagGlyph) (fun _ => []) t

theorem isMarking_of_startsTag_plainGlyph {d : Char} (first : (plainGlyph c).head? = some d)
    (starts : startsTag d = true) : isMarking c = true := by
  rcases plainGlyph_cases c with same | ⟨rfl, -⟩ | ⟨rfl, -⟩ | ⟨-, same⟩
  · rw [same] at first
    obtain rfl := Option.some.inj first
    simp [isMarking, starts]
  · rfl
  · rfl
  · rw [same] at first
    obtain rfl := Option.some.inj first
    cases starts

/-- Where no bracket begins like a tag, no tag begins without the glyphs. -/
theorem silent_withoutGlyphs
    (silent : ∀ after, after <:+ t → after ≠ [] → readBracket isMarking after = none) :
    Silent (withoutGlyphs t) := by
  rw [silent_iff, List.eq_nil_iff_forall_not_mem]
  intro b member
  obtain ⟨before, inner, rest, rfl, image, tag, unopened, unclosed⟩ :=
    exists_of_mem_brackets_withoutGlyphs member
  obtain ⟨d, first, starts⟩ := tag.begins
  cases inner with
  | nil => simp [← image, withoutGlyphs] at first
  | cons c inner =>
    have plain : (plainGlyph c).head? = some d := by
      rw [← image, withoutGlyphs_cons] at first
      rcases plainGlyph_cases c with same | ⟨-, same⟩ | ⟨-, same⟩ | ⟨-, same⟩ <;>
        simpa [same] using first
    have marks : (c :: inner).head?.any isMarking := isMarking_of_startsTag_plainGlyph plain starts
    have here := silent ('[' :: (c :: inner ++ ']' :: rest)) (List.suffix_append before _)
      (List.cons_ne_nil _ _)
    have written := readBracket_of_begins ⟨unopened, unclosed⟩ marks rest
    rw [bracketText_append] at written
    cases here.symm.trans written

theorem stays_of_isActive (active : Emoji.isActive c) : Stays c := by
  intro member
  have inert : "okx!✓✗⚠".toList.all fun c => !Emoji.isActive c := by decide
  have plain := List.all_eq_true.1 inert c member
  rw [active] at plain
  cases plain

/-- The replacements of glyphs are no characters that printing can take. -/
theorem inert_withoutGlyphs (inert : ∀ c ∈ t, Emoji.isActive c = false) :
    ∀ c ∈ withoutGlyphs t, Emoji.isActive c = false := by
  intro c member
  cases active : Emoji.isActive c with
  | false => rfl
  | true =>
    rw [(stays_of_isActive active).mem_withoutGlyphs] at member
    exact active.symm.trans (inert c member)

theorem shownStretch_of_inert (inert : ∀ c ∈ t, Emoji.isActive c = false) : shownStretch t = t :=
  (wanes_shownStretch t).eq_of_forall inert

/-- Without backslashes, no tag begins where no bracket begins like one. -/
theorem Bracket.read_append_of_readBracket {front : Text} (slashes : '\\' ∉ front)
    (silent : ∀ after, after <:+ front → after ≠ [] → readBracket startsTag (after ++ rest) = none) :
    ∀ after, after <:+ front → after ≠ [] → Bracket.read (after ++ rest) = none := by
  intro after suffix begun
  refine Bracket.read_of_readBracket ?_ (silent after suffix begun)
  obtain ⟨c, more, rfl⟩ := List.exists_cons_of_ne_nil begun
  intro slash
  exact slashes (suffix.mem (Option.some.inj slash ▸ List.mem_cons_self))

theorem Bracket.silent_of_readBracket (slashes : '\\' ∉ t)
    (silent : ∀ after, after <:+ t → after ≠ [] → readBracket startsTag after = none) : Silent t := by
  intro after suffix begun
  have alone : Bracket.read (after ++ []) = none := by
    refine Bracket.read_append_of_readBracket slashes (fun after suffix begun => ?_) after suffix begun
    rw [List.append_nil]
    exact silent after suffix begun
  rwa [List.append_nil] at alone

theorem isMarking_of_startsTag (c : Char) (starts : startsTag c = true) : isMarking c = true := by
  simp [isMarking, starts]

theorem isMarking_of_isTagGlyph (c : Char) (glyph : isTagGlyph c = true) : isMarking c = true := by
  simp [isMarking, glyph]

/-- A bracket that begins with a glyph begins a tag when it is replaced. -/
theorem fromGlyph_withoutGlyphs (glyph : body.head?.any isTagGlyph) : FromGlyph (withoutGlyphs body) := by
  obtain ⟨c, first, isGlyph⟩ := (Option.any_eq_true _ _).1 glyph
  obtain ⟨more, rfl⟩ := List.head?_eq_some_iff.1 first
  rcases Bool.or_eq_true_iff.1 isGlyph with check | cross
  · obtain rfl := of_decide_eq_true check
    exact .inl ⟨_, rfl⟩
  · obtain rfl := of_decide_eq_true cross
    exact .inr ⟨_, rfl⟩

theorem isTag_withoutGlyphs (free : IsUnbracketed body) (marks : body.head?.any isMarking) :
    IsTag (withoutGlyphs body) where
  begins := by
    obtain ⟨c, first, marks⟩ := (Option.any_eq_true _ _).1 marks
    obtain ⟨more, rfl⟩ := List.head?_eq_some_iff.1 first
    rcases Bool.or_eq_true_iff.1 marks with starts | glyph
    · exact ⟨c, by rw [withoutGlyphs_cons, plainGlyph_of_startsTag starts]; rfl, starts⟩
    · rcases Bool.or_eq_true_iff.1 glyph with check | cross
      · obtain rfl := of_decide_eq_true check
        exact ⟨'o', rfl, rfl⟩
      · obtain rfl := of_decide_eq_true cross
        exact ⟨'x', rfl, rfl⟩
  unopened := by
    rw [stays_opening.mem_withoutGlyphs]
    exact free.unopened
  unclosed := by
    rw [stays_closing.mem_withoutGlyphs]
    exact free.unclosed

theorem not_mem_slash_of_inert (inert : ∀ c ∈ t, Emoji.isActive c = false) : '\\' ∉ t :=
  fun member => Bool.false_ne_true ((inert _ member).symm.trans rfl)

theorem shown_of_inert (inert : ∀ c ∈ t, Emoji.isActive c = false) : shown t = t :=
  (wanes_shown t).eq_of_forall inert

theorem withoutGlyphs_bracketText (body : Text) :
    withoutGlyphs (bracketText body) = bracketText (withoutGlyphs body) := by
  have open_ : plainGlyph '[' = ['['] := rfl
  have close : withoutGlyphs [']'] = [']'] := rfl
  rw [bracketText, List.cons_append, withoutGlyphs_cons, open_, withoutGlyphs_append, close]
  rfl

theorem bracketText_eq_text (body : Text) : bracketText body = Bracket.text ⟨0, body⟩ := rfl

theorem escape_of_not_mem (slashes : '\\' ∉ t) : escape t = escapedTags t := by
  have even : endsInLoneSlash t ≠ true := by
    intro lone
    obtain ⟨before, rfl, -⟩ := endsInLoneSlash_iff.1 lone
    simp at slashes
  rw [escape_eq, paired, if_neg even]

section Brackets

variable (free : IsUnbracketed body) (rest : Text)
include free

theorem isTag_of_startsTag (starts : body.head?.any startsTag) : IsTag body :=
  ⟨(Option.any_eq_true _ _).1 starts, free.unopened, free.unclosed⟩

theorem escapedTags_tag (starts : body.head?.any startsTag) :
    escapedTags (bracketText body ++ rest) =
      Bracket.text (Bracket.escaped ⟨0, body⟩) ++ escapedTags rest :=
  escapedTags_append_text (b := ⟨0, body⟩) (silent_of_not_mem (t := []) (.inl (by simp))) (by simp)
    (isTag_of_startsTag free starts) rest

theorem escapedTags_glyph (slashes : '\\' ∉ bracketText body) (other : body.head?.any startsTag = false) :
    escapedTags (bracketText body ++ rest) = bracketText body ++ escapedTags rest := by
  refine Scan.substitute_append_of_silent (Bracket.read_append_of_readBracket slashes ?_) _
  exact fun after suffix begun => readBracket_of_suffix free other suffix begun rest

theorem withoutGlyphTags_tag (other : body.head?.any isTagGlyph = false) :
    withoutGlyphTags (bracketText body ++ rest) = bracketText body ++ withoutGlyphTags rest :=
  Scan.substitute_append_of_silent (fun _ suffix begun => readBracket_of_suffix free other suffix begun rest) _

theorem withoutGlyphTags_glyph (glyph : body.head?.any isTagGlyph) :
    withoutGlyphTags (bracketText body ++ rest) = withoutGlyphTags rest := by
  have nonempty : bracketText body ≠ [] := List.cons_ne_nil '[' _
  have found := Scan.tokens_append_of_some nonempty (readBracket_of_begins free glyph rest)
  rw [withoutGlyphTags, Scan.substitute, found]
  rfl

end Brackets

/-- What marks a bracket is a glyph or begins a tag, not both. -/
theorem isTagGlyph_of_isMarking (marks : body.head?.any isMarking) :
    body.head?.any isTagGlyph = !body.head?.any startsTag := by
  obtain ⟨c, first, marks⟩ := (Option.any_eq_true _ _).1 marks
  rw [first, Option.any_some, Option.any_some]
  rw [isMarking] at marks
  cases glyph : isTagGlyph c with
  | false => simpa [glyph] using marks
  | true =>
    rcases Bool.or_eq_true_iff.1 glyph with check | cross
    · obtain rfl := of_decide_eq_true check
      rfl
    · obtain rfl := of_decide_eq_true cross
      rfl

/-- A bracket that has been escaped is shown without its glyphs. -/
theorem step_escaped_withoutGlyphs
    (inert : ∀ c ∈ withoutGlyphs (bracketText body), Emoji.isActive c = false)
    (stack : List Opened) (position : Nat) :
    (Piece.bracket (Bracket.escaped ⟨0, body⟩).withoutGlyphs position).step stack =
      .ok ⟨withoutGlyphs (bracketText body), none⟩ := by
  have plain : ¬ (Bracket.escaped ⟨0, body⟩).withoutGlyphs.IsLive := Bracket.not_isLive_escaped ⟨0, body⟩
  have single : (Bracket.escaped ⟨0, body⟩).withoutGlyphs.slashes = 1 := rfl
  have alone : List.replicate (1 / 2) '\\' = [] := rfl
  have shownBracket := shown_of_inert inert
  rw [withoutGlyphs_bracketText] at shownBracket ⊢
  rw [Piece.step_of_plain plain, single, alone, List.nil_append]
  change Except.ok (Step.mk (shown (bracketText (withoutGlyphs body))) none) = _
  rw [shownBracket]

/-- A tag made from a glyph is opened and not shown. -/
theorem exists_step_of_glyph (glyph : body.head?.any isTagGlyph) (stack : List Opened) (position : Nat) :
    ∃ step, (Piece.bracket ⟨0, withoutGlyphs body⟩ position).step stack = .ok step ∧ step.shown = [] := by
  obtain ⟨opened, applied⟩ := exists_applyTag_of_fromGlyph (fromGlyph_withoutGlyphs glyph) stack 0
  have live : Bracket.IsLive ⟨0, withoutGlyphs body⟩ := rfl
  obtain ⟨step, stepped, hidden, -⟩ :=
    exists_step_of_isLive live (congrArg Except.toOption applied) position
  exact ⟨step, stepped, by simpa using hidden⟩

/-- Without the glyphs, an escaped message shows all but its brackets that begin with one. -/
theorem showFrom_escapedTags (inert : ∀ c ∈ t, Emoji.isActive c = false) (stack : List Opened)
    (position : Nat) :
    showFrom stack position (withoutGlyphs (escapedTags t)) = .ok (withoutGlyphs (withoutGlyphTags t)) := by
  induction t using (writes_bracketText isMarking).induction generalizing stack position with
  | plain t silent =>
    have untagged : Silent t := Bracket.silent_of_readBracket (not_mem_slash_of_inert inert)
      fun after suffix begun => readBracket_mono isMarking_of_startsTag (silent after suffix begun)
    have kept : withoutGlyphTags t = t :=
      Scan.substitute_of_silent
        (fun after suffix begun => readBracket_mono isMarking_of_isTagGlyph (silent after suffix begun)) _
    rw [escapedTags, substitute_of_silent untagged, showFrom_of_silent (silent_withoutGlyphs silent),
      shownStretch_of_inert (inert_withoutGlyphs inert), kept]
  | first stretch body rest silent reads ih =>
    obtain ⟨inertStretch, inertBehind⟩ := List.forall_mem_append.1 inert
    obtain ⟨inertBracket, inertRest⟩ := List.forall_mem_append.1 inertBehind
    obtain ⟨free, marks, -⟩ := exists_of_readBracket (reads [])
    have untagged : Silent (withoutGlyphs stretch) := silent_withoutGlyphs fun after suffix begun =>
      (writes_bracketText isMarking).read_of_append (silent after suffix begun)
    have clear : (withoutGlyphs stretch).getLast? ≠ some '\\' := fun last =>
      not_mem_slash_of_inert (inert_withoutGlyphs inertStretch) (List.mem_of_getLast? last)
    have escaped : escapedTags (stretch ++ (bracketText body ++ rest)) =
        stretch ++ escapedTags (bracketText body ++ rest) := by
      refine Scan.substitute_append_of_silent
        (Bracket.read_append_of_readBracket (not_mem_slash_of_inert inertStretch) ?_) _
      exact fun after suffix begun => readBracket_mono isMarking_of_startsTag (silent after suffix begun)
    have left : withoutGlyphTags (stretch ++ (bracketText body ++ rest)) =
        stretch ++ withoutGlyphTags (bracketText body ++ rest) := by
      refine Scan.substitute_append_of_silent ?_ _
      exact fun after suffix begun => readBracket_mono isMarking_of_isTagGlyph (silent after suffix begun)
    have shownBefore := shownStretch_of_inert (inert_withoutGlyphs inertStretch)
    have tag : IsTag (withoutGlyphs body) := isTag_withoutGlyphs free marks
    rw [escaped, left, withoutGlyphs_append, withoutGlyphs_append]
    cases starts : body.head?.any startsTag with
    | true =>
      have other : body.head?.any isTagGlyph = false := by rw [isTagGlyph_of_isMarking marks, starts]; rfl
      have stepped := step_escaped_withoutGlyphs (inert_withoutGlyphs inertBracket) stack
        (position + (withoutGlyphs stretch).length)
      rw [escapedTags_tag free rest starts, withoutGlyphTags_tag free rest other, withoutGlyphs_append,
        Bracket.withoutGlyphs_text, withoutGlyphs_append,
        showFrom_append_text untagged clear tag _ stepped, ih inertRest, shownBefore]
      rfl
    | false =>
      have glyph : body.head?.any isTagGlyph := by rw [isTagGlyph_of_isMarking marks, starts]; rfl
      obtain ⟨step, stepped, hidden⟩ := exists_step_of_glyph glyph stack
        (position + (withoutGlyphs stretch).length)
      rw [escapedTags_glyph free rest (not_mem_slash_of_inert inertBracket) starts,
        withoutGlyphTags_glyph free rest glyph, withoutGlyphs_append, withoutGlyphs_bracketText,
        bracketText_eq_text, showFrom_append_text untagged clear tag _ stepped, ih inertRest, shownBefore,
        hidden]
      rfl

/-- Characters that are neither a glyph nor part of a replacement stay in number. -/
theorem count_withoutGlyphs (stays : Stays c) (t : Text) : (withoutGlyphs t).count c = t.count c := by
  have replaced {d : Char} {u : Text} (image : plainGlyph d = u) (glyph : d :: u ⊆ "okx!✓✗⚠".toList) :
      (plainGlyph d).count c = [d].count c := by
    rw [image, List.count_eq_zero_of_not_mem, List.count_eq_zero_of_not_mem]
    · exact fun member => stays (glyph (List.mem_singleton.1 member ▸ List.mem_cons_self))
    · exact fun member => stays (glyph (List.mem_cons_of_mem d member))
  have single (d : Char) : (plainGlyph d).count c = [d].count c := by
    rcases plainGlyph_cases d with same | ⟨rfl, same⟩ | ⟨rfl, same⟩ | ⟨rfl, same⟩
    · rw [same]
    · exact replaced same (by decide)
    · exact replaced same (by decide)
    · exact replaced same (by decide)
  induction t with
  | nil => rfl
  | cons d t ih =>
    rw [withoutGlyphs_cons, List.count_append, single, ih, ← List.count_append, List.singleton_append]

/-- What is lost is seen in the text without glyphs. -/
theorem withoutGlyphs_withoutGlyphTags_eq_iff :
    withoutGlyphs (withoutGlyphTags t) = withoutGlyphs t ↔
      ¬ ∃ body, IsUnbracketed body ∧ body.head?.any isTagGlyph ∧ bracketText body <:+: t := by
  have shrinks (body : Text) : Text.Wanes (· == '[') (bracketText body) [] := .inr (by simp [bracketText])
  have wanes : Text.Wanes (· == '[') t (withoutGlyphTags t) :=
    (writes_bracketText isTagGlyph).wanes_substitute fun body _ => shrinks body
  have kept : withoutGlyphs (withoutGlyphTags t) = withoutGlyphs t ↔ withoutGlyphTags t = t := by
    refine ⟨fun same => wanes.resolve_right fun fewer => ?_, congrArg withoutGlyphs⟩
    have counts := congrArg (List.count '[') same
    rw [count_withoutGlyphs stays_opening, count_withoutGlyphs stays_opening] at counts
    exact Nat.ne_of_lt fewer counts
  have none : (∀ body ∈ Scan.matchesOf (readBracket isTagGlyph) t, [] = bracketText body) ↔
      Scan.matchesOf (readBracket isTagGlyph) t = [] := by
    rw [List.eq_nil_iff_forall_not_mem]
    exact forall₂_congr fun body _ => iff_false_intro (List.cons_ne_nil '[' _).symm
  rw [kept, withoutGlyphTags,
    (writes_bracketText isTagGlyph).substitute_eq_self_iff fun body _ => shrinks body, none,
    (writes_bracketText isTagGlyph).matchesOf_eq_nil_iff, readBracket_silent_iff]

theorem mem_of_mem_withoutGlyphTags (member : c ∈ withoutGlyphTags t) : c ∈ t := by
  rcases (writes_bracketText isTagGlyph).mem_or_mem_of_mem_substitute member with
    before | ⟨body, -, image⟩
  · exact before
  · cases image

theorem withoutGlyphs_labelled {style label : Text} (plainStyle : withoutGlyphs style = style)
    (plainLabel : withoutGlyphs label = label) (t : Text) :
    withoutGlyphs (labelled style label t) = labelled style label (withoutGlyphs t) := by
  have closing : withoutGlyphs ('/' :: style) = '/' :: style := by
    rw [withoutGlyphs_cons, plainStyle]
    rfl
  simp only [labelled, ← bracketText_eq_text, withoutGlyphs_append, withoutGlyphs_bracketText, plainStyle,
    plainLabel, closing]

theorem withoutGlyphTags_cons_space (t : Text) :
    withoutGlyphTags (' ' :: t) = ' ' :: withoutGlyphTags t := by
  have silent : readBracket isTagGlyph (' ' :: t) = none := rfl
  rw [withoutGlyphTags, Scan.substitute, Scan.tokens_cons_of_none silent]
  rfl

end Glyphs

end Markup

open Markup

namespace Console

variable (console : Console)

/-- On a console that replaces glyphs, a message without backslashes, colons and control characters loses
the brackets that begin with a glyph that is replaced by letters, and nothing else. So only the glyphs
change exactly if it holds no such bracket. -/
theorem error_without_glyphs_iff (hides : console.showsGlyphs = false) {message : Text}
    (slashes : '\\' ∉ message) (colons : ':' ∉ message) (plain : ∀ c ∈ message, ' ' ≤ c) :
    console.line [.markup (errorLine message)] =
        .ok ("Error: ".toList ++ withoutGlyphs (withoutGlyphTags message) ++ ['\n']) ∧
      (console.line [.markup (errorLine message)] =
          .ok ("Error: ".toList ++ withoutGlyphs message ++ ['\n']) ↔
        ¬ ∃ body, IsUnbracketed body ∧ body.head?.any isTagGlyph ∧ bracketText body <:+: message) := by
  have inert : ∀ c ∈ ' ' :: message, Emoji.isActive c = false := by
    refine List.forall_mem_cons.2 ⟨rfl, fun c member => ?_⟩
    have large : ¬ c.toNat < 0x20 := Nat.not_lt.2 (plain c member)
    have colon : c ≠ ':' := fun same => colons (same ▸ member)
    have slash : c ≠ '\\' := fun same => slashes (same ▸ member)
    simp [Emoji.isActive, large, colon, slash]
  have present : console.present (errorLine message) =
      labelled "bold red".toList "Error:".toList (withoutGlyphs (' ' :: escape message)) := by
    have replaces (t : Text) : console.present t = withoutGlyphs t := if_neg (by simp [hides])
    rw [replaces, errorLine_eq, withoutGlyphs_labelled (by decide) (by decide)]
  have alone (position : Nat) : showFrom [] position (withoutGlyphs (' ' :: escape message)) =
      .ok (withoutGlyphs (' ' :: withoutGlyphTags message)) := by
    rw [escape_of_not_mem slashes, ← escapedTags_cons_space, ← withoutGlyphTags_cons_space]
    exact showFrom_escapedTags inert [] position
  have untabbed : '\t' ∉ withoutGlyphs (' ' :: withoutGlyphTags message) := by
    rw [← withoutGlyphTags_cons_space, stays_of_isActive (c := '\t') rfl |>.mem_withoutGlyphs]
    intro tab
    have before := mem_of_mem_withoutGlyphTags tab
    cases inert _ before
  have printed := console.line_of_labelled present isStyle_boldRed
    ⟨by decide, by decide, by decide +kernel, by decide⟩ alone untabbed (console.exists_errorLine message)
  have space (t : Text) :
      "Error:".toList ++ withoutGlyphs (' ' :: t) = "Error: ".toList ++ withoutGlyphs t := rfl
  rw [printed, space, ← withoutGlyphs_withoutGlyphTags_eq_iff]
  simp

/-- Tags and glyphs, inside brackets too, where glyphs are replaced. -/
theorem error_without_glyphs_iff_bracketed :
    let console : Console := ⟨"cp1252".toList⟩
    let message := "✗ [bold]a[0] ✓[/bold] [⚠ ✓]".toList
    console.showsGlyphs = false ∧ '\\' ∉ message ∧ ':' ∉ message ∧ (∀ c ∈ message, ' ' ≤ c) ∧
      console.line [.markup (errorLine message)] =
        .ok ("Error: ".toList ++ withoutGlyphs message ++ ['\n']) := by
  intro console message
  have hides : console.showsGlyphs = false := by decide
  have slashes : '\\' ∉ message := by decide
  have colons : ':' ∉ message := by decide
  have plain : ∀ c ∈ message, ' ' ≤ c := by simp [message]
  have whole : withoutGlyphs (withoutGlyphTags message) = withoutGlyphs message := by decide +kernel
  exact ⟨hides, slashes, colons, plain, (console.error_without_glyphs_iff hides slashes colons plain).2.2
    (withoutGlyphs_withoutGlyphTags_eq_iff.1 whole)⟩

/-- A glyph in brackets becomes a tag and is not printed, although the message has been escaped. -/
theorem error_loses_bracketed_glyph :
    let console : Console := ⟨"ascii".toList⟩
    let message := "[✓]".toList
    console.showsGlyphs = false ∧ '\\' ∉ message ∧ ':' ∉ message ∧ (∀ c ∈ message, ' ' ≤ c) ∧
      console.line [.markup (errorLine message)] = .ok "Error: \n".toList ∧
      "Error: ".toList ++ withoutGlyphs message ++ ['\n'] = "Error: [ok]\n".toList ∧
      "Error: \n".toList ≠ "Error: [ok]\n".toList := by
  intro console message
  have hides : console.showsGlyphs = false := by decide
  have plain : ∀ c ∈ message, ' ' ≤ c := by simp [message]
  have printed : console.line [.markup (errorLine message)] = .ok "Error: \n".toList := by decide +kernel
  exact ⟨hides, by decide, by decide, plain, printed, by decide +kernel, by decide +kernel⟩

end Console

end TagOrigin.Display
