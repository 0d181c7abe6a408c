import TagOrigin.Proofs.Display.Emoji
import TagOrigin.Proofs.Display.Tags

/-!
What markup shows of a text that has been escaped. Its brackets are shown with the backslashes that they
had, and its stretches without the backslashes before brackets that are no tags. Both lose the codes of
emoji. Whatever is lost is lost for good, so the text is shown as it is exactly if nothing is.
-/
namespace TagOrigin.Display.Markup

section Stretches

variable {t : Text}

theorem isActive_of_isDropped {c : Char} (dropped : isDropped c) : Emoji.isActive c := by
  have control : c.toNat < 0x20 := by
    simp [isDropped] at dropped
    omega
  simp [Emoji.isActive, control]

theorem wanes_filter (t : Text) : Text.Wanes Emoji.isActive t (t.filter fun c => !isDropped c) :=
  .filter (fun c left => isActive_of_isDropped (by simpa using left)) t

theorem wanes_shown (t : Text) : Text.Wanes Emoji.isActive t (shown t) :=
  (Emoji.wanes_replace t).trans (wanes_filter _)

/-- A text is shown as it is exactly if it holds no known code and no control that is dropped. -/
theorem shown_eq_self_iff : shown t = t ↔ Emoji.IsFree t ∧ ∀ c ∈ t, isDropped c = false := by
  rw [shown, (Emoji.wanes_replace t).trans_eq_iff (wanes_filter _), Emoji.replace_eq_self_iff]
  refine and_congr_right fun free => ?_
  rw [Emoji.replace_eq_self_iff.2 free, List.filter_eq_self]
  simp only [Bool.not_eq_true']

theorem mem_of_mem_shown {c : Char} (active : Emoji.isActive c) (member : c ∈ shown t) : c ∈ t :=
  Emoji.mem_of_mem_replace active (List.mem_of_mem_filter member)

/-- A backslash before a bracket. -/
def slashBracket : Text := ['\\', '[']

theorem writes_slashBracket : Scan.Writes (Scan.word slashBracket) fun _ => slashBracket where
  nonempty _ := List.cons_ne_nil '\\' _
  written reads := by
    obtain ⟨rest, after, whole⟩ := Option.map_eq_some_iff.1 reads
    exact ⟨(congrArg Prod.snd whole).symm, rest, Text.after?_eq_some_iff.1 after⟩
  settled reads rest := by
    obtain ⟨-, -, whole⟩ := Option.map_eq_some_iff.1 reads
    rw [Scan.word, Text.after?_eq_some_iff.2 rfl, Option.map_some, ← whole]

theorem matchesOf_slashBracket_eq_nil_iff :
    Scan.matchesOf (Scan.word slashBracket) t = [] ↔ ¬ slashBracket <:+: t := by
  rw [writes_slashBracket.matchesOf_eq_nil_iff]
  constructor
  · rintro silent ⟨before, behind, rfl⟩
    have here := silent (slashBracket ++ behind) ⟨before, by simp⟩ (by simp [slashBracket])
    rw [Scan.word, Text.after?_eq_some_iff.2 rfl] at here
    cases here
  · intro absent after suffix _
    rw [Scan.word, Option.map_eq_none_iff, Option.eq_none_iff_forall_ne_some]
    intro rest found
    obtain rfl := Text.after?_eq_some_iff.1 found
    exact absent ((List.prefix_append slashBracket rest).isInfix.trans suffix.isInfix)

theorem wanes_slash : Text.Wanes Emoji.isActive slashBracket ['['] := .inr (by decide)

theorem wanes_replace_slash (t : Text) :
    Text.Wanes Emoji.isActive t (Scan.replace slashBracket ['['] t) :=
  writes_slashBracket.wanes_substitute fun _ _ => wanes_slash

theorem replace_slash_eq_self_iff : Scan.replace slashBracket ['['] t = t ↔ ¬ slashBracket <:+: t := by
  rw [← matchesOf_slashBracket_eq_nil_iff, Scan.replace,
    writes_slashBracket.substitute_eq_self_iff fun _ _ => wanes_slash, List.eq_nil_iff_forall_not_mem]
  simp [slashBracket]

theorem shownStretch_eq (t : Text) : shownStretch t = shown (Scan.replace slashBracket ['['] t) := rfl

theorem wanes_shownStretch (t : Text) : Text.Wanes Emoji.isActive t (shownStretch t) :=
  (wanes_replace_slash t).trans (wanes_shown _)

theorem shownStretch_eq_self_iff :
    shownStretch t = t ↔ ¬ slashBracket <:+: t ∧ Emoji.IsFree t ∧ ∀ c ∈ t, isDropped c = false := by
  rw [shownStretch_eq, (wanes_replace_slash t).trans_eq_iff (wanes_shown _), replace_slash_eq_self_iff]
  refine and_congr_right fun absent => ?_
  rw [replace_slash_eq_self_iff.2 absent, shown_eq_self_iff]

theorem mem_of_mem_shownStretch {c : Char} (active : Emoji.isActive c) (member : c ∈ shownStretch t) :
    c ∈ t := by
  rcases writes_slashBracket.mem_or_mem_of_mem_substitute (mem_of_mem_shown active member) with
    before | ⟨-, -, bracket⟩
  · exact before
  · obtain rfl := List.mem_singleton.1 bracket
    cases active

/-- A space before a stretch is shown before it. -/
theorem shownStretch_cons_space (t : Text) : shownStretch (' ' :: t) = ' ' :: shownStretch t := by
  have slash : Scan.replace slashBracket ['['] (' ' :: t) = ' ' :: Scan.replace slashBracket ['['] t :=
    Scan.replace_cons_of_none rfl
  have code (u : Text) : Emoji.replace (' ' :: u) = ' ' :: Emoji.replace u := by
    have none : Emoji.readCode (' ' :: u) = none := rfl
    simp [Emoji.replace, Scan.substitute, Scan.tokens_cons_of_none none]
  rw [shownStretch_eq, slash, shown, code, List.filter_cons_of_pos rfl]
  rfl

/-- A backslash behind a stretch is shown behind it. -/
theorem shownStretch_append_slash (t : Text) : shownStretch (t ++ ['\\']) = shownStretch t ++ ['\\'] := by
  have slash : Scan.replace slashBracket ['['] (t ++ ['\\']) = Scan.replace slashBracket ['['] t ++ ['\\'] :=
    writes_slashBracket.substitute_append_singleton (fun _ => by decide) t
  have last (code : Text) : (Emoji.codeText code).getLast? ≠ some '\\' := by
    rw [Emoji.codeText, List.getLast?_concat]
    decide
  have code (u : Text) : Emoji.replace (u ++ ['\\']) = Emoji.replace u ++ ['\\'] :=
    Emoji.writes_codeText.substitute_append_singleton last u
  rw [shownStretch_eq, slash, shown, code, List.filter_append]
  rfl

end Stretches

section Pieces

variable {t : Text}

/-- A piece as it is written. -/
def Piece.text : Piece → Text
  | .stretch t => t
  | .bracket b _ => b.text

/-- What is shown of a piece that has been escaped. -/
def Piece.kept : Piece → Text
  | .stretch t => shownStretch t
  | .bracket b _ => List.replicate b.slashes '\\' ++ shown ('[' :: b.body ++ [']'])

/-- A piece without known codes and, between the brackets, without a backslash before a bracket. -/
def Piece.IsPlain : Piece → Prop
  | .stretch t => ¬ slashBracket <:+: t ∧ Emoji.IsFree t
  | .bracket b _ => Emoji.IsFree ('[' :: b.body ++ [']'])

instance : DecidablePred Piece.IsPlain
  | .stretch t => inferInstanceAs (Decidable (¬ slashBracket <:+: t ∧ Emoji.IsFree t))
  | .bracket b _ => inferInstanceAs (Decidable (Emoji.IsFree ('[' :: b.body ++ [']'])))

theorem Piece.wanes_kept (piece : Piece) : Text.Wanes Emoji.isActive piece.text piece.kept := by
  cases piece with
  | stretch t => exact wanes_shownStretch t
  | bracket b position =>
    have whole := (Text.Wanes.refl Emoji.isActive (List.replicate b.slashes '\\')).append
      (wanes_shown ('[' :: b.body ++ [']']))
    simpa [Piece.text, Piece.kept, Bracket.text] using whole

theorem Piece.kept_eq_text_iff {piece : Piece} (clear : ∀ c ∈ piece.text, isDropped c = false) :
    piece.kept = piece.text ↔ piece.IsPlain := by
  cases piece with
  | stretch t =>
    have same : Piece.kept (.stretch t) = Piece.text (.stretch t) ↔ shownStretch t = t := Iff.rfl
    rw [same, shownStretch_eq_self_iff]
    exact and_congr_right fun _ => and_iff_left clear
  | bracket b position =>
    have same : Piece.kept (.bracket b position) = Piece.text (.bracket b position) ↔
        shown ('[' :: b.body ++ [']']) = '[' :: b.body ++ [']'] := by
      simp [Piece.text, Piece.kept, Bracket.text]
    rw [same, shown_eq_self_iff]
    refine and_iff_left fun c member => clear c ?_
    simpa [Piece.text, Bracket.text] using Or.inr member

theorem Piece.mem_of_mem_kept {piece : Piece} {c : Char} (active : Emoji.isActive c)
    (member : c ∈ piece.kept) : c ∈ piece.text := by
  cases piece with
  | stretch t => exact mem_of_mem_shownStretch active member
  | bracket b position =>
    rcases List.mem_append.1 member with slash | inside
    · exact List.mem_append_left _ (by simpa [Bracket.text] using Or.inl slash)
    · have before := mem_of_mem_shown active inside
      simpa [Piece.text, Bracket.text] using Or.inr before

end Pieces

section Gathering

variable {t : Text}

/-- The pieces, one after the other, are what the tokens stand for. -/
theorem flatMap_text_gather (position : Nat) (tokens : List (Scan.Token Char Bracket)) :
    (gather position tokens).flatMap Piece.text = tokens.flatMap (Scan.Token.text Bracket.text) := by
  induction tokens generalizing position with
  | nil => rfl
  | cons token tokens ih =>
    cases token with
    | found b =>
      rw [gather, List.flatMap_cons, List.flatMap_cons, ih]
      rfl
    | other c =>
      have later := ih (position + 1)
      rw [gather, List.flatMap_cons, ← later]
      split
      · next t pieces gathered =>
        rw [gathered]
        rfl
      · rfl

/-- Plain characters are gathered into one stretch, up to the first bracket. -/
theorem gather_map_other_append (nonempty : t ≠ []) {tokens : List (Scan.Token Char Bracket)}
    (cut : ∀ c more, tokens ≠ .other c :: more) (position : Nat) :
    gather position (t.map .other ++ tokens) = .stretch t :: gather (position + t.length) tokens := by
  have plain (position : Nat) (t : Text) (pieces : List Piece) :
      gather position tokens ≠ .stretch t :: pieces := by
    intro same
    cases tokens with
    | nil => cases same
    | cons token more =>
      cases token with
      | other c => exact cut c more rfl
      | found b => cases (List.cons.inj same).1
  induction t generalizing position with
  | nil => exact absurd rfl nonempty
  | cons c t ih =>
    rw [List.map_cons, List.cons_append, gather]
    by_cases last : t = []
    · subst last
      split
      · next t pieces gathered => exact absurd gathered (plain _ t pieces)
      · rfl
    · rw [ih last, List.length_cons, Nat.add_assoc, Nat.add_comm 1]

end Gathering

/-- What is shown of a text that has been escaped. -/
def keptText (t : Text) : Text :=
  (pieces t).flatMap Piece.kept

/-- What some pieces show behind some open tags. -/
def showPieces (stack : List Opened) (pieces : List Piece) : Except Fault Text :=
  (trace stack pieces).map fun steps => steps.flatMap Step.shown

theorem showPieces_cons {stack : List Opened} {piece : Piece} {step : Step}
    (stepped : piece.step stack = .ok step) (pieces : List Piece) :
    showPieces stack (piece :: pieces) = (showPieces (step.behind stack) pieces).map (step.shown ++ ·) := by
  rw [showPieces, trace, stepped, showPieces]
  dsimp only [bind, Except.bind]
  cases trace (step.behind stack) pieces with
  | error fault => rfl
  | ok steps => rfl

/-- What a text that begins at `position` shows behind some open tags. -/
def showFrom (stack : List Opened) (position : Nat) (t : Text) : Except Fault Text :=
  showPieces stack (gather position (Scan.tokens Bracket.read 0 t))

section Texts

variable {t stretch rest : Text} {b : Bracket} {stack : List Opened}

theorem gather_of_silent (silent : Silent t) (nonempty : t ≠ []) (position : Nat) :
    gather position (Scan.tokens Bracket.read 0 t) = [.stretch t] := by
  rw [tokens_of_silent silent]
  have gathered : gather position (t.map .other ++ []) = _ :=
    gather_map_other_append nonempty (by simp) position
  rwa [List.append_nil] at gathered

theorem gather_append_text (silent : Silent stretch) (clear : stretch.getLast? ≠ some '\\')
    (tag : IsTag b.body) (rest : Text) (position : Nat) :
    gather position (Scan.tokens Bracket.read 0 (stretch ++ (b.text ++ rest))) =
      (if stretch = [] then [] else [.stretch stretch]) ++ .bracket b (position + stretch.length) ::
        gather (position + stretch.length + b.text.length) (Scan.tokens Bracket.read 0 rest) := by
  rw [tokens_append_text clear tag, tokens_of_silent silent]
  split
  · next empty =>
    subst empty
    rfl
  · next nonempty =>
    rw [gather_map_other_append nonempty (by simp)]
    rfl

/-- The place where a text begins does not count for what is kept of it. -/
theorem flatMap_kept_gather (t : Text) (position : Nat) :
    (gather position (Scan.tokens Bracket.read 0 t)).flatMap Piece.kept = keptText t := by
  suffices all : ∀ p q, (gather p (Scan.tokens Bracket.read 0 t)).flatMap Piece.kept =
      (gather q (Scan.tokens Bracket.read 0 t)).flatMap Piece.kept from all position 0
  induction t using text_induction with
  | plain t silent =>
    intro p q
    by_cases empty : t = []
    · subst empty
      rfl
    · rw [gather_of_silent silent empty, gather_of_silent silent empty]
  | first stretch b rest silent clear tag ih =>
    intro p q
    rw [gather_append_text silent clear tag, gather_append_text silent clear tag, List.flatMap_append,
      List.flatMap_append, List.flatMap_cons, List.flatMap_cons, ih _ (q + stretch.length + b.text.length)]
    rfl

theorem keptText_of_silent (silent : Silent t) : keptText t = shownStretch t := by
  by_cases empty : t = []
  · subst empty
    rfl
  · rw [keptText, pieces, gather_of_silent silent empty]
    simp [Piece.kept]

theorem keptText_append_text (silent : Silent stretch) (clear : stretch.getLast? ≠ some '\\')
    (tag : IsTag b.body) (rest : Text) :
    keptText (stretch ++ (b.text ++ rest)) =
      shownStretch stretch ++ (Piece.kept (.bracket b 0) ++ keptText rest) := by
  rw [keptText, pieces, gather_append_text silent clear tag, List.flatMap_append, List.flatMap_cons,
    flatMap_kept_gather]
  split
  · next empty =>
    subst empty
    rfl
  · simp [Piece.kept]

theorem showPieces_stretch (stack : List Opened) (t : Text) (pieces : List Piece) :
    showPieces stack (.stretch t :: pieces) = (showPieces stack pieces).map (shownStretch t ++ ·) := by
  have stepped : (Piece.stretch t).step stack = .ok ⟨shownStretch t, none⟩ := rfl
  rw [showPieces_cons stepped]
  rfl

theorem showFrom_of_silent (silent : Silent t) (stack : List Opened) (position : Nat) :
    showFrom stack position t = .ok (shownStretch t) := by
  by_cases empty : t = []
  · subst empty
    rfl
  · rw [showFrom, gather_of_silent silent empty, showPieces_stretch]
    exact congrArg Except.ok (List.append_nil _)

/-- A bracket is shown behind the stretch before it, and the rest behind the bracket. -/
theorem showFrom_append_text (silent : Silent stretch) (clear : stretch.getLast? ≠ some '\\')
    (tag : IsTag b.body) (rest : Text) {position : Nat} {step : Step}
    (stepped : (Piece.bracket b (position + stretch.length)).step stack = .ok step) :
    showFrom stack position (stretch ++ (b.text ++ rest)) =
      (showFrom (step.behind stack) (position + stretch.length + b.text.length) rest).map
        fun behind => shownStretch stretch ++ (step.shown ++ behind) := by
  rw [showFrom, gather_append_text silent clear tag, showFrom]
  split
  · next empty =>
    subst empty
    rw [List.nil_append, showPieces_cons stepped]
    rfl
  · rw [List.singleton_append, showPieces_stretch, showPieces_cons stepped]
    cases showPieces (step.behind stack) _ <;> rfl

/-- A text with a bracket is read from its beginning, where no tag is open. -/
theorem render_of_mem (bracketed : '[' ∈ t) : render t = showFrom [] 0 t := by
  rw [render, styled, if_pos (List.contains_iff_mem.2 bracketed), showFrom, showPieces, pieces]
  cases trace [] _ <;> rfl

theorem silent_iff : Silent t ↔ brackets t = [] :=
  writes_bracket.matchesOf_eq_nil_iff.symm

theorem silent_cons_space (silent : Silent t) : Silent (' ' :: t) := by
  intro after suffix begun
  rcases List.suffix_cons_iff.1 suffix with rfl | inside
  · rfl
  · exact silent after inside begun

theorem silent_append_slash (silent : Silent t) : Silent (t ++ ['\\']) := by
  rw [silent_iff, brackets_append_of_not_mem (by decide), brackets_of_silent silent]

/-- A space before a text is kept before it. -/
theorem keptText_cons_space (t : Text) : keptText (' ' :: t) = ' ' :: keptText t := by
  cases t using text_induction with
  | plain t silent =>
    rw [keptText_of_silent (silent_cons_space silent), keptText_of_silent silent, shownStretch_cons_space]
  | first stretch b rest silent clear tag ih =>
    have clear' : (' ' :: stretch).getLast? ≠ some '\\' := by
      cases stretch with
      | nil => decide
      | cons c stretch => rwa [List.getLast?_cons_cons]
    have split : ' ' :: (stretch ++ (b.text ++ rest)) = (' ' :: stretch) ++ (b.text ++ rest) := rfl
    rw [split, keptText_append_text (silent_cons_space silent) clear' tag,
      keptText_append_text silent clear tag, shownStretch_cons_space]
    rfl

/-- A backslash behind a text is kept behind it. -/
theorem keptText_append_slash (t : Text) : keptText (t ++ ['\\']) = keptText t ++ ['\\'] := by
  induction t using text_induction with
  | plain t silent =>
    rw [keptText_of_silent (silent_append_slash silent), keptText_of_silent silent, shownStretch_append_slash]
  | first stretch b rest silent clear tag ih =>
    rw [List.append_assoc, List.append_assoc, keptText_append_text silent clear tag,
      keptText_append_text silent clear tag, ih]
    simp

theorem flatMap_text_pieces (t : Text) : (pieces t).flatMap Piece.text = t := by
  rw [pieces, flatMap_text_gather, writes_bracket.flatMap_tokens_zero]

theorem text_infix_of_mem_pieces {piece : Piece} (member : piece ∈ pieces t) : piece.text <:+: t := by
  obtain ⟨before, behind, split⟩ := List.append_of_mem member
  have whole := flatMap_text_pieces t
  rw [split, List.flatMap_append, List.flatMap_cons, ← List.append_assoc] at whole
  exact ⟨_, _, whole⟩

/-- An escaped text without dropped controls is kept exactly if each of its pieces is plain. -/
theorem keptText_eq_self_iff (clear : ∀ c ∈ t, isDropped c = false) :
    keptText t = t ↔ ∀ piece ∈ pieces t, piece.IsPlain := by
  have same := Text.Wanes.flatMap_eq_iff fun piece (_ : piece ∈ pieces t) => piece.wanes_kept
  rw [flatMap_text_pieces] at same
  rw [keptText, same]
  refine forall₂_congr fun piece member => Piece.kept_eq_text_iff fun c inside => ?_
  exact clear c ((text_infix_of_mem_pieces member).mem inside)

theorem mem_of_mem_keptText {c : Char} (active : Emoji.isActive c) (member : c ∈ keptText t) : c ∈ t := by
  obtain ⟨piece, inside, kept⟩ := List.mem_flatMap.1 member
  exact (text_infix_of_mem_pieces inside).mem (Piece.mem_of_mem_kept active kept)

end Texts

end TagOrigin.Display.Markup
