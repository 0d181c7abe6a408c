import TagOrigin.Proofs.Text.Search

/-!
Texts in which the matches of a reader are replaced. Where the reader answers only what is written in
front of it, the text is its tokens one after the other, so a replaced text is compared with it token by
token. A step that leaves a text alone or takes characters of one class from it cannot be made undone by
another such step; a sequence of them gives a text back exactly if each of them leaves it alone.
-/
namespace TagOrigin

namespace Text

/-- A text is left alone, or it loses some of its characters of a class. -/
def Wanes (p : Char → Bool) (before after : Text) : Prop :=
  after = before ∨ after.countP p < before.countP p

namespace Wanes

variable {p : Char → Bool} {t u v w : Text}

theorem refl (p : Char → Bool) (t : Text) : Wanes p t t := .inl rfl

theorem countP_le (wanes : Wanes p t u) : u.countP p ≤ t.countP p := by
  rcases wanes with rfl | fewer
  · exact Nat.le_refl _
  · exact Nat.le_of_lt fewer

/-- Without characters of the class nothing can be lost. -/
theorem eq_of_forall (wanes : Wanes p t u) (none : ∀ c ∈ t, p c = false) : u = t := by
  refine wanes.resolve_right fun fewer => ?_
  have nothing : t.countP p = 0 := List.countP_eq_zero.2 fun c member => by simp [none c member]
  omega

/-- Two steps give a text back exactly if neither of them changes it. -/
theorem trans_eq_iff (first : Wanes p t u) (second : Wanes p u v) : v = t ↔ u = t ∧ v = u := by
  constructor
  · rintro rfl
    rcases first with rfl | fewer
    · exact ⟨rfl, rfl⟩
    · exact absurd second.countP_le (Nat.not_le_of_lt fewer)
  · rintro ⟨rfl, rfl⟩
    rfl

theorem trans (first : Wanes p t u) (second : Wanes p u v) : Wanes p t v := by
  rcases second with rfl | fewer
  · exact first
  · exact .inr (Nat.lt_of_lt_of_le fewer first.countP_le)

theorem append (front : Wanes p t u) (back : Wanes p v w) : Wanes p (t ++ v) (u ++ w) := by
  have countFront := front.countP_le
  have countBack := back.countP_le
  rcases front with rfl | fewer
  · rcases back with rfl | fewer
    · exact refl p _
    · right
      rw [List.countP_append, List.countP_append]
      omega
  · right
    rw [List.countP_append, List.countP_append]
    omega

theorem append_eq_iff (front : Wanes p t u) (back : Wanes p v w) :
    u ++ w = t ++ v ↔ u = t ∧ w = v := by
  constructor
  · intro same
    have count := congrArg (List.countP p) same
    have countFront := front.countP_le
    have countBack := back.countP_le
    rw [List.countP_append, List.countP_append] at count
    constructor
    · exact front.resolve_right (by omega)
    · exact back.resolve_right (by omega)
  · rintro ⟨rfl, rfl⟩
    rfl

/-- A text made of parts that wane. -/
theorem flatMap {γ : Type} {before after : γ → Text} {parts : List γ}
    (each : ∀ part ∈ parts, Wanes p (before part) (after part)) :
    Wanes p (parts.flatMap before) (parts.flatMap after) := by
  induction parts with
  | nil => exact refl p []
  | cons part parts ih =>
    obtain ⟨here, later⟩ := List.forall_mem_cons.1 each
    exact here.append (ih later)

theorem flatMap_eq_iff {γ : Type} {before after : γ → Text} {parts : List γ}
    (each : ∀ part ∈ parts, Wanes p (before part) (after part)) :
    parts.flatMap after = parts.flatMap before ↔ ∀ part ∈ parts, after part = before part := by
  induction parts with
  | nil => simp
  | cons part parts ih =>
    obtain ⟨here, later⟩ := List.forall_mem_cons.1 each
    rw [List.flatMap_cons, List.flatMap_cons, here.append_eq_iff (flatMap later), ih later,
      List.forall_mem_cons]

/-- Characters of the class can be left out. -/
theorem filter {keep : Char → Bool} (only : ∀ c, keep c = false → p c = true) (t : Text) :
    Wanes p t (t.filter keep) := by
  induction t with
  | nil => exact refl p []
  | cons c t ih =>
    cases kept : keep c with
    | true =>
      rw [List.filter_cons_of_pos kept]
      exact (refl p [c]).append ih
    | false =>
      have fewer : Wanes p [c] [] := .inr (by simp [only c kept])
      rw [List.filter_cons_of_neg (by simp [kept])]
      exact fewer.append ih

end Wanes

end Text

namespace Scan

/-- A reader answers what is written in front of it, whatever follows. -/
structure Writes {β : Type} (read : Text → Option (β × Nat)) (write : β → Text) : Prop where
  nonempty : ∀ item, write item ≠ []
  written : ∀ {t item width}, read t = some (item, width) →
    width = (write item).length ∧ ∃ rest, t = write item ++ rest
  settled : ∀ {t item width}, read t = some (item, width) →
    ∀ rest, read (write item ++ rest) = some (item, width)

/-- What a token stands for, if its match is written in some way. -/
def Token.text {β : Type} (write : β → Text) : Token Char β → Text
  | .other c => [c]
  | .found item => write item

section Writing

variable {β : Type} {read : Text → Option (β × Nat)} {write choose : β → Text} {p : Char → Bool}
  {t u v : Text}

theorem substitute_eq_flatMap (read : Text → Option (β × Nat)) (choose : β → Text) (t : Text) :
    substitute read choose t = (tokens read 0 t).flatMap (Token.text choose) := by
  rw [substitute]
  congr 1

theorem found_mem_tokens_iff {item : β} :
    .found item ∈ tokens read 0 t ↔ item ∈ matchesOf read t := by
  rw [matchesOf, List.mem_filterMap]
  constructor
  · intro member
    exact ⟨_, member, rfl⟩
  · rintro ⟨token, member, found⟩
    cases token with
    | other c => cases found
    | found other =>
      obtain rfl := Option.some.inj found
      exact member

/-- A token that is no match, or a match that wanes. -/
theorem Token.wanes (each : ∀ item ∈ matchesOf read t, Text.Wanes p (write item) (choose item)) :
    ∀ token ∈ tokens read 0 t, Text.Wanes p (token.text write) (token.text choose) := by
  intro token member
  cases token with
  | other c => exact .refl p [c]
  | found item => exact each item (found_mem_tokens_iff.1 member)

namespace Writes

variable (writes : Writes read write)
include writes

theorem fits (t : Text) (item : β) (width : Nat) (reads : read t = some (item, width)) :
    width ≤ t.length := by
  obtain ⟨rfl, rest, rfl⟩ := writes.written reads
  simp

/-- What is read is read whatever follows. -/
theorem read_append_of_some {found : β × Nat} (reads : read t = some found) (rest : Text) :
    read (t ++ rest) = some found := by
  obtain ⟨item, width⟩ := found
  obtain ⟨-, more, rfl⟩ := writes.written reads
  rw [List.append_assoc, writes.settled reads]

theorem read_of_append (silent : read (t ++ u) = none) : read t = none := by
  cases alone : read t with
  | none => rfl
  | some found => cases silent.symm.trans (writes.read_append_of_some alone u)

/-- The tokens of a text, one after the other, are the text. -/
theorem flatMap_tokens (skip : Nat) (t : Text) :
    (tokens read skip t).flatMap (Token.text write) = t.drop skip := by
  induction t generalizing skip with
  | nil => cases skip <;> simp [tokens]
  | cons c t ih =>
    cases skip with
    | succ skip => exact ih skip
    | zero =>
      rw [tokens, List.drop_zero]
      cases answer : read (c :: t) with
      | none =>
        rw [List.flatMap_cons, ih 0, List.drop_zero]
        rfl
      | some found =>
        obtain ⟨item, width⟩ := found
        obtain ⟨rfl, rest, whole⟩ := writes.written answer
        obtain ⟨d, more, image⟩ := List.exists_cons_of_ne_nil (writes.nonempty item)
        have behind : t.drop ((write item).length - 1) = rest := by
          rw [image, List.cons_append] at whole
          obtain ⟨-, rfl⟩ := List.cons.inj whole
          simp [image]
        rw [List.flatMap_cons, ih, behind, whole]
        rfl

theorem flatMap_tokens_zero (t : Text) : (tokens read 0 t).flatMap (Token.text write) = t := by
  rw [writes.flatMap_tokens, List.drop_zero]

/-- A text in which each match is left alone or loses something wanes. -/
theorem wanes_substitute (each : ∀ item ∈ matchesOf read t, Text.Wanes p (write item) (choose item)) :
    Text.Wanes p t (substitute read choose t) := by
  have whole := Text.Wanes.flatMap (Token.wanes each)
  rwa [writes.flatMap_tokens_zero, ← substitute_eq_flatMap] at whole

/-- Such a text comes back exactly if each match is left alone. -/
theorem substitute_eq_self_iff (each : ∀ item ∈ matchesOf read t, Text.Wanes p (write item) (choose item)) :
    substitute read choose t = t ↔ ∀ item ∈ matchesOf read t, choose item = write item := by
  have same := Text.Wanes.flatMap_eq_iff (Token.wanes each)
  rw [writes.flatMap_tokens_zero, ← substitute_eq_flatMap] at same
  rw [same]
  constructor
  · intro all item member
    exact all _ (found_mem_tokens_iff.2 member)
  · intro all token member
    cases token with
    | other c => rfl
    | found item => exact all item (found_mem_tokens_iff.1 member)

/-- A match is a stretch of the text. -/
theorem infix_of_mem_matchesOf {item : β} (member : item ∈ matchesOf read t) : write item <:+: t := by
  obtain ⟨before, behind, split⟩ := List.append_of_mem (found_mem_tokens_iff.2 member)
  have whole := writes.flatMap_tokens_zero t
  rw [split, List.flatMap_append, List.flatMap_cons, ← List.append_assoc] at whole
  exact ⟨_, _, whole⟩

/-- Nothing is found exactly if the reader answers nowhere. -/
theorem matchesOf_eq_nil_iff :
    matchesOf read t = [] ↔ ∀ after, after <:+ t → after ≠ [] → read after = none := by
  constructor
  · intro nothing
    rcases silent_or_first read t with silent | ⟨front, rest, ⟨item, width⟩, rfl, reads, silent⟩
    · exact silent
    · obtain ⟨rfl, more, rfl⟩ := writes.written reads
      rw [matchesOf_append_of_silent silent, matchesOf_append_of_some (writes.nonempty item) reads] at nothing
      cases nothing
  · exact matchesOf_of_silent

/-- What holds of texts without matches, and of a text if it holds behind its first match, holds of all. -/
theorem induction {motive : Text → Prop}
    (plain : ∀ t, (∀ after, after <:+ t → after ≠ [] → read after = none) → motive t)
    (first : ∀ (stretch : Text) (item : β) (rest : Text),
      (∀ after, after <:+ stretch → after ≠ [] → read (after ++ (write item ++ rest)) = none) →
        (∀ rest, read (write item ++ rest) = some (item, (write item).length)) → motive rest →
          motive (stretch ++ (write item ++ rest)))
    (t : Text) : motive t := by
  induction size : t.length using Nat.strongRecOn generalizing t with
  | ind n ih =>
    rcases silent_or_first read t with silent | ⟨stretch, behind, ⟨item, width⟩, rfl, reads, silent⟩
    · exact plain t silent
    · obtain ⟨rfl, rest, rfl⟩ := writes.written reads
      refine first stretch item rest silent (writes.settled reads) (ih rest.length ?_ rest rfl)
      have positive := List.length_pos_iff.2 (writes.nonempty item)
      simp only [List.length_append] at size
      omega

/-- A character of a replaced text has been there or comes with a replacement. -/
theorem mem_or_mem_of_mem_substitute {c : Char} (member : c ∈ substitute read choose t) :
    c ∈ t ∨ ∃ item ∈ matchesOf read t, c ∈ choose item := by
  rw [substitute_eq_flatMap, List.mem_flatMap] at member
  obtain ⟨token, inside, image⟩ := member
  cases token with
  | other d =>
    left
    rw [← writes.flatMap_tokens_zero t, List.mem_flatMap]
    exact ⟨_, inside, image⟩
  | found item => exact .inr ⟨item, found_mem_tokens_iff.1 inside, image⟩

/-- Two texts of which no match can take a part of both are searched apart. -/
theorem tokens_append (apart : ∀ item x y rest, write item = x ++ y → x ≠ [] → y ≠ [] → x <:+ u →
    v ≠ y ++ rest) : tokens read 0 (u ++ v) = tokens read 0 u ++ tokens read 0 v := by
  refine Scan.tokens_append (Nat.zero_le _) writes.fits fun after suffix begun => ?_
  cases alone : read after with
  | some found => exact writes.read_append_of_some alone v
  | none =>
    rw [Option.eq_none_iff_forall_ne_some]
    rintro ⟨item, width⟩ reads
    obtain ⟨-, rest, whole⟩ := writes.written reads
    rcases List.append_eq_append_iff.1 whole with ⟨y, split, cut⟩ | ⟨x, split, -⟩
    · by_cases more : y = []
      · subst more
        rw [List.append_nil] at split
        have here := writes.settled reads []
        rw [List.append_nil, split, alone] at here
        cases here
      · exact apart item after y rest split begun more suffix cut
    · have here := writes.settled reads x
      rw [← split, alone] at here
      cases here

/-- A character that ends no match is searched apart. -/
theorem substitute_append_singleton {c : Char} (ends : ∀ item, (write item).getLast? ≠ some c) (u : Text) :
    substitute read choose (u ++ [c]) = substitute read choose u ++ [c] := by
  have single : tokens read 0 [c] = [.other c] := by
    rw [tokens]
    cases alone : read [c] with
    | none => rfl
    | some found =>
      obtain ⟨-, rest, whole⟩ := writes.written alone
      rcases List.singleton_eq_append_iff.1 whole with ⟨image, -⟩ | ⟨image, -⟩
      · exact absurd image (writes.nonempty _)
      · exact absurd (by rw [image]; rfl) (ends found.1)
  rw [substitute_eq_flatMap, writes.tokens_append, List.flatMap_append, single, ← substitute_eq_flatMap]
  · rfl
  · intro item x y rest split _ more _ cut
    rcases List.singleton_eq_append_iff.1 cut with ⟨rfl, -⟩ | ⟨rfl, -⟩
    · exact more rfl
    · exact ends item (by rw [split]; simp)

end Writes

end Writing

end Scan

end TagOrigin
