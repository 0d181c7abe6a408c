import TagOrigin.Text.Scan

/-!
Laws of the left-to-right search. One step is described once, for a position that reads nothing and
for one that reads a match; what is said of all matches or of a replaced text follows from these.
`spans` gives the matches with their places. They are disjoint and increasing, each is what the
reader answers at its offset, and every position that reads lies inside one of them.
-/
namespace TagOrigin.Scan

variable {α β : Type}

section Steps

variable {read : List α → Option (β × Nat)}

theorem tokens_cons_of_none {a : α} {rest : List α} (silent : read (a :: rest) = none) :
    tokens read 0 (a :: rest) = .other a :: tokens read 0 rest := by
  rw [tokens, silent]

/-- A match takes exactly the characters in front of the rest. -/
theorem tokens_append_of_some {front rest : List α} {item : β} (nonempty : front ≠ [])
    (found : read (front ++ rest) = some (item, front.length)) :
    tokens read 0 (front ++ rest) = .found item :: tokens read 0 rest := by
  obtain ⟨a, more, rfl⟩ := List.exists_cons_of_ne_nil nonempty
  rw [List.cons_append] at found ⊢
  rw [tokens, found]
  simp only [List.length_cons, Nat.add_sub_cancel]
  rw [tokens_eq_drop read more.length, List.drop_left]

theorem matchesOf_append_of_some {front rest : List α} {item : β} (nonempty : front ≠ [])
    (found : read (front ++ rest) = some (item, front.length)) :
    matchesOf read (front ++ rest) = item :: matchesOf read rest := by
  simp [matchesOf, tokens_append_of_some nonempty found, Token.found?]

/-- What is written item by item, each so that it is read whatever follows, is read item by item. -/
theorem matchesOf_flatMap {γ : Type} {write : γ → List α} {item : γ → β}
    (nonempty : ∀ c, write c ≠ [])
    (reads : ∀ c rest, read (write c ++ rest) = some (item c, (write c).length)) (t : List γ) :
    matchesOf read (t.flatMap write) = t.map item := by
  induction t with
  | nil => rfl
  | cons c t ih =>
    rw [List.flatMap_cons, matchesOf_append_of_some (nonempty c) (reads c _), ih, List.map_cons]

/-- A stretch in which no match begins is passed over, element by element. -/
theorem tokens_append_of_silent {front rest : List α}
    (silent : ∀ after, after <:+ front → after ≠ [] → read (after ++ rest) = none) :
    tokens read 0 (front ++ rest) = front.map .other ++ tokens read 0 rest := by
  induction front with
  | nil => rfl
  | cons a front ih =>
    have here : read (a :: (front ++ rest)) = none :=
      silent (a :: front) List.suffix_rfl (List.cons_ne_nil a front)
    rw [List.cons_append, tokens_cons_of_none here, List.map_cons, List.cons_append]
    rw [ih]
    intro after suffix nonempty
    exact silent after (suffix.trans (List.suffix_cons a front)) nonempty

theorem matchesOf_append_of_silent {front rest : List α}
    (silent : ∀ after, after <:+ front → after ≠ [] → read (after ++ rest) = none) :
    matchesOf read (front ++ rest) = matchesOf read rest := by
  have passed : (front.map fun a => (Token.other a : Token α β)).filterMap Token.found? = [] := by
    simp [List.filterMap_map, Token.found?]
  rw [matchesOf, tokens_append_of_silent silent, List.filterMap_append, passed, List.nil_append,
    matchesOf]

/-- Where no match begins, all elements are passed over. -/
theorem tokens_of_silent {s : List α}
    (silent : ∀ after, after <:+ s → after ≠ [] → read after = none) :
    tokens read 0 s = s.map .other := by
  have alone : ∀ after, after <:+ s → after ≠ [] → read (after ++ []) = none := by
    intro after suffix begun
    rw [List.append_nil]
    exact silent after suffix begun
  have passed := tokens_append_of_silent alone
  rwa [List.append_nil, tokens, List.append_nil] at passed

theorem matchesOf_of_silent {s : List α}
    (silent : ∀ after, after <:+ s → after ≠ [] → read after = none) :
    matchesOf read s = [] := by
  rw [matchesOf, tokens_of_silent silent, List.filterMap_map]
  exact List.filterMap_eq_nil_iff.2 fun _ _ => rfl

theorem substitute_of_silent {β : Type} {read : Text → Option (β × Nat)} {t : Text}
    (silent : ∀ after, after <:+ t → after ≠ [] → read after = none) (choose : β → Text) :
    substitute read choose t = t := by
  rw [substitute, tokens_of_silent silent, List.flatMap_map]
  simp

/-- A stretch in which no match begins stays as it is. -/
theorem substitute_append_of_silent {β : Type} {read : Text → Option (β × Nat)} {front rest : Text}
    (silent : ∀ after, after <:+ front → after ≠ [] → read (after ++ rest) = none) (choose : β → Text) :
    substitute read choose (front ++ rest) = front ++ substitute read choose rest := by
  rw [substitute, tokens_append_of_silent silent, List.flatMap_append, List.flatMap_map, substitute]
  simp

/-- Where no reading of the front depends on what follows, front and rest are searched apart. -/
theorem tokens_append {front rest : List α} {skip : Nat} (short : skip ≤ front.length)
    (fits : ∀ s item width, read s = some (item, width) → width ≤ s.length)
    (settled : ∀ after, after <:+ front → after ≠ [] → read (after ++ rest) = read after) :
    tokens read skip (front ++ rest) = tokens read skip front ++ tokens read 0 rest := by
  induction front generalizing skip with
  | nil =>
    obtain rfl : skip = 0 := Nat.le_zero.1 short
    rfl
  | cons a front ih =>
    have later (skip : Nat) (short : skip ≤ front.length) :
        tokens read skip (front ++ rest) = tokens read skip front ++ tokens read 0 rest := by
      apply ih short
      intro after suffix
      exact settled after (suffix.trans (List.suffix_cons a front))
    cases skip with
    | succ skip => exact later skip (Nat.le_of_succ_le_succ short)
    | zero =>
      have here := settled (a :: front) List.suffix_rfl (List.cons_ne_nil a front)
      rw [List.cons_append] at here ⊢
      rw [tokens, tokens, here]
      cases answer : read (a :: front) with
      | none => exact congrArg (Token.other a :: ·) (later 0 (Nat.zero_le _))
      | some found =>
        have bound := fits (a :: front) found.1 found.2 answer
        rw [List.length_cons] at bound
        exact congrArg (Token.found found.1 :: ·) (later (found.2 - 1) (by omega))

/-- Either nothing is found in a sequence, or there is a first match. -/
theorem silent_or_first (read : List α → Option (β × Nat)) (s : List α) :
    (∀ after, after <:+ s → after ≠ [] → read after = none) ∨
      ∃ front rest found, s = front ++ rest ∧ read rest = some found ∧
        ∀ after, after <:+ front → after ≠ [] → read (after ++ rest) = none := by
  induction s with
  | nil => simp
  | cons a s ih =>
    cases here : read (a :: s) with
    | some found => exact .inr ⟨[], a :: s, found, rfl, here, by simp⟩
    | none =>
      rcases ih with silent | ⟨front, rest, found, rfl, first, silent⟩
      · left
        intro after suffix nonempty
        rcases List.suffix_cons_iff.1 suffix with rfl | inside
        · exact here
        · exact silent after inside nonempty
      · right
        refine ⟨a :: front, rest, found, rfl, first, ?_⟩
        intro after suffix nonempty
        rcases List.suffix_cons_iff.1 suffix with rfl | inside
        · exact here
        · exact silent after inside nonempty

end Steps

section Replacing

variable {old new : Text}

theorem replace_cons_of_none {c : Char} {t : Text} (absent : Text.after? old (c :: t) = none) :
    replace old new (c :: t) = c :: replace old new t := by
  have silent : word old (c :: t) = none := by rw [word, absent, Option.map_none]
  simp [replace, substitute, tokens_cons_of_none silent]

/-- An occurrence of the old word at the front is replaced by the new one. -/
theorem replace_append (nonempty : old ≠ []) (t : Text) :
    replace old new (old ++ t) = new ++ replace old new t := by
  have found : word old (old ++ t) = some ((), old.length) := by
    rw [word, Text.after?_eq_some_iff.2 rfl, Option.map_some]
  simp [replace, substitute, tokens_append_of_some nonempty found]

/-- Replacing a single character works character by character. -/
theorem replace_singleton (a : Char) (t : Text) :
    replace [a] new t = t.flatMap fun c => if c = a then new else [c] := by
  induction t with
  | nil => rfl
  | cons c t ih =>
    rw [List.flatMap_cons]
    by_cases same : c = a
    · subst same
      rw [if_pos rfl, ← ih]
      exact replace_append (List.cons_ne_nil c []) t
    · have absent : Text.after? [a] (c :: t) = none := by simp [Text.after?, Ne.symm same]
      rw [if_neg same, replace_cons_of_none absent, ih]
      rfl

end Replacing

/-- A match with its place. -/
structure Span (β : Type) where
  offset : Nat
  width : Nat
  item : β
  deriving DecidableEq, Repr

/-- The matches of a scan with their places. The sequence begins at `offset`, and its first `skip`
elements belong to an earlier match. -/
def spans (read : List α → Option (β × Nat)) : Nat → Nat → List α → List (Span β)
  | _, _, [] => []
  | offset, skip + 1, _ :: rest => spans read (offset + 1) skip rest
  | offset, 0, a :: rest =>
    match read (a :: rest) with
    | none => spans read (offset + 1) 0 rest
    | some (item, width) => ⟨offset, width, item⟩ :: spans read (offset + 1) (width - 1) rest

/-- The spans hold the matches of the scan, in order. -/
theorem map_item_spans (read : List α → Option (β × Nat)) (offset skip : Nat) (s : List α) :
    (spans read offset skip s).map Span.item = (tokens read skip s).filterMap Token.found? := by
  induction s generalizing offset skip with
  | nil => cases skip <;> rfl
  | cons a rest ih =>
    cases skip with
    | succ skip => exact ih (offset + 1) skip
    | zero =>
      rw [spans, tokens]
      cases read (a :: rest) with
      | none => exact ih (offset + 1) 0
      | some found => exact congrArg (found.1 :: ·) (ih (offset + 1) (found.2 - 1))

/-- A span is what the reader answers at its offset, behind everything that was skipped. -/
theorem read_of_mem_spans {read : List α → Option (β × Nat)} {offset skip : Nat} {s : List α}
    {span : Span β} (member : span ∈ spans read offset skip s) :
    ∃ n, span.offset = offset + n ∧ skip ≤ n ∧ n < s.length ∧
      read (s.drop n) = some (span.item, span.width) := by
  induction s generalizing offset skip with
  | nil => cases skip <;> cases member
  | cons a rest ih =>
    -- a span of the rest lies one further from the front
    have later {skip' : Nat} (bound : skip ≤ skip' + 1)
        (inside : span ∈ spans read (offset + 1) skip' rest) :
        ∃ n, span.offset = offset + n ∧ skip ≤ n ∧ n < (a :: rest).length ∧
          read ((a :: rest).drop n) = some (span.item, span.width) := by
      obtain ⟨n, place, behind, short, reads⟩ := ih inside
      refine ⟨n + 1, by omega, by omega, ?_, by simpa using reads⟩
      rw [List.length_cons]
      omega
    cases skip with
    | succ skip => exact later (Nat.le_refl _) member
    | zero =>
      rw [spans] at member
      cases answer : read (a :: rest) with
      | none =>
        rw [answer] at member
        exact later (Nat.zero_le _) member
      | some found =>
        rw [answer] at member
        rcases List.mem_cons.1 member with rfl | inside
        · exact ⟨0, rfl, Nat.le_refl 0, Nat.succ_pos _, answer⟩
        · exact later (Nat.zero_le _) inside

/-- Spans are disjoint and increasing. -/
theorem pairwise_spans (read : List α → Option (β × Nat)) (offset skip : Nat) (s : List α) :
    (spans read offset skip s).Pairwise fun a b => a.offset + a.width ≤ b.offset := by
  induction s generalizing offset skip with
  | nil => cases skip <;> exact List.Pairwise.nil
  | cons a rest ih =>
    cases skip with
    | succ skip => exact ih (offset + 1) skip
    | zero =>
      rw [spans]
      cases read (a :: rest) with
      | none => exact ih (offset + 1) 0
      | some found =>
        refine List.pairwise_cons.2 ⟨?_, ih (offset + 1) (found.2 - 1)⟩
        intro span member
        obtain ⟨n, place, behind, _, _⟩ := read_of_mem_spans member
        simp only
        omega

/-- Every position that reads, behind what was skipped, lies inside a span. -/
theorem exists_span_of_read {read : List α → Option (β × Nat)}
    (positive : ∀ t item width, read t = some (item, width) → 0 < width)
    (offset : Nat) {skip n : Nat} {s : List α} (behind : skip ≤ n) (inside : n < s.length)
    (reads : (read (s.drop n)).isSome) :
    ∃ span ∈ spans read offset skip s,
      span.offset ≤ offset + n ∧ offset + n < span.offset + span.width := by
  induction s generalizing offset skip n with
  | nil => cases inside
  | cons a rest ih =>
    cases n with
    | zero =>
      obtain rfl : skip = 0 := Nat.le_zero.1 behind
      obtain ⟨⟨item, width⟩, answer⟩ := Option.isSome_iff_exists.1 reads
      rw [List.drop_zero] at answer
      have wide := positive _ _ _ answer
      refine ⟨⟨offset, width, item⟩, ?_, Nat.le_refl _, ?_⟩
      · rw [spans, answer]
        exact List.mem_cons_self
      · simp only
        omega
    | succ n =>
      rw [List.drop_succ_cons] at reads
      rw [List.length_cons] at inside
      have later (skip' : Nat) (behind' : skip' ≤ n) :
          ∃ span ∈ spans read (offset + 1) skip' rest,
            span.offset ≤ offset + (n + 1) ∧ offset + (n + 1) < span.offset + span.width := by
        obtain ⟨span, member, low, high⟩ := ih (offset + 1) behind' (by omega) reads
        exact ⟨span, member, by omega, by omega⟩
      cases skip with
      | succ skip => exact later skip (by omega)
      | zero =>
        rw [spans]
        cases answer : read (a :: rest) with
        | none => exact later 0 (Nat.zero_le n)
        | some found =>
          -- either the match at the front reaches this far or the rest is searched behind it
          by_cases covered : n + 1 < found.2
          · exact ⟨_, List.mem_cons_self, by simp, by simp only; omega⟩
          · obtain ⟨span, member, low, high⟩ := later (found.2 - 1) (by omega)
            exact ⟨span, List.mem_cons_of_mem _ member, low, high⟩

end TagOrigin.Scan
