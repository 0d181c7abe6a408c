import TagOrigin.Proofs.Text.Lines
import TagOrigin.Usage

/-!
Usages by offset. A tag opens at an offset of the whole text, and everything a usage says can be
read off the text around that offset. The usages of a text, found line by line, are those of its
offsets in increasing order: a word always ends behind the longest run of name characters, no tag opens
inside one that has been read, cutting the text into lines loses none, and the run never reaches over a
line feed.
-/
namespace TagOrigin.Usage

/-- Whether a tag opens at an offset: a `<` there, and an ASCII capital behind it. -/
def opensAt (t : Text) (i : Nat) : Bool :=
  t[i]? == some '<' && t[i + 1]?.any fun c => 'A' ≤ c && c ≤ 'Z'

/-- The offsets at which tags open, in increasing order. -/
def offsets (t : Text) : List Nat :=
  (List.range t.length).filter (opensAt t)

/-- The longest run of name characters behind the `<` at an offset. -/
def nameAt (t : Text) (i : Nat) : Text :=
  (t.drop (i + 1)).takeWhile isTagChar

/-- The usage at an offset of a text whose first line has the number `first`. -/
def atOffset (origin : Text → Option Text) (first : Nat) (t : Text) (i : Nat) : Usage where
  name := nameAt t i
  line := first + (t.take i).count '\n'
  text := Text.strip (Text.lineAt t i)
  origin := origin (nameAt t i)

section Search

theorem pairwise_offsets (t : Text) : (offsets t).Pairwise (· < ·) :=
  List.pairwise_lt_range.filter _

theorem opensAt_cons_succ (c : Char) (t : Text) (i : Nat) :
    opensAt (c :: t) (i + 1) = opensAt t i := by
  simp [opensAt]

/-- The front decides about itself, and what is behind it moves by one. -/
theorem offsets_cons (c : Char) (t : Text) :
    offsets (c :: t) = (if opensAt (c :: t) 0 then [0] else []) ++ (offsets t).map (· + 1) := by
  have behind : opensAt (c :: t) ∘ Nat.succ = opensAt t := funext (opensAt_cons_succ c t)
  rw [offsets, List.length_cons, List.range_succ_eq_map, List.filter_cons, List.filter_map, behind]
  split <;> rfl

/-- The name of the tag opened at the front of a text. -/
def opened? : Text → Option Text
  | '<' :: c :: rest => if c.isUpper then some ((c :: rest).takeWhile isTagChar) else none
  | _ => none

theorem opened?_of_ne {c : Char} (other : c ≠ '<') (t : Text) : opened? (c :: t) = none := by
  unfold opened?
  split
  · next same => exact absurd (List.cons.inj same).1 other
  · rfl

theorem isTagChar_of_isUpper {c : Char} (capital : c.isUpper = true) : isTagChar c = true := by
  delta isTagChar Char.isAlphanum Char.isAlpha
  simp [capital]

/-- Behind the longest run of name characters a word ends. -/
theorem isWordBoundary_takeWhile {c : Char} (inside : isTagChar c = true) (rest : Text) :
    isWordBoundary (c :: rest)[(rest.takeWhile isTagChar).length]?
      rest[(rest.takeWhile isTagChar).length]? = true := by
  induction rest generalizing c with
  | nil => simp [isWordBoundary, inside]
  | cons d rest ih =>
    by_cases further : isTagChar d = true
    · simpa [List.takeWhile_cons, further] using ih further
    · simp [isWordBoundary, inside, further]

/-- So nothing is given back, and an opening is read as far as its name goes. -/
theorem readOpening_eq (t : Text) :
    readOpening t = (opened? t).map fun name => (name, name.length + 1) := by
  fun_cases opened? t
  case case1 c rest capital =>
    have inside := isTagChar_of_isUpper capital
    have ends := isWordBoundary_takeWhile inside rest
    have run : rest.take (rest.takeWhile isTagChar).length = rest.takeWhile isTagChar :=
      (List.prefix_iff_eq_take.1 (List.takeWhile_prefix isTagChar)).symm
    simp [readOpening, capital, inside, List.range_succ, ends, run]
  case case2 c rest small => simp [readOpening, small]
  case case3 other =>
    unfold readOpening
    split
    · next c rest => exact (other c rest rfl).elim
    · rfl

/-- The names of all tags that open in a text, inside others as well. -/
def openedIn : Text → List Text
  | [] => []
  | c :: rest => (opened? (c :: rest)).toList ++ openedIn rest

theorem lessThan_not_mem_of_opened? {t name : Text} (opens : opened? t = some name) : '<' ∉ name := by
  unfold opened? at opens
  split at opens
  · split at opens
    · obtain rfl := Option.some.inj opens
      intro member
      have inside := List.all_eq_true.1 List.all_takeWhile _ member
      exact absurd inside (by decide)
    · cases opens
  · cases opens

theorem eq_append_of_opened? {t name : Text} (opens : opened? t = some name) :
    ∃ rest, t = '<' :: (name ++ rest) := by
  unfold opened? at opens
  split at opens
  · next c rest =>
    split at opens
    · obtain rfl := Option.some.inj opens
      exact ⟨(c :: rest).dropWhile isTagChar, by rw [List.takeWhile_append_dropWhile]⟩
    · cases opens
  · cases opens

/-- Skipping what has been read loses no tag, since none opens in a name. The induction is along the text,
with the characters that are still to be skipped. -/
theorem matches_tokens_readOpening (skip : Nat) {t : Text} (named : '<' ∉ t.take skip) :
    (Scan.tokens readOpening skip t).filterMap Scan.Token.found? = openedIn t := by
  induction t generalizing skip with
  | nil => cases skip <;> rfl
  | cons c t ih =>
    cases skip with
    | succ skip =>
      rw [List.take_succ_cons, List.mem_cons, not_or] at named
      rw [Scan.tokens, openedIn, opened?_of_ne (Ne.symm named.1), ih skip named.2]
      rfl
    | zero =>
      rw [Scan.tokens, readOpening_eq, openedIn]
      cases opens : opened? (c :: t) with
      | none => exact ih 0 (by simp)
      | some name =>
        obtain ⟨rest, whole⟩ := eq_append_of_opened? opens
        obtain ⟨-, rfl⟩ := List.cons.inj whole
        have skipped : '<' ∉ (name ++ rest).take (name.length + 1 - 1) := by
          simpa using lessThan_not_mem_of_opened? opens
        exact congrArg (name :: ·) (ih _ skipped)

theorem tagNames_eq_openedIn (t : Text) : tagNames t = openedIn t :=
  matches_tokens_readOpening 0 (by simp)

theorem opened?_eq (t : Text) :
    opened? t = if opensAt t 0 then some (nameAt t 0) else none := by
  unfold opened?
  split
  · next c rest =>
    have capital : opensAt ('<' :: c :: rest) 0 = c.isUpper := by
      delta Char.isUpper
      simp [opensAt, Char.le_def]
    rw [capital]
    rfl
  · next other =>
    have closed : opensAt t 0 = false := by
      cases t with
      | nil => rfl
      | cons c t =>
        cases t with
        | nil => simp [opensAt]
        | cons d t =>
          have different : c ≠ '<' := by
            rintro rfl
            exact other d t rfl
          simp [opensAt, different]
    simp [closed]

/-- The names found by searching on behind each tag are those behind the offsets. -/
theorem tagNames_eq (t : Text) : tagNames t = (offsets t).map (nameAt t) := by
  rw [tagNames_eq_openedIn]
  induction t with
  | nil => rfl
  | cons c t ih =>
    have later : ((offsets t).map (· + 1)).map (nameAt (c :: t)) = (offsets t).map (nameAt t) := by
      rw [List.map_map]
      rfl
    rw [openedIn, offsets_cons, List.map_append, later, ih, opened?_eq]
    split <;> rfl

end Search

section Lines

variable {line : Text} (rest : Text)

theorem opensAt_append_lineFeed {i : Nat} (inside : i < line.length) :
    opensAt (line ++ '\n' :: rest) i = opensAt line i := by
  unfold opensAt
  rw [List.getElem?_append_left inside]
  by_cases short : i + 1 < line.length
  · rw [List.getElem?_append_left short]
  · have stop : i + 1 = line.length := by omega
    rw [stop, List.getElem?_append_right (Nat.le_refl _), List.getElem?_eq_none (Nat.le_refl _)]
    simp

/-- The offsets before a line feed and those behind it. -/
theorem offsets_append_lineFeed (line rest : Text) :
    offsets (line ++ '\n' :: rest) =
      offsets line ++ (offsets rest).map (line.length + 1 + ·) := by
  induction line with
  | nil =>
    have closed : opensAt ('\n' :: rest) 0 = false := by simp [opensAt]
    rw [List.nil_append, offsets_cons, closed]
    simp [offsets, Nat.add_comm]
  | cons c line ih =>
    have front : opensAt (c :: line ++ '\n' :: rest) 0 = opensAt (c :: line) 0 :=
      opensAt_append_lineFeed rest (Nat.succ_pos line.length)
    rw [List.cons_append] at front
    rw [List.cons_append, offsets_cons, front, ih, offsets_cons, List.map_append, List.map_map,
      List.append_assoc]
    congr 3
    funext i
    simp only [Function.comp_apply, List.length_cons]
    omega

theorem nameAt_append_lineFeed {i : Nat} (inside : i < line.length) :
    nameAt (line ++ '\n' :: rest) i = nameAt line i := by
  rw [nameAt, nameAt, List.drop_append_of_le_length inside,
    Text.takeWhile_append_stop (by decide)]

variable (origin : Text → Option Text) (first : Nat)

theorem atOffset_of_not_mem (clean : '\n' ∉ line) (i : Nat) :
    atOffset origin first line i =
      { name := nameAt line i, line := first, text := Text.strip line,
        origin := origin (nameAt line i) } := by
  have none : (line.take i).count '\n' = 0 :=
    List.count_eq_zero.2 fun member => clean (List.mem_of_mem_take member)
  rw [atOffset, none, Text.lineAt_of_not_mem clean, Nat.add_zero]

theorem atOffset_append_lineFeed {i : Nat} (inside : i < line.length) :
    atOffset origin first (line ++ '\n' :: rest) i = atOffset origin first line i := by
  rw [atOffset, atOffset, nameAt_append_lineFeed rest inside,
    Text.lineAt_append_of_le (Nat.le_of_lt inside),
    List.take_append_of_le_length (Nat.le_of_lt inside)]

/-- Behind a line the line numbers go on by one and nothing else changes. -/
theorem atOffset_append_add (clean : '\n' ∉ line) (i : Nat) :
    atOffset origin first (line ++ '\n' :: rest) (line.length + 1 + i) =
      atOffset origin (first + 1) rest i := by
  have shape : line ++ '\n' :: rest = (line ++ ['\n']) ++ rest := by simp
  have size : line.length + 1 = (line ++ ['\n']).length := by simp
  have name : nameAt (line ++ '\n' :: rest) (line.length + 1 + i) = nameAt rest i := by
    rw [nameAt, nameAt, shape, size, Nat.add_assoc, List.drop_length_add_append]
  have number : ((line ++ '\n' :: rest).take (line.length + 1 + i)).count '\n' =
      1 + (rest.take i).count '\n' := by
    rw [shape, size, List.take_length_add_append, List.count_append, List.count_append,
      List.count_eq_zero.2 clean]
    simp
  rw [atOffset, atOffset, name, number, Text.lineAt_append_add, Nat.add_assoc]

end Lines

theorem ofLine_eq (bindings : Import.Bindings) (first : Nat) {line : Text} (clean : '\n' ∉ line) :
    ofLine bindings first line =
      (offsets line).map (atOffset (Register.get? · bindings) first line) := by
  rw [ofLine, tagNames_eq, List.map_map]
  apply List.map_congr_left
  intro i _
  exact (atOffset_of_not_mem (Register.get? · bindings) first clean i).symm

/-- The usages found line by line are those at the offsets of the whole text. The induction is along
the lines, so the number of the first line is arbitrary. -/
theorem flatMap_ofLine_eq (bindings : Import.Bindings) (first : Nat) (t : Text) :
    ((Text.lines t).zipIdx first).flatMap (fun (content, line) => ofLine bindings line content) =
      (offsets t).map (atOffset (Register.get? · bindings) first t) := by
  induction t using Text.lines_induction generalizing first with
  | last line clean =>
    rw [Text.lines_of_not_mem clean]
    simp [ofLine_eq bindings first clean]
  | more line rest clean ih =>
    rw [Text.lines_append_cons clean, List.zipIdx_cons, List.flatMap_cons, ih (first + 1),
      offsets_append_lineFeed, List.map_append, List.map_map]
    refine congrArg₂ (· ++ ·) ((ofLine_eq bindings first clean).trans ?_) ?_
    · apply List.map_congr_left
      intro i member
      have inside : i < line.length := List.mem_range.1 (List.mem_filter.1 member).1
      exact (atOffset_append_lineFeed rest _ first inside).symm
    · apply List.map_congr_left
      intro i _
      exact (atOffset_append_add rest _ first clean i).symm

theorem ofText_eq (bindings : Import.Bindings) (t : Text) :
    ofText bindings t = (offsets t).map (atOffset (Register.get? · bindings) 1 t) :=
  flatMap_ofLine_eq bindings 1 t

end TagOrigin.Usage
