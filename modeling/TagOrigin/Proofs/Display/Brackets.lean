import Mathlib.Data.List.Induction
import TagOrigin.Display.Markup
import TagOrigin.Proofs.Text.Runs
import TagOrigin.Proofs.Text.Substitution

/-!
The brackets of a text that have the shape of tags. A tag is read wherever it is written, together with
all backslashes before it. In two texts written one after the other the brackets are those of the first
and those of the second, and between them at most one that begins in the first and ends in the second.
-/
namespace TagOrigin.Display.Markup

/-- What may stand between the brackets of a tag. -/
structure IsTag (body : Text) : Prop where
  begins : ∃ c, body.head? = some c ∧ startsTag c = true
  unopened : '[' ∉ body
  unclosed : ']' ∉ body

/-- Neither part of what stands between the brackets of a tag holds a bracket. -/
theorem IsTag.parts {body opening closing : Text} (tag : IsTag body)
    (parts : body = opening ++ closing) :
    ('[' ∉ opening ∧ ']' ∉ opening) ∧ '[' ∉ closing ∧ ']' ∉ closing := by
  obtain ⟨-, unopened, unclosed⟩ := tag
  rw [parts, List.mem_append, not_or] at unopened unclosed
  exact ⟨⟨unopened.1, unclosed.1⟩, unopened.2, unclosed.2⟩

section Reading

variable {t rest body : Text} {b : Bracket}

theorem readBody_append (tag : IsTag body) (rest : Text) :
    readBody ('[' :: (body ++ ']' :: rest)) = some body := by
  obtain ⟨⟨c, first, starts⟩, unopened, unclosed⟩ := tag
  obtain ⟨more, rfl⟩ := List.head?_eq_some_iff.1 first
  have inside : ∀ d ∈ more, (decide (d ≠ '[') && decide (d ≠ ']')) = true := by
    intro d member
    have neither : d ≠ '[' ∧ d ≠ ']' :=
      ⟨fun same => unopened (same ▸ List.mem_cons_of_mem c member),
        fun same => unclosed (same ▸ List.mem_cons_of_mem c member)⟩
    simpa using neither
  have stops : Text.Stops (fun d => decide (d ≠ '[') && decide (d ≠ ']')) (']' :: rest) :=
    Text.stops_cons_iff.2 rfl
  simp only [List.cons_append, readBody, starts, if_true]
  rw [Text.dropWhile_append_of_stops inside stops, Text.takeWhile_append_of_stops inside stops]
  rfl

theorem exists_of_readBody (reads : readBody t = some body) :
    IsTag body ∧ ∃ rest, t = '[' :: (body ++ ']' :: rest) := by
  unfold readBody at reads
  split at reads
  · next c rest =>
    obtain ⟨inner, isInner⟩ : ∃ p : Char → Bool, p = fun d => decide (d ≠ '[') && decide (d ≠ ']') :=
      ⟨_, rfl⟩
    simp only [← isInner] at reads
    split at reads
    · next starts =>
      split at reads
      · next behind dropped =>
        obtain rfl := Option.some.inj reads
        have foreign (d : Char) (plain : startsTag d = false) (outside : inner d = false) :
            d ∉ c :: rest.takeWhile inner := by
          intro member
          rcases List.mem_cons.1 member with rfl | inside
          · rw [plain] at starts
            cases starts
          · have holds := List.all_eq_true.1 List.all_takeWhile d inside
            rw [outside] at holds
            cases holds
        refine ⟨⟨⟨c, rfl, starts⟩, foreign '[' rfl ?_, foreign ']' rfl ?_⟩, behind, ?_⟩
        · rw [isInner]
          rfl
        · rw [isInner]
          rfl
        · rw [← dropped, List.cons_append, List.takeWhile_append_dropWhile]
      · cases reads
    · cases reads
  · cases reads

theorem takeWhile_slashes (n : Nat) (t : Text) :
    (List.replicate n '\\' ++ '[' :: t).takeWhile (· = '\\') = List.replicate n '\\' :=
  Text.takeWhile_append_of_stops (by simp) (Text.stops_cons_iff.2 rfl)

theorem dropWhile_slashes (n : Nat) (t : Text) :
    (List.replicate n '\\' ++ '[' :: t).dropWhile (· = '\\') = '[' :: t :=
  Text.dropWhile_append_of_stops (by simp) (Text.stops_cons_iff.2 rfl)

theorem Bracket.text_append (b : Bracket) (rest : Text) :
    b.text ++ rest = List.replicate b.slashes '\\' ++ '[' :: (b.body ++ ']' :: rest) := by
  simp [Bracket.text]

theorem Bracket.text_ne_nil (b : Bracket) : b.text ≠ [] := by
  simp [Bracket.text]

/-- A bracket that has been written is read. -/
theorem Bracket.read_text_append (tag : IsTag b.body) (rest : Text) :
    Bracket.read (b.text ++ rest) = some (b, b.text.length) := by
  rw [text_append, read, dropWhile_slashes, takeWhile_slashes, readBody_append tag]
  simp

theorem Bracket.read_slash_append (tag : IsTag b.body) (rest : Text) :
    Bracket.read ('\\' :: (b.text ++ rest)) =
      some (⟨b.slashes + 1, b.body⟩, b.text.length + 1) := by
  have found := Bracket.read_text_append (b := ⟨b.slashes + 1, b.body⟩) tag rest
  simpa [text, List.replicate_succ] using found

/-- What is read has been written. -/
theorem Bracket.exists_of_read {width : Nat} (reads : Bracket.read t = some (b, width)) :
    IsTag b.body ∧ width = b.text.length ∧ ∃ rest, t = b.text ++ rest := by
  rw [read] at reads
  obtain ⟨body, found, whole⟩ := Option.map_eq_some_iff.1 reads
  obtain ⟨rfl, rfl⟩ := Prod.mk.inj whole
  obtain ⟨tag, rest, written⟩ := exists_of_readBody found
  refine ⟨tag, rfl, rest, ?_⟩
  have slashes : t.takeWhile (· = '\\') =
      List.replicate (t.takeWhile (· = '\\')).length '\\' := by
    refine List.eq_replicate_iff.2 ⟨rfl, ?_⟩
    intro c member
    simpa using List.all_eq_true.1 List.all_takeWhile c member
  rw [text_append, ← slashes, ← written, List.takeWhile_append_dropWhile]

/-- Brackets are read where they are written, and nowhere else. -/
theorem writes_bracket : Scan.Writes Bracket.read Bracket.text where
  nonempty := Bracket.text_ne_nil
  written reads := (Bracket.exists_of_read reads).2
  settled reads rest := by
    obtain ⟨tag, rfl, -⟩ := Bracket.exists_of_read reads
    exact Bracket.read_text_append tag rest

end Reading

section Joining

/-- Every text ends in some number of backslashes. -/
theorem exists_slashes (t : Text) :
    ∃ before n, t = before ++ List.replicate n '\\' ∧ before.getLast? ≠ some '\\' := by
  induction t using List.reverseRecOn with
  | nil => exact ⟨[], 0, rfl, by simp⟩
  | append_singleton t c ih =>
    by_cases slash : c = '\\'
    · obtain ⟨before, n, rfl, clear⟩ := ih
      refine ⟨before, n + 1, ?_, clear⟩
      rw [slash, List.replicate_succ', List.append_assoc]
    · exact ⟨t ++ [c], 0, by simp, by simpa using slash⟩

/-- A tag that begins in one text and ends in the next one. -/
structure Crosses (front rest : Text) (b : Bracket) : Prop where
  tag : IsTag b.body
  cut : ∃ before opening closing behind,
    front = before ++ (List.replicate b.slashes '\\' ++ '[' :: opening) ∧
      before.getLast? ≠ some '\\' ∧ rest = closing ++ ']' :: behind ∧ b.body = opening ++ closing

variable {front rest : Text} {b : Bracket}

/-- Where a bracket is cut, the front is among its backslashes or goes beyond the opening one. -/
theorem Bracket.cut_cases {after more : Text} (cut : b.text = after ++ more) (left : more ≠ []) :
    (∃ n, after = List.replicate n '\\') ∨
      ∃ opening closing, after = List.replicate b.slashes '\\' ++ '[' :: opening ∧
        more = closing ++ [']'] ∧ b.body = opening ++ closing := by
  rw [text, List.append_assoc] at cut
  rcases List.append_eq_append_iff.1 cut with ⟨inner, whole, within⟩ | ⟨others, slashes, -⟩
  · cases inner with
    | nil => exact .inl ⟨b.slashes, by simpa using whole⟩
    | cons c opening =>
      obtain ⟨rfl, within⟩ := List.cons.inj within
      rcases List.append_eq_append_iff.1 within with ⟨last, longer, split⟩ | ⟨closing, body, rest⟩
      · cases last with
        | nil => exact .inr ⟨opening, [], whole, by simpa using split.symm, by simpa using longer.symm⟩
        | cons d last => simp_all
      · exact .inr ⟨opening, closing, whole, rest, (List.cons.inj body).2⟩
  · refine .inl ⟨after.length, List.eq_replicate_iff.2 ⟨rfl, ?_⟩⟩
    intro c member
    exact List.eq_of_mem_replicate (slashes ▸ List.mem_append_left others member)

/-- A bracket that begins in one text and does not end there either has only backslashes there, or
crosses into the next one. -/
theorem exists_crosses_of_cut {before after more behind : Text} (tag : IsTag b.body)
    (cut : b.text = after ++ more) (begun : after ≠ []) (left : more ≠ []) :
    (before ++ after).getLast? = some '\\' ∨
      ∃ n, Crosses (before ++ after) (more ++ behind) ⟨n, b.body⟩ := by
  rcases Bracket.cut_cases cut left with ⟨n, rfl⟩ | ⟨opening, closing, rfl, rfl, parts⟩
  · left
    have positive : n ≠ 0 := by
      rintro rfl
      exact begun rfl
    rw [List.getLast?_append, List.getLast?_replicate, if_neg positive, Option.some_or]
  · right
    obtain ⟨start, k, rfl, clear⟩ := exists_slashes before
    refine ⟨k + b.slashes, tag, start, opening, closing, behind, ?_, clear, ?_, parts⟩
    · simp [← List.replicate_append_replicate]
    · simp

theorem closing_mem_of_cut {after more : Text} (cut : b.text = after ++ more) (left : more ≠ []) :
    ']' ∈ more := by
  have last : [']'] <:+ after ++ more := by
    rw [← cut]
    exact List.suffix_append _ [']']
  have inside : [']'] <:+ more :=
    List.suffix_of_suffix_length_le last (List.suffix_append after more) (List.length_pos_iff.2 left)
  exact inside.mem List.mem_cons_self

/-- Reading in the first of two texts does not look into the second one if nothing crosses. -/
theorem Bracket.read_append (clear : front.getLast? ≠ some '\\' ∨ ']' ∉ rest)
    (apart : ∀ b, ¬ Crosses front rest b) {after : Text} (suffix : after <:+ front)
    (begun : after ≠ []) : Bracket.read (after ++ rest) = Bracket.read after := by
  cases alone : Bracket.read after with
  | some found => exact writes_bracket.read_append_of_some alone rest
  | none =>
    rw [Option.eq_none_iff_forall_ne_some]
    rintro ⟨b, width⟩ reads
    obtain ⟨tag, -, behind, whole⟩ := exists_of_read reads
    have refuted {more : Text} (inside : after = b.text ++ more) : False := by
      rw [inside, read_text_append tag] at alone
      cases alone
    obtain ⟨before, rfl⟩ := suffix
    rcases List.append_eq_append_iff.1 whole with ⟨more, cut, rfl⟩ | ⟨more, inside, -⟩
    · by_cases left : more = []
      · subst left
        have inside : after = b.text ++ [] := by simpa using cut.symm
        exact refuted inside
      · rcases exists_crosses_of_cut tag cut begun left with slash | ⟨n, crosses⟩
        · rcases clear with clear | without
          · exact clear slash
          · exact without (List.mem_append_left behind (closing_mem_of_cut cut left))
        · exact apart _ crosses
    · exact refuted inside

theorem tokens_append (clear : front.getLast? ≠ some '\\' ∨ ']' ∉ rest)
    (apart : ∀ b, ¬ Crosses front rest b) :
    Scan.tokens Bracket.read 0 (front ++ rest) =
      Scan.tokens Bracket.read 0 front ++ Scan.tokens Bracket.read 0 rest :=
  Scan.tokens_append (Nat.zero_le _) writes_bracket.fits fun _ => Bracket.read_append clear apart

/-- The first bracket of a text, of either kind and whether or not it belongs to a tag. -/
def firstBracket? (t : Text) : Option Char :=
  t.find? fun c => c = '[' ∨ c = ']'

theorem firstBracket?_ne {c : Char} {t : Text} (absent : c ∉ t) : firstBracket? t ≠ some c :=
  fun found => absent (List.mem_of_find?_eq_some found)

theorem firstBracket?_append {t u : Text} (unopened : '[' ∉ t) (unclosed : ']' ∉ t) :
    firstBracket? (t ++ u) = firstBracket? u := by
  have outside : t.find? (fun c => c = '[' ∨ c = ']') = none := by
    rw [List.find?_eq_none]
    intro c member
    simp only [decide_eq_true_eq, not_or]
    exact ⟨fun same => unopened (same ▸ member), fun same => unclosed (same ▸ member)⟩
  rw [firstBracket?, List.find?_append, outside, Option.none_or, firstBracket?]

theorem firstBracket?_text_append (b : Bracket) (rest : Text) :
    firstBracket? (b.text ++ rest) = some '[' := by
  rw [b.text_append, firstBracket?_append (by simp [List.mem_replicate]) (by simp [List.mem_replicate])]
  rfl

/-- Where a tag crosses, the last bracket before the cut is an opening one. -/
theorem Crosses.last (crosses : Crosses front rest b) : firstBracket? front.reverse = some '[' := by
  obtain ⟨tag, before, opening, closing, behind, rfl, -, -, parts⟩ := crosses
  obtain ⟨⟨unopened, unclosed⟩, -⟩ := tag.parts parts
  have turned : (before ++ (List.replicate b.slashes '\\' ++ '[' :: opening)).reverse =
      opening.reverse ++ '[' :: (before ++ List.replicate b.slashes '\\').reverse := by simp
  rw [turned, firstBracket?_append (by simpa using unopened) (by simpa using unclosed)]
  rfl

/-- Where a tag crosses, the first bracket behind the cut is a closing one. -/
theorem Crosses.first (crosses : Crosses front rest b) : firstBracket? rest = some ']' := by
  obtain ⟨tag, before, opening, closing, behind, -, -, rfl, parts⟩ := crosses
  obtain ⟨-, unopened, unclosed⟩ := tag.parts parts
  rw [firstBracket?_append unopened unclosed]
  rfl

theorem not_crosses_of_last (other : firstBracket? front.reverse ≠ some '[') (b : Bracket) :
    ¬ Crosses front rest b :=
  fun crosses => other crosses.last

theorem not_crosses_of_first (other : firstBracket? rest ≠ some ']') (b : Bracket) :
    ¬ Crosses front rest b :=
  fun crosses => other crosses.first

end Joining

/-- The brackets in the shape of tags, from left to right. -/
def brackets (t : Text) : List Bracket :=
  Scan.matchesOf Bracket.read t

section Brackets

variable {front rest t : Text} {b : Bracket}

theorem brackets_append (clear : front.getLast? ≠ some '\\' ∨ ']' ∉ rest)
    (apart : ∀ b, ¬ Crosses front rest b) :
    brackets (front ++ rest) = brackets front ++ brackets rest := by
  rw [brackets, Scan.matchesOf, tokens_append clear apart, List.filterMap_append]
  rfl

/-- The tokens of a text before a tag, the tag and the tokens behind it. -/
theorem tokens_append_text (clear : front.getLast? ≠ some '\\') (tag : IsTag b.body)
    (rest : Text) :
    Scan.tokens Bracket.read 0 (front ++ (b.text ++ rest)) =
      Scan.tokens Bracket.read 0 front ++ .found b :: Scan.tokens Bracket.read 0 rest := by
  have opening : firstBracket? (b.text ++ rest) ≠ some ']' := by
    rw [firstBracket?_text_append]
    decide
  rw [tokens_append (.inl clear) (not_crosses_of_first opening),
    Scan.tokens_append_of_some b.text_ne_nil (Bracket.read_text_append tag rest)]

theorem brackets_append_text (clear : front.getLast? ≠ some '\\') (tag : IsTag b.body) (rest : Text) :
    brackets (front ++ (b.text ++ rest)) = brackets front ++ b :: brackets rest := by
  rw [brackets, Scan.matchesOf, tokens_append_text clear tag, List.filterMap_append]
  rfl

/-- No tag begins in a text. -/
def Silent (t : Text) : Prop :=
  ∀ after, after <:+ t → after ≠ [] → Bracket.read after = none

theorem tokens_of_silent (silent : Silent t) : Scan.tokens Bracket.read 0 t = t.map .other :=
  Scan.tokens_of_silent silent

theorem brackets_of_silent (silent : Silent t) : brackets t = [] :=
  Scan.matchesOf_of_silent silent

/-- In a text without the one or the other bracket no tag begins. -/
theorem silent_of_not_mem (without : '[' ∉ t ∨ ']' ∉ t) : Silent t := by
  intro after suffix _
  rw [Option.eq_none_iff_forall_ne_some]
  rintro ⟨b, width⟩ reads
  obtain ⟨-, -, rest, rfl⟩ := Bracket.exists_of_read reads
  rcases without with without | without
  · exact without (suffix.mem (by simp [Bracket.text]))
  · exact without (suffix.mem (by simp [Bracket.text]))

theorem brackets_eq_nil (without : '[' ∉ t ∨ ']' ∉ t) : brackets t = [] :=
  brackets_of_silent (silent_of_not_mem without)

/-- What ends no tag adds none to a text before it. -/
theorem brackets_append_of_not_mem (without : ']' ∉ rest) :
    brackets (front ++ rest) = brackets front := by
  rw [brackets_append (.inr without) (not_crosses_of_first (firstBracket?_ne without)),
    brackets_eq_nil (.inr without), List.append_nil]

/-- The brackets of three texts, if no tag crosses from the first into the second or from there into the
third. -/
theorem brackets_enclosed {opening inner closing : Text} (clear : opening.getLast? ≠ some '\\')
    (last : firstBracket? opening.reverse ≠ some '[') (clearInner : inner.getLast? ≠ some '\\')
    (first : firstBracket? closing ≠ some ']') :
    brackets (opening ++ (inner ++ closing)) = brackets opening ++ (brackets inner ++ brackets closing) := by
  rw [brackets_append (.inl clear) (not_crosses_of_last last),
    brackets_append (.inl clearInner) (not_crosses_of_first first)]

/-- What begins no tag adds none to a text behind it, if it is cut off by a closing bracket. -/
theorem brackets_closing_append (without : '[' ∉ front) (rest : Text) :
    brackets (front ++ ']' :: rest) = brackets rest := by
  have closed : '[' ∉ front ++ [']'] := by simpa using without
  have turned : '[' ∉ (front ++ [']']).reverse := by rwa [List.mem_reverse]
  have split : front ++ ']' :: rest = (front ++ [']']) ++ rest := by simp
  rw [split, brackets_append (.inl (by simp)) (not_crosses_of_last (firstBracket?_ne turned)),
    brackets_eq_nil (.inl closed), List.nil_append]

/-- What stands behind the end of a tag that crosses into a text. -/
def behindTag (rest : Text) : Text := (rest.dropWhile (· ≠ ']')).tail

/-- A tag that crosses is written between parts of the two texts which hold all their brackets. -/
theorem Crosses.exists_cut (crosses : Crosses front rest b) :
    ∃ before, before.getLast? ≠ some '\\' ∧ front ++ rest = before ++ (b.text ++ behindTag rest) ∧
      brackets front = brackets before ∧ brackets rest = brackets (behindTag rest) := by
  obtain ⟨tag, before, opening, closing, behind, rfl, clear, rfl, parts⟩ := crosses
  obtain ⟨⟨-, unclosed⟩, unopened, unclosed'⟩ := tag.parts parts
  have start : ']' ∉ List.replicate b.slashes '\\' ++ '[' :: opening := by
    simp [unclosed, List.mem_replicate]
  have left : behindTag (closing ++ ']' :: behind) = behind := by
    have inside : ∀ c ∈ closing, decide (c ≠ ']') = true :=
      fun c member => decide_eq_true fun same => unclosed' (same ▸ member)
    rw [behindTag, Text.dropWhile_append_of_stops inside (Text.stops_cons_iff.2 rfl)]
    rfl
  refine ⟨before, clear, ?_, brackets_append_of_not_mem start, ?_⟩
  · rw [left]
    simp [Bracket.text, parts]
  · rw [left, brackets_closing_append unopened]

/-- Such a tag stands between the brackets of the two texts. -/
theorem brackets_append_of_crosses (crosses : Crosses front rest b) :
    brackets (front ++ rest) = brackets front ++ b :: brackets rest := by
  obtain ⟨before, clear, whole, first, last⟩ := crosses.exists_cut
  rw [whole, brackets_append_text clear crosses.tag, first, last]

/-- What holds of texts without tags, and of a text if it holds behind the first tag, holds of all. -/
theorem text_induction {motive : Text → Prop} (plain : ∀ t, Silent t → motive t)
    (first : ∀ (stretch : Text) (b : Bracket) (rest : Text), Silent stretch →
      stretch.getLast? ≠ some '\\' → IsTag b.body → motive rest →
      motive (stretch ++ (b.text ++ rest))) (t : Text) : motive t := by
  refine writes_bracket.induction plain (fun stretch b rest silent reads ih => ?_) t
  have tag : IsTag b.body := (Bracket.exists_of_read (reads rest)).1
  refine first stretch b rest ?_ ?_ tag ih
  · exact fun after suffix begun => writes_bracket.read_of_append (silent after suffix begun)
  · intro slash
    -- the tag would begin with this backslash
    obtain ⟨before, rfl⟩ := List.getLast?_eq_some_iff.1 slash
    have answer := silent ['\\'] (List.suffix_append before _) (List.cons_ne_nil _ [])
    cases (Bracket.read_slash_append tag rest).symm.trans answer

/-- A bracket that is found has been written. -/
theorem exists_of_mem_brackets (member : b ∈ brackets t) :
    IsTag b.body ∧ ∃ before behind, t = before ++ (b.text ++ behind) := by
  induction t using text_induction with
  | plain t silent =>
    rw [brackets_of_silent silent] at member
    cases member
  | first stretch first rest silent clear tag ih =>
    rw [brackets_append_text clear tag, brackets_of_silent silent, List.nil_append] at member
    rcases List.mem_cons.1 member with rfl | later
    · exact ⟨tag, stretch, rest, rfl⟩
    · obtain ⟨found, before, behind, rfl⟩ := ih later
      exact ⟨found, stretch ++ (first.text ++ before), behind, by simp⟩

end Brackets

end TagOrigin.Display.Markup
