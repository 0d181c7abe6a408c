import Mathlib.Algebra.Group.Nat.Even
import TagOrigin.Proofs.Glob.Faults
import TagOrigin.Proofs.Glob.Language
import TagOrigin.Proofs.Text.Pieces

/-!
Widening a star to a double star. A single star parts a pattern: what it stands for is left over by the
parts before and behind it. Written twice it takes over slashes too, but no line feeds, so a path is lost
exactly if every reading of it leaves line feeds to the star. Paths without line feeds are never lost.
-/
namespace TagOrigin.Glob

section Concatenation

variable {ps qs : List Piece} {t : Text}

theorem Then.assoc {first second rest : Text → Prop} :
    Then (Then first second) rest t ↔ Then first (Then second rest) t := by
  constructor
  · rintro ⟨_, w, rfl, ⟨u, v, rfl, here, next⟩, later⟩
    exact ⟨u, v ++ w, by simp, here, v, w, rfl, next, later⟩
  · rintro ⟨u, _, rfl, here, v, w, rfl, next, later⟩
    exact ⟨u ++ v, w, by simp, ⟨u, v, rfl, here, next⟩, later⟩

theorem Expression.spells_append_iff {e e' : Expression} :
    Expression.Spells (e ++ e') t ↔ Then (Expression.Spells e) (Expression.Spells e') t := by
  induction e generalizing t with
  | nil => simp [Then, Expression.Spells]
  | cons item e ih => exact (Then.congr_right fun _ => ih).trans Then.assoc.symm

/-- Items are taken on their own, unless a question mark follows. -/
theorem itemsOf_append (plain : qs.head? ≠ some .query) :
    itemsOf (ps ++ qs) = itemsOf ps ++ itemsOf qs := by
  fun_induction itemsOf ps with
  | case1 => rfl
  | case2 ps ih => simp [itemsOf, ih]
  | case3 ps ih => simp [itemsOf, ih]
  | case4 ps ih => simp [itemsOf, ih]
  | case5 c ps ih => simp [itemsOf, ih]
  | case6 c ps single ih =>
    have unmarked : ∀ more, ps ++ qs ≠ .query :: more := by
      intro more same
      cases ps with
      | nil => exact plain (by rw [← List.nil_append qs, same]; rfl)
      | cons piece ps => exact single ps (by rw [(List.cons.inj same).1])
    rw [List.cons_append, itemsOf, ih, List.cons_append]
    exact unmarked

theorem reads_append_iff (plain : qs.head? ≠ some .query) :
    Reads (ps ++ qs) t ↔ Then (Reads ps) (Reads qs) t := by
  rw [← spells_itemsOf_iff, itemsOf_append plain, Expression.spells_append_iff,
    Then.congr_left (spells_itemsOf_iff ps), Then.congr_right (spells_itemsOf_iff qs)]

end Concatenation

section Stars

variable {lead front back rest : Text}

/-- How many stars stand at the end of a text. -/
def trailingStars (t : Text) : Nat :=
  (t.reverse.takeWhile (· = '*')).length

/-- A star between two texts that is not part of a pair: those right before it pair up, and none follows. -/
structure StandsAlone (front back : Text) : Prop where
  paired : Even (trailingStars front)
  last : back.head? ≠ some '*'

instance (front back : Text) : Decidable (StandsAlone front back) :=
  decidable_of_iff (Even (trailingStars front) ∧ back.head? ≠ some '*')
    ⟨fun ⟨paired, last⟩ => { paired, last }, fun alone => ⟨alone.paired, alone.last⟩⟩

theorem exists_trailingStars (front : Text) :
    ∃ lead, front = lead ++ List.replicate (trailingStars front) '*' ∧ lead.getLast? ≠ some '*' := by
  refine ⟨(front.reverse.dropWhile (· = '*')).reverse, ?_, ?_⟩
  · have stars : front.reverse.takeWhile (· = '*') = List.replicate (trailingStars front) '*' := by
      apply List.eq_replicate_iff.2
      refine ⟨rfl, fun c member => ?_⟩
      simpa using List.all_eq_true.1 List.all_takeWhile c member
    rw [← List.reverse_inj, List.reverse_append, List.reverse_replicate, List.reverse_reverse, ← stars,
      List.takeWhile_append_dropWhile]
  · rw [List.getLast?_reverse]
    intro first
    have stop := List.head?_dropWhile_not (· = '*') front.reverse
    rw [first] at stop
    simp at stop

theorem getLast?_ne_of_cons {c : Char} (ends : (c :: lead).getLast? ≠ some '*') :
    lead.getLast? ≠ some '*' := by
  cases lead with
  | nil => simp
  | cons d lead => rwa [List.getLast?_cons_cons] at ends

/-- Behind a character other than a star a new piece begins. -/
theorem pieces_append_of_getLast? (ends : lead.getLast? ≠ some '*') (rest : Text) :
    pieces (lead ++ rest) = pieces lead ++ pieces rest := by
  fun_induction pieces lead with
  | case1 => rfl
  | case2 lead ih =>
    have later := ih (getLast?_ne_of_cons (getLast?_ne_of_cons ends))
    simp [pieces, later]
  | case3 lead single ih =>
    have alone : ∀ more, lead ++ rest ≠ '*' :: more := by
      intro more same
      cases lead with
      | nil => exact ends rfl
      | cons c lead => exact single lead (by rw [(List.cons.inj same).1])
    have later := ih (getLast?_ne_of_cons ends)
    simp [pieces_star_cons alone, later]
  | case4 lead ih =>
    have later := ih (getLast?_ne_of_cons ends)
    simp [pieces, later]
  | case5 c lead _ noStar noQuery ih =>
    have later := ih (getLast?_ne_of_cons ends)
    simp [pieces_cons noStar noQuery, later]

theorem pieces_replicate_append (n : Nat) (rest : Text) :
    pieces (List.replicate (n + n) '*' ++ rest) = List.replicate n .anyRun ++ pieces rest := by
  induction n with
  | zero => rfl
  | succ n ih =>
    have two : n + 1 + (n + 1) = n + n + 1 + 1 := by omega
    rw [two, List.replicate_succ, List.replicate_succ, List.replicate_succ, List.cons_append,
      List.cons_append, pieces, ih, List.cons_append]

/-- Behind an even number of stars a new piece begins. -/
theorem pieces_append_of_even (paired : Even (trailingStars front)) (rest : Text) :
    pieces (front ++ rest) = pieces front ++ pieces rest := by
  obtain ⟨lead, whole, ends⟩ := exists_trailingStars front
  obtain ⟨n, even⟩ := paired
  rw [even] at whole
  have stars := pieces_replicate_append n []
  rw [List.append_nil] at stars
  rw [whole, List.append_assoc, pieces_append_of_getLast? ends, pieces_append_of_getLast? ends,
    pieces_replicate_append, stars]
  simp [pieces]

/-- Where a star stands behind other text, or is not followed by what would make it open leading
directories, it leaves to the text before it whether there are any. -/
theorem after?_append_star (paired : Even (trailingStars front))
    (inside : front = [] → ¬ "*/".toList <+: rest) :
    Text.after? "**/".toList (front ++ '*' :: rest) =
      (Text.after? "**/".toList front).map (· ++ '*' :: rest) := by
  match front with
  | [] =>
    have absent := Text.after?_eq_none_iff.2 (inside rfl)
    simpa [Text.after?] using absent
  | [c] =>
    have other : '*' ≠ c := by
      rintro rfl
      exact absurd paired (by decide)
    simp [Text.after?, other]
  | [c, d] => simp [Text.after?]
  | c :: d :: e :: more => exact Text.after?_append_of_length_le (by simp) _

end Stars

section Languages

variable {front back rest body path : Text}

/-- Nothing, or what leads to a component. -/
def IsLead (lead : Text) : Prop :=
  lead = [] ∨ ∃ run, '\n' ∉ run ∧ lead = run ++ ['/']

theorem denotes_leading_iff :
    Denotes ("**/".toList ++ body) path ↔ Then IsLead (Reads (pieces body)) path := by
  rw [Denotes, Text.after?_eq_some_iff.2 rfl]
  rfl

theorem denotes_iff_reads (plain : Text.after? "**/".toList front = none) :
    Denotes front path ↔ Reads (pieces front) path := by
  rw [Denotes, plain]

/-- Behind a text that settles its leading directories, and where a piece begins, a pattern goes on as its
pieces do. -/
theorem denotes_append_iff
    (leading : Text.after? "**/".toList (front ++ rest) = (Text.after? "**/".toList front).map (· ++ rest))
    (parts : pieces (front ++ rest) = pieces front ++ pieces rest)
    (plain : (pieces rest).head? ≠ some .query) :
    Denotes (front ++ rest) path ↔ Then (Denotes front) (Reads (pieces rest)) path := by
  cases begun : Text.after? "**/".toList front with
  | none =>
    rw [begun] at leading
    rw [denotes_iff_reads leading, parts, reads_append_iff plain,
      Then.congr_left fun _ => denotes_iff_reads begun]
  | some body =>
    obtain rfl := Text.after?_eq_some_iff.1 begun
    have split : pieces (body ++ rest) = pieces body ++ pieces rest :=
      (List.cons.inj (List.cons.inj parts).2).2
    rw [List.append_assoc, denotes_leading_iff, split, Then.congr_left fun _ => denotes_leading_iff,
      Then.assoc]
    exact Then.congr_right fun _ => reads_append_iff plain

/-- What two parts of a pattern leave of a path to what stands between them. -/
def Leaves (front back path run : Text) : Prop :=
  ∃ u v, path = u ++ (run ++ v) ∧ Denotes front u ∧ Reads (pieces back) v

theorem then_run_iff_leaves {p : Text → Prop} :
    Then (Denotes front) (Then p (Reads (pieces back))) path ↔
      ∃ run, p run ∧ Leaves front back path run := by
  constructor
  · rintro ⟨u, _, rfl, before, run, v, rfl, clean, behind⟩
    exact ⟨run, clean, u, v, rfl, before, behind⟩
  · rintro ⟨run, clean, u, v, rfl, before, behind⟩
    exact ⟨u, run ++ v, rfl, before, run, v, rfl, clean, behind⟩

/-- A single star stands for a run without slashes that the rest of the pattern leaves. -/
theorem denotes_star_iff (alone : StandsAlone front back) :
    Denotes (front ++ '*' :: back) path ↔ ∃ run, '/' ∉ run ∧ Leaves front back path run := by
  have single : ∀ more, back ≠ '*' :: more := by
    intro more same
    exact alone.last (by rw [same]; rfl)
  have inside : front = [] → ¬ "*/".toList <+: back := by
    rintro - ⟨more, same⟩
    exact single _ same.symm
  have star : pieces ('*' :: back) = .segmentRun :: pieces back := pieces_star_cons single
  have plain : (pieces ('*' :: back)).head? ≠ some .query := by simp [star]
  rw [denotes_append_iff (after?_append_star alone.paired inside) (pieces_append_of_even alone.paired _)
    plain, star, ← then_run_iff_leaves]
  exact Then.congr_right fun _ => reads_segmentRun_iff

/-- A double star in its place stands for a run without line feeds. -/
theorem denotes_doubleStar_iff (alone : StandsAlone front back)
    (inside : front = [] → back.head? ≠ some '/') :
    Denotes (front ++ '*' :: '*' :: back) path ↔ ∃ run, '\n' ∉ run ∧ Leaves front back path run := by
  have inside' : front = [] → ¬ "*/".toList <+: '*' :: back := by
    rintro empty ⟨more, same⟩
    exact inside empty (by rw [← (List.cons.inj same).2]; rfl)
  have plain : (pieces ('*' :: '*' :: back)).head? ≠ some .query := by simp [pieces]
  rw [denotes_append_iff (after?_append_star alone.paired inside') (pieces_append_of_even alone.paired _)
    plain, pieces, ← then_run_iff_leaves]
  exact Then.congr_right fun _ => reads_anyRun_iff

theorem head?_pieces_ne_query (noQuery : '?' ∉ body) : (pieces body).head? ≠ some .query := by
  fun_cases pieces body with
  | case1 => simp
  | case2 rest => simp
  | case3 rest single => simp
  | case4 rest => exact absurd List.mem_cons_self noQuery
  | case5 c rest _ _ _ => simp

/-- Before a slash at the front of a pattern a double star and the slash may also stand for nothing. -/
theorem denotes_leading_iff_leaves (noQuery : '?' ∉ body) :
    Denotes ("**/".toList ++ body) path ↔
      (∃ run, '\n' ∉ run ∧ Leaves [] ('/' :: body) path run) ∨ Reads (pieces body) path := by
  have plain := head?_pieces_ne_query noQuery
  rw [denotes_leading_iff, or_comm]
  refine optional_then_iff.trans (or_congr_right ?_)
  constructor
  · rintro ⟨_, v, rfl, ⟨run, clean, rfl⟩, later⟩
    exact ⟨run, clean, [], '/' :: v, by simp, .done, .char plain later⟩
  · rintro ⟨run, clean, u, v, rfl, before, behind⟩
    obtain rfl := reads_nil_iff.1 ((denotes_iff_reads rfl).1 before)
    obtain ⟨_, w, rfl, rfl, later⟩ := (reads_char_iff plain).1 behind
    exact ⟨run ++ ['/'], w, by simp, ⟨run, clean, rfl⟩, later⟩

/-- What a pattern stands for once a single star in it is written twice. -/
theorem denotes_widened_iff (alone : StandsAlone front back) (noQuery : '?' ∉ back) :
    Denotes (front ++ '*' :: '*' :: back) path ↔
      (∃ run, '\n' ∉ run ∧ Leaves front back path run) ∨
        front = [] ∧ ∃ body, back = '/' :: body ∧ Reads (pieces body) path := by
  by_cases opens : front = [] ∧ ∃ body, back = '/' :: body
  · obtain ⟨rfl, body, rfl⟩ := opens
    have clean : '?' ∉ body := List.not_mem_of_not_mem_cons noQuery
    refine (denotes_leading_iff_leaves clean).trans (or_congr_right ?_)
    simp
  · have inside : front = [] → back.head? ≠ some '/' := by
      intro empty first
      obtain ⟨body, same⟩ := List.head?_eq_some_iff.1 first
      exact opens ⟨empty, body, same⟩
    rw [denotes_doubleStar_iff alone inside]
    refine (or_iff_left ?_).symm
    rintro ⟨empty, body, same, -⟩
    exact opens ⟨empty, body, same⟩

end Languages

section Verdicts

variable {pattern front back : Text}

theorem exists_verdict (clean : '\x00' ∉ pattern) (noQuery : '?' ∉ pattern) (path : Text) :
    ∃ verdict, pathMatches path pattern = .ok verdict ∧ (verdict = true ↔ Denotes pattern path) := by
  obtain ⟨e, accepted⟩ := exists_compile_of_query_not_mem clean noQuery
  exact ⟨_, pathMatches_of_compile accepted path, accepts_iff_denotes clean accepted path⟩

/-- A pattern without question marks in which a star that is not part of a pair is written twice. It stands
for all of its former paths without line feeds, and for more: the star takes any run without line feeds
that the rest leaves, and with a slash behind it at the front of the pattern it may stand for nothing. So a
path is lost exactly if all that can be left to the star has line feeds, and the exception does not apply. -/
theorem pathMatches_doubleStar (clean : '\x00' ∉ front ++ '*' :: back)
    (noQuery : '?' ∉ front ++ '*' :: back) (alone : StandsAlone front back) (path : Text) :
    ∃ narrow wide, pathMatches path (front ++ '*' :: back) = .ok narrow ∧
      pathMatches path (front ++ '*' :: '*' :: back) = .ok wide ∧
      (narrow = true → '\n' ∉ path → wide = true) ∧
      (narrow = true ↔ ∃ run, '/' ∉ run ∧ Leaves front back path run) ∧
      (wide = true ↔ (∃ run, '\n' ∉ run ∧ Leaves front back path run) ∨
        front = [] ∧ ∃ body, back = '/' :: body ∧ Reads (pieces body) path) := by
  have cleanWide : '\x00' ∉ front ++ '*' :: '*' :: back := by simpa using clean
  have noQueryWide : '?' ∉ front ++ '*' :: '*' :: back := by simpa using noQuery
  have noQueryBehind : '?' ∉ back := by
    simp only [List.mem_append, List.mem_cons, not_or] at noQuery
    exact noQuery.2.2
  obtain ⟨narrow, decided, means⟩ := exists_verdict clean noQuery path
  obtain ⟨wide, decidedWide, meansWide⟩ := exists_verdict cleanWide noQueryWide path
  rw [denotes_star_iff alone] at means
  rw [denotes_widened_iff alone noQueryBehind] at meansWide
  refine ⟨narrow, wide, decided, decidedWide, ?_, means, meansWide⟩
  intro matched oneLine
  obtain ⟨run, -, u, v, rfl, before, behind⟩ := means.1 matched
  have cleanRun : '\n' ∉ run := by
    simp only [List.mem_append, not_or] at oneLine
    exact oneLine.2.1
  exact meansWide.2 (.inl ⟨run, cleanRun, u, v, rfl, before, behind⟩)

/-- The third star of a row of three behind leading directories, with the run of the pair before it. -/
theorem pathMatches_doubleStar_thirdStar :
    let front := "**/a**".toList
    let back := "/b.ts".toList
    let path := "x/a/y/z/b.ts".toList
    '\x00' ∉ front ++ '*' :: back ∧ '?' ∉ front ++ '*' :: back ∧ StandsAlone front back ∧ '\n' ∉ path ∧
      pathMatches path (front ++ '*' :: back) = .ok true ∧
      pathMatches path (front ++ '*' :: '*' :: back) = .ok true := by
  have clean : '\x00' ∉ "**/a**".toList ++ '*' :: "/b.ts".toList := by decide
  have noQuery : '?' ∉ "**/a**".toList ++ '*' :: "/b.ts".toList := by decide
  have alone : StandsAlone "**/a**".toList "/b.ts".toList := by decide
  have oneLine : '\n' ∉ "x/a/y/z/b.ts".toList := by decide
  obtain ⟨narrow, wide, decided, decidedWide, kept, _⟩ :=
    pathMatches_doubleStar clean noQuery alone "x/a/y/z/b.ts".toList
  have matched : narrow = true := Except.ok.inj (decided.symm.trans (by decide))
  rw [kept matched oneLine] at decidedWide
  rw [matched] at decided
  exact ⟨clean, noQuery, alone, oneLine, decided, decidedWide⟩

/-- A star takes over line feeds, a double star does not. -/
theorem pathMatches_loses_lineFeed :
    StandsAlone [] ".ts".toList ∧ pathMatches "a\nb.ts".toList "*.ts".toList = .ok true ∧
      pathMatches "a\nb.ts".toList "**.ts".toList = .ok false := by
  decide

end Verdicts

end TagOrigin.Glob
