import Mathlib.Data.List.TakeWhile
import TagOrigin.Text

/-!
Runs of characters. A run is read exactly if what follows it begins with a character of another
class or is empty; both directions are stated at once, so a reader built from runs can be opened and
rebuilt with the same lemma. Stripping takes off the runs of white space at both ends.
-/
namespace TagOrigin.Text

/-- A text does not go on with a character of the class. -/
def Stops (p : Char → Bool) (t : Text) : Prop := ∀ c, t.head? = some c → p c = false

instance (p : Char → Bool) (t : Text) : Decidable (Stops p t) :=
  decidable_of_iff (t.head?.all fun c => !p c) (by simp [Stops, Option.all_eq_true])

/-- The codes of letters and digits. -/
theorem code_of_isAlphanum {c : Char} (inside : c.isAlphanum = true) :
    ((65 ≤ c.toNat ∧ c.toNat ≤ 90) ∨ (97 ≤ c.toNat ∧ c.toNat ≤ 122)) ∨
      (48 ≤ c.toNat ∧ c.toNat ≤ 57) := by
  delta Char.isAlphanum Char.isAlpha Char.isUpper Char.isLower Char.isDigit at inside
  simp only [Bool.or_eq_true, Bool.and_eq_true, decide_eq_true_eq, ge_iff_le,
    UInt32.le_iff_toNat_le] at inside
  exact inside

section Runs

variable {p : Char → Bool} {a : Char} {t u v : Text}

theorem stops_cons_iff : Stops p (a :: t) ↔ p a = false := by
  constructor
  · intro stops
    exact stops a rfl
  · intro stop c first
    exact Option.some.inj first ▸ stop

/-- A text that begins with a non-empty run of another class stops the class. -/
theorem stops_append {q : Char → Bool} (apart : ∀ c, q c = true → p c = false) (nonempty : u ≠ [])
    (inside : ∀ c ∈ u, q c = true) (t : Text) : Stops p (u ++ t) := by
  obtain ⟨c, u, rfl⟩ := List.exists_cons_of_ne_nil nonempty
  exact stops_cons_iff.2 (apart c (inside c List.mem_cons_self))

/-- A run ends where a character of another class stands, whatever is behind it. -/
theorem takeWhile_append_stop (stop : p a = false) (u v : Text) :
    (u ++ a :: v).takeWhile p = u.takeWhile p := by
  induction u with
  | nil => simp [stop]
  | cons c u ih =>
    rw [List.cons_append, List.takeWhile_cons, List.takeWhile_cons, ih]

theorem takeWhile_append_of_stops (inside : ∀ c ∈ u, p c = true) (stops : Stops p v) :
    (u ++ v).takeWhile p = u := by
  rw [List.takeWhile_append_of_pos inside]
  cases v with
  | nil => simp
  | cons c v => simp [stops_cons_iff.1 stops]

theorem dropWhile_append_of_stops (inside : ∀ c ∈ u, p c = true) (stops : Stops p v) :
    (u ++ v).dropWhile p = v := by
  rw [List.dropWhile_append_of_pos inside]
  cases v with
  | nil => rfl
  | cons c v => simp [stops_cons_iff.1 stops]

theorem stops_dropWhile (p : Char → Bool) (t : Text) : Stops p (t.dropWhile p) := by
  intro c first
  have stop := List.head?_dropWhile_not p t
  rw [first] at stop
  simpa using stop

/-- A run is read exactly where it stands and does not go on. -/
theorem run?_eq_some_iff :
    run? p t = some (u, v) ↔ t = u ++ v ∧ u ≠ [] ∧ (∀ c ∈ u, p c = true) ∧ Stops p v := by
  constructor
  · intro reads
    obtain ⟨whole, nonempty, inside⟩ := run?_eq_some reads
    refine ⟨whole, nonempty, inside, ?_⟩
    unfold run? at reads
    split at reads
    · cases reads
    · cases reads
      exact stops_dropWhile p t
  · rintro ⟨rfl, nonempty, inside, stops⟩
    unfold run?
    rw [takeWhile_append_of_stops inside stops, dropWhile_append_of_stops inside stops]
    split
    · exact absurd rfl nonempty
    · rfl

/-- A text without a character is a run of the others. -/
theorem decide_ne_of_not_mem (clean : a ∉ u) : ∀ c ∈ u, decide (c ≠ a) = true := by
  intro c member
  exact decide_eq_true fun same => clean (same ▸ member)

theorem takeWhile_ne_of_not_mem (clean : a ∉ u) : u.takeWhile (· ≠ a) = u :=
  List.takeWhile_eq_self_iff.2 (decide_ne_of_not_mem clean)

end Runs

section Stripping

theorem strip_blank {t : Text} (blank : ∀ c ∈ t, isBlank c = true) : strip t = [] := by
  have nothing : t.dropWhile isBlank = [] := List.dropWhile_eq_nil_iff.2 blank
  rw [strip, stripLeft, nothing]
  rfl

/-- White space is taken off on both sides of a text that begins and ends with other characters. -/
theorem strip_padded {left t right : Text} (nonempty : t ≠ [])
    (first : Stops isBlank t) (last : Stops isBlank t.reverse)
    (blankLeft : ∀ c ∈ left, isBlank c = true) (blankRight : ∀ c ∈ right, isBlank c = true) :
    strip (left ++ t ++ right) = t := by
  have begins : Stops isBlank (t ++ right) := by
    obtain ⟨c, more, rfl⟩ := List.exists_cons_of_ne_nil nonempty
    exact stops_cons_iff.2 (stops_cons_iff.1 first)
  have padding : ∀ c ∈ right.reverse, isBlank c = true :=
    fun c member => blankRight c (List.mem_reverse.1 member)
  rw [strip, stripLeft, stripRight, List.append_assoc, dropWhile_append_of_stops blankLeft begins,
    List.reverse_append, dropWhile_append_of_stops padding last, List.reverse_reverse]

theorem strip_eq_self {t : Text} (first : Stops isBlank t) (last : Stops isBlank t.reverse) :
    strip t = t := by
  by_cases empty : t = []
  · subst empty
    rfl
  · have padded : strip ([] ++ t ++ []) = t := strip_padded empty first last (by simp) (by simp)
    simpa using padded

/-- A word at the front stays there. -/
theorem prefix_strip {word t : Text} (solid : ∀ c ∈ word, isBlank c = false) (begins : word <+: t) :
    word <+: strip t := by
  obtain ⟨more, rfl⟩ := begins
  cases word with
  | nil => exact List.nil_prefix
  | cons c word =>
    have first : stripLeft (c :: word ++ more) = c :: word ++ more := by
      rw [stripLeft, List.cons_append, List.dropWhile_cons, solid c List.mem_cons_self]
      rfl
    have ends : Stops isBlank (c :: word).reverse :=
      fun d last => solid d (List.mem_reverse.1 (List.mem_of_head? last))
    have kept : (c :: word).reverse.dropWhile isBlank = (c :: word).reverse :=
      dropWhile_append_of_stops (u := []) (by simp) ends
    rw [strip, first, stripRight, List.reverse_append, List.dropWhile_append, kept, ← List.reverse_suffix,
      List.reverse_reverse]
    split
    · exact List.suffix_rfl
    · exact List.suffix_append _ _

theorem prefix_stripRight (t : Text) : stripRight t <+: t := by
  rw [← List.reverse_suffix, stripRight, List.reverse_reverse]
  exact List.dropWhile_suffix isBlank

/-- Stripping gives a stretch of the text. -/
theorem strip_infix (t : Text) : strip t <:+: t :=
  (prefix_stripRight (stripLeft t)).isInfix.trans (List.dropWhile_suffix isBlank).isInfix

/-- What stripping takes off is white space. -/
theorem exists_padding (t : Text) : ∃ left right, t = left ++ strip t ++ right ∧
    (∀ c ∈ left, isBlank c = true) ∧ ∀ c ∈ right, isBlank c = true := by
  refine ⟨t.takeWhile isBlank, ((stripLeft t).reverse.takeWhile isBlank).reverse, ?_, ?_, ?_⟩
  · rw [List.append_assoc, strip, stripRight, ← List.reverse_append, List.takeWhile_append_dropWhile,
      List.reverse_reverse, stripLeft, List.takeWhile_append_dropWhile]
  · exact List.all_eq_true.1 List.all_takeWhile
  · intro c member
    exact List.all_eq_true.1 List.all_takeWhile c (List.mem_reverse.1 member)

theorem stops_strip (t : Text) : Stops isBlank (strip t) := by
  intro c first
  apply stops_dropWhile isBlank t
  obtain ⟨rest, whole⟩ := prefix_stripRight (stripLeft t)
  change strip t ++ rest = t.dropWhile isBlank at whole
  rw [← whole, List.head?_append, first, Option.some_or]

theorem stops_reverse_strip (t : Text) : Stops isBlank (strip t).reverse := by
  rw [strip, stripRight, List.reverse_reverse]
  exact stops_dropWhile isBlank (stripLeft t).reverse

end Stripping

end TagOrigin.Text
