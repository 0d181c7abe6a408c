import Mathlib.Data.List.Lex
import TagOrigin.Text

/-!
The order of texts: by the code points of the first characters in which they differ, and a text
before everything that it begins. Sequences of texts are ordered in the same way by their first
different members, so `a/b` comes before `a.b` although a point comes before a slash.
-/
namespace TagOrigin.Text

/-- Strictly before, by the code points of the characters. -/
def Before : Text → Text → Prop :=
  List.Lex fun a b => a.toNat < b.toNat

/-- Strictly before, by the members of the sequences. -/
def AllBefore : List Text → List Text → Prop :=
  List.Lex Before

instance : Std.Asymm fun a b : Char => a.toNat < b.toNat :=
  ⟨fun _ _ => Nat.lt_asymm⟩

theorem Before.asymm {s t : Text} (before : Before s t) : ¬ Before t s :=
  (List.Lex.asymm fun a b : Char => a.toNat < b.toNat).asymm s t before

theorem Before.ne {s t : Text} (before : Before s t) : s ≠ t := by
  rintro rfl
  exact before.asymm before

theorem Before.trans {s t u : Text} (first : Before s t) (second : Before t u) : Before s u := by
  induction first generalizing u with
  | nil => cases second <;> exact .nil
  | cons _ ih =>
    cases second with
    | cons later => exact .cons (ih later)
    | rel less => exact .rel less
  | rel less =>
    cases second with
    | cons _ => exact .rel less
    | rel less' => exact .rel (Nat.lt_trans less less')

theorem before_cons_iff {a b : Char} {s t : Text} :
    Before (a :: s) (b :: t) ↔ a.toNat < b.toNat ∨ a = b ∧ Before s t := by
  constructor
  · intro before
    cases before with
    | rel less => exact .inl less
    | cons later => exact .inr ⟨rfl, later⟩
  · rintro (less | ⟨rfl, later⟩)
    · exact .rel less
    · exact .cons later

/-- Of two texts one is the other or comes before it. -/
theorem before_trichotomy (s t : Text) : s = t ∨ Before s t ∨ Before t s := by
  induction s generalizing t with
  | nil =>
    cases t with
    | nil => exact .inl rfl
    | cons b t => exact .inr (.inl .nil)
  | cons a s ih =>
    cases t with
    | nil => exact .inr (.inr .nil)
    | cons b t =>
      rcases Nat.lt_trichotomy a.toNat b.toNat with less | same | greater
      · exact .inr (.inl (.rel less))
      · obtain rfl := Char.toNat_inj.1 same
        exact (ih t).imp (congrArg (a :: ·)) (Or.imp .cons .cons)
      · exact .inr (.inr (.rel greater))

theorem precedes_iff {s t : Text} : precedes s t = true ↔ s = t ∨ Before s t := by
  induction s generalizing t with
  | nil =>
    cases t with
    | nil => exact iff_of_true rfl (.inl rfl)
    | cons b t => exact iff_of_true rfl (.inr .nil)
  | cons a s ih =>
    cases t with
    | nil => simp [precedes, Before]
    | cons b t =>
      rw [before_cons_iff]
      by_cases same : a = b
      · subst same
        simp [precedes, ih]
      · simp [precedes, same]

theorem precedes_trans (s t u : Text) (first : precedes s t = true) (second : precedes t u = true) :
    precedes s u = true := by
  rw [precedes_iff] at first second ⊢
  rcases first with rfl | first
  · exact second
  · rcases second with rfl | second
    · exact .inr first
    · exact .inr (first.trans second)

theorem precedes_total (s t : Text) : (precedes s t || precedes t s) = true := by
  rw [Bool.or_eq_true, precedes_iff, precedes_iff]
  rcases before_trichotomy s t with same | before | behind
  · exact .inl (.inl same)
  · exact .inl (.inr before)
  · exact .inr (.inr behind)

end TagOrigin.Text
