import TagOrigin.Distinct
import TagOrigin.Register

/-!
Orders of first occurrence. `distinct` keeps each member where it stands first, and a register built
from a sequence of entries has the distinct keys of the sequence as its keys, in that order.
-/
namespace TagOrigin

section Distinct

variable {α : Type} [DecidableEq α]

theorem distinct_eq_self {l : List α} (nodup : l.Nodup) : distinct l = l := by
  induction l with
  | nil => rfl
  | cons a l ih =>
    obtain ⟨absent, nodup⟩ := List.nodup_cons.1 nodup
    rw [distinct, ih nodup, List.filter_eq_self.2]
    intro b member
    exact decide_eq_true fun same => absent (same ▸ member)

/-- What comes later only adds what has not been seen. -/
theorem distinct_append (l m : List α) :
    distinct (l ++ m) = distinct l ++ (distinct m).filter (· ∉ l) := by
  induction l with
  | nil => exact (List.filter_eq_self.2 fun b _ => by simp).symm
  | cons a l ih =>
    have twice : ((distinct m).filter (· ∉ l)).filter (· ≠ a) =
        (distinct m).filter (· ∉ a :: l) := by
      rw [List.filter_filter]
      apply List.filter_congr
      intro b _
      simp [not_or]
    rw [List.cons_append, distinct, ih, List.filter_append, twice, distinct, List.cons_append]

theorem distinct_concat (l : List α) (a : α) :
    distinct (l ++ [a]) = if a ∈ l then distinct l else distinct l ++ [a] := by
  rw [distinct_append]
  split
  · next seen => simp [distinct, seen]
  · next unseen => simp [distinct, unseen]

/-- The members of an image stand in the order of their first arguments. -/
theorem pairwise_distinct_map {f : Nat → α} {l : List Nat} (increasing : l.Pairwise (· < ·)) :
    (distinct (l.map f)).Pairwise fun a b => ∃ i ∈ l, f i = a ∧ ∀ j ∈ l, f j = b → i < j := by
  induction l with
  | nil => exact List.Pairwise.nil
  | cons i l ih =>
    obtain ⟨first, increasing⟩ := List.pairwise_cons.1 increasing
    rw [List.map_cons, distinct]
    refine List.pairwise_cons.2 ⟨?_, ?_⟩
    · intro b member
      have different : b ≠ f i := by simpa using (List.mem_filter.1 member).2
      refine ⟨i, List.mem_cons_self, rfl, ?_⟩
      intro j inside same
      rcases List.mem_cons.1 inside with rfl | later
      · exact absurd same.symm different
      · exact first j later
    · refine ((ih increasing).filter _).imp_of_mem ?_
      rintro a b _ member ⟨i', inside, same, before⟩
      have different : b ≠ f i := by simpa using (List.mem_filter.1 member).2
      refine ⟨i', List.mem_cons_of_mem i inside, same, ?_⟩
      intro j inside' same'
      rcases List.mem_cons.1 inside' with rfl | later
      · exact absurd same'.symm different
      · exact before j later same'

end Distinct

namespace Register

variable {α : Type}

theorem mem_of_get? {key : Text} {value : α} {r : Register α} (found : get? key r = some value) :
    (key, value) ∈ r := by
  induction r with
  | nil => cases found
  | cons entry r ih =>
    obtain ⟨k, v⟩ := entry
    rw [get?] at found
    split at found
    · next same =>
      cases found
      exact same ▸ List.mem_cons_self
    · exact List.mem_cons_of_mem _ (ih found)

/-- A register answers for its keys and for no other text. -/
theorem isSome_get?_iff {key : Text} {r : Register α} : (get? key r).isSome ↔ key ∈ keys r := by
  induction r with
  | nil => simp [get?, keys]
  | cons entry r ih =>
    obtain ⟨k, v⟩ := entry
    by_cases same : k = key
    · simp [get?, keys, same]
    · rw [get?, if_neg same, ih]
      simp [keys, Ne.symm same]

/-- A register with distinct keys is told by its keys and what it answers for them. -/
theorem eq_map_keys {r : Register α} (nodup : (keys r).Nodup) (default : α) :
    r = (keys r).map fun key => (key, (get? key r).getD default) := by
  induction r with
  | nil => rfl
  | cons entry r ih =>
    obtain ⟨k, v⟩ := entry
    obtain ⟨absent, nodup⟩ := List.nodup_cons.1 nodup
    have later : ∀ key ∈ keys r, (key, (get? key ((k, v) :: r)).getD default) =
        (key, (get? key r).getD default) := by
      intro key member
      have different : k ≠ key := fun same => absent (same ▸ member)
      rw [get?, if_neg different]
    have first : get? k ((k, v) :: r) = some v := by rw [get?, if_pos rfl]
    have split : keys ((k, v) :: r) = k :: keys r := rfl
    rw [split, List.map_cons, first, List.map_congr_left later, ← ih nodup]
    rfl

@[simp] theorem get?_erase_self (key : Text) (r : Register α) : get? key (erase key r) = none := by
  induction r with
  | nil => rfl
  | cons entry r ih =>
    obtain ⟨k, v⟩ := entry
    by_cases same : k = key
    · rwa [erase, List.filter_cons_of_neg (by simpa using same)]
    · rwa [erase, List.filter_cons_of_pos (by simpa using same), get?, if_neg same]

theorem get?_erase_of_ne {key other : Text} (r : Register α) (different : other ≠ key) :
    get? other (erase key r) = get? other r := by
  induction r with
  | nil => rfl
  | cons entry r ih =>
    obtain ⟨k, v⟩ := entry
    by_cases same : k = key
    · subst same
      rw [erase, List.filter_cons_of_neg (by simp), get?, if_neg different.symm]
      exact ih
    · rw [erase, List.filter_cons_of_pos (by simpa using same), get?, get?]
      split
      · rfl
      · exact ih

theorem get?_put_eq_get?_erase {key other : Text} (value : α) (r : Register α)
    (different : other ≠ key) : get? other (put key value r) = get? other (erase key r) := by
  rw [get?_put_of_ne value r different, get?_erase_of_ne r different]

/-- A write brings in the written entry and no other. -/
theorem mem_put {key : Text} {value : α} {entry : Text × α} {r : Register α}
    (member : entry ∈ put key value r) : entry = (key, value) ∨ entry ∈ r := by
  induction r with
  | nil => exact .inl (List.mem_singleton.1 member)
  | cons other r ih =>
    obtain ⟨k, v⟩ := other
    rw [put] at member
    split at member
    · rcases List.mem_cons.1 member with written | kept
      · exact .inl written
      · exact .inr (List.mem_cons_of_mem _ kept)
    · rcases List.mem_cons.1 member with rfl | later
      · exact .inr List.mem_cons_self
      · exact (ih later).imp_right (List.mem_cons_of_mem _)

/-- The keys of a register that entries are written into, in the order of first occurrence. -/
theorem keys_putAll (entries : List (Text × α)) {r : Register α} (nodup : (keys r).Nodup) :
    keys (putAll entries r) = distinct (keys r ++ entries.map Prod.fst) := by
  induction entries generalizing r with
  | nil => rw [List.map_nil, List.append_nil, distinct_eq_self nodup]; rfl
  | cons entry entries ih =>
    obtain ⟨key, value⟩ := entry
    have step : keys (putAll ((key, value) :: entries) r) =
        distinct (keys (put key value r) ++ entries.map Prod.fst) :=
      ih (nodup_keys_put key value nodup)
    rw [step, keys_put, List.map_cons]
    split
    · next present =>
      rw [distinct_append, distinct_append, distinct,
        List.filter_cons_of_neg (by simpa using present), List.filter_filter]
      congr 1
      apply List.filter_congr
      intro other _
      by_cases same : other = key
      · simp [same, present]
      · simp [same]
    · rw [List.append_assoc, List.singleton_append]

/-- Writing one value under several keys. -/
theorem get?_putAll_const (names : List Text) (value : α) (r : Register α) (name : Text) :
    get? name (putAll (names.map fun n => (n, value)) r) =
      if name ∈ names then some value else get? name r := by
  induction names generalizing r with
  | nil => rfl
  | cons n names ih =>
    have step : get? name (putAll ((n :: names).map fun n => (n, value)) r) =
        if name ∈ names then some value else get? name (put n value r) := ih (put n value r)
    rw [step]
    by_cases later : name ∈ names
    · rw [if_pos later, if_pos (List.mem_cons_of_mem n later)]
    · rw [if_neg later]
      by_cases same : name = n
      · subst same
        rw [get?_put_self, if_pos List.mem_cons_self]
      · rw [get?_put_of_ne value r same, if_neg]
        simp [same, later]

end Register

end TagOrigin
