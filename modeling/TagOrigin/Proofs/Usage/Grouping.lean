import Mathlib.Data.List.Basic
import Mathlib.Data.List.Induction
import TagOrigin.Proofs.Register
import TagOrigin.Proofs.Usage.Offsets

/-!
Usages by name. Grouping keeps every usage exactly once, keeps the order inside each group, and puts
the groups in the order of their first usages. With the account by offsets this says which usages a
text has, under which names and in which order, without lines, groups or a search.
-/
namespace TagOrigin

namespace Usage

/-- Groups for distinct names that cover all usages hold each usage once. -/
theorem perm_flatMap_filter {names : List Text} {us : List Usage} (nodup : names.Nodup)
    (covered : ∀ u ∈ us, u.name ∈ names) :
    (names.flatMap fun n => us.filter (·.name = n)).Perm us := by
  induction names generalizing us with
  | nil =>
    have none : us = [] := List.eq_nil_iff_forall_not_mem.2 fun u member => by
      cases covered u member
    subst none
    exact List.Perm.refl []
  | cons n names ih =>
    obtain ⟨absent, nodup⟩ := List.nodup_cons.1 nodup
    have others : ∀ u ∈ us.filter (¬ ·.name = n), u.name ∈ names := by
      intro u member
      obtain ⟨inside, different⟩ := List.mem_filter.1 member
      exact (List.mem_cons.1 (covered u inside)).resolve_left (of_decide_eq_true different)
    have groups : (names.flatMap fun m => us.filter (·.name = m)) =
        names.flatMap fun m => (us.filter (¬ ·.name = n)).filter (·.name = m) := by
      apply List.flatMap_congr
      intro m member
      have different : m ≠ n := fun same => absent (same ▸ member)
      rw [List.filter_filter]
      apply List.filter_congr
      intro u _
      by_cases same : u.name = m
      · simp [same, different]
      · simp [same]
    rw [List.flatMap_cons, groups]
    have rest := (ih nodup others).append_left (us.filter (·.name = n))
    exact rest.trans (by simpa using List.filter_append_perm (·.name = n) us)

/-- Adding a usage brings in its name, if it is new. -/
theorem keys_byName (us : List Usage) : Register.keys (byName us) = distinct (us.map name) := by
  induction us using List.reverseRecOn with
  | nil => rfl
  | append_singleton us u ih =>
    rw [byName, List.foldl_concat, ← byName, addTo, Register.keys_put, ih, List.map_append, List.map_singleton,
      distinct_concat]
    split
    · next known => rw [if_pos (mem_distinct.1 known)]
    · next new => rw [if_neg (mt mem_distinct.2 new)]

/-- Under each name stand its usages, in their order. -/
theorem get?_byName (us : List Usage) (n : Text) :
    (Register.get? n (byName us)).getD [] = us.filter (·.name = n) := by
  induction us using List.reverseRecOn with
  | nil => rfl
  | append_singleton us u ih =>
    rw [byName, List.foldl_concat, ← byName, addTo, List.filter_append]
    by_cases same : u.name = n
    · subst same
      rw [Register.get?_put_self, ih]
      simp
    · rw [Register.get?_put_of_ne _ _ (Ne.symm same), ih]
      simp [same]

/-- Usages that are added one after the other are grouped by their names. -/
theorem byName_eq (us : List Usage) :
    byName us = (distinct (us.map name)).map fun n => (n, us.filter (·.name = n)) := by
  have nodup : (Register.keys (byName us)).Nodup := by
    rw [keys_byName]
    exact nodup_distinct _
  rw [Register.eq_map_keys nodup [], keys_byName]
  exact List.map_congr_left fun n _ => by rw [get?_byName]

theorem perm_byName (us : List Usage) : ((byName us).flatMap Prod.snd).Perm us := by
  rw [byName_eq, List.flatMap_map]
  apply perm_flatMap_filter (nodup_distinct _)
  intro u member
  exact mem_distinct.2 (List.mem_map_of_mem member)

end Usage

theorem usageCount_eq_length (register : Register (List Usage)) :
    usageCount register = (register.flatMap Prod.snd).length := by
  induction register with
  | nil => rfl
  | cons entry register ih =>
    rw [List.flatMap_cons, List.length_append, ← ih]
    rfl

open Usage in
/-- The usages of a text are those at the offsets where tags open, once each and no others. They
stand under distinct names in the order of their first offsets, and no name stands without one. -/
theorem usages_by_offset (t : Text) (bindings : Option Import.Bindings) :
    let found := usages t (bindings.getD [])
    let usage := atOffset (fun name => bindings.bind (Register.get? name)) 1 t
    (found.flatMap Prod.snd).Perm ((offsets t).map usage) ∧
      usageCount found = (offsets t).length ∧
      (Register.keys found).Nodup ∧
      (∀ entry ∈ found, entry.2 ≠ [] ∧
        entry.2 = ((offsets t).filter fun i => nameAt t i = entry.1).map usage) ∧
      found.Pairwise fun earlier later =>
        ∃ i ∈ offsets t, nameAt t i = earlier.1 ∧
          ∀ j ∈ offsets t, nameAt t j = later.1 → i < j := by
  intro found usage
  have origins : usage = atOffset (Register.get? · (bindings.getD [])) 1 t := by
    cases bindings <;> rfl
  have all : ofText (bindings.getD []) t = (offsets t).map usage := by
    rw [origins]
    exact ofText_eq (bindings.getD []) t
  have grouped : found = byName ((offsets t).map usage) := congrArg byName all
  have names : ((offsets t).map usage).map Usage.name = (offsets t).map (nameAt t) := by
    rw [List.map_map]
    rfl
  have once : (found.flatMap Prod.snd).Perm ((offsets t).map usage) := grouped ▸ perm_byName _
  refine ⟨once, ?_, ?_, ?_, ?_⟩
  · rw [usageCount_eq_length, once.length_eq, List.length_map]
  · rw [grouped, keys_byName]
    exact nodup_distinct _
  · intro entry member
    rw [grouped, byName_eq] at member
    obtain ⟨n, occurs, rfl⟩ := List.mem_map.1 member
    obtain ⟨u, inside, same⟩ := List.mem_map.1 (mem_distinct.1 occurs)
    have listed : u ∈ ((offsets t).map usage).filter (·.name = n) :=
      List.mem_filter.2 ⟨inside, decide_eq_true same⟩
    exact ⟨List.ne_nil_of_mem listed, List.filter_map⟩
  · rw [grouped, byName_eq, names, List.pairwise_map]
    exact pairwise_distinct_map (pairwise_offsets t)

end TagOrigin
