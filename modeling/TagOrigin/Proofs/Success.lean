/-!
Requests that can fail, one after the other. They succeed exactly if each of them does, and a result that
was made from another one comes from a success.
-/
namespace TagOrigin

variable {ε α β γ : Type} {x : Except ε α} {b : β}

theorem bind_eq_ok_iff {next : α → Except ε β} :
    x >>= next = .ok b ↔ ∃ a, x = .ok a ∧ next a = .ok b := by
  cases x with
  | error fault => simp [bind, Except.bind]
  | ok a => simp [bind, Except.bind]

theorem map_eq_ok_iff {f : α → β} : x.map f = .ok b ↔ ∃ a, x = .ok a ∧ f a = b := by
  cases x with
  | error fault => simp [Except.map]
  | ok a => simp [Except.map]

theorem mapError_eq_ok_iff {f : ε → γ} {a : α} : x.mapError f = .ok a ↔ x = .ok a := by
  cases x with
  | error fault => exact ⟨nofun, nofun⟩
  | ok other =>
    constructor
    · intro success
      exact congrArg Except.ok (Except.ok.inj success)
    · intro success
      exact congrArg Except.ok (Except.ok.inj success)

/-- What is made from results that are the same but for their faults is the same but for its faults. -/
theorem toOption_map (f : α → β) {y : Except γ α} (same : x.toOption = y.toOption) :
    (x.map f).toOption = (y.map f).toOption := by
  cases x with
  | error _ => cases y with
    | error _ => rfl
    | ok _ => cases same
  | ok _ => cases y with
    | error _ => cases same
    | ok _ => exact congrArg (Option.map f) same

end TagOrigin
