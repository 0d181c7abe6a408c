import TagOrigin.Proofs.Environment

/-!
Loading variables files. What is set keeps its value, whether loading succeeds or not, and what is added
is defined by the file. Which variables a file defines does not depend on the environment, only their
values do; so a file that was loaded has nothing left to add.
-/
namespace TagOrigin

namespace Register

/-- Changing the values of a register before or after a write makes no difference. -/
theorem map_put {α β : Type} (f : α → β) (key : Text) (value : α) (r : Register α) :
    (put key value r).map (Prod.map id f) = put key (f value) (r.map (Prod.map id f)) := by
  induction r with
  | nil => rfl
  | cons entry r ih =>
    obtain ⟨k, v⟩ := entry
    by_cases same : k = key
    · simp [put, same]
    · simp [put, same, ih]

theorem mem_putAll {α : Type} {entry : Text × α} {entries : List (Text × α)} {r : Register α}
    (member : entry ∈ putAll entries r) : entry ∈ entries ∨ entry ∈ r := by
  induction entries generalizing r with
  | nil => exact .inr member
  | cons first entries ih =>
    rcases ih member with later | earlier
    · exact .inl (List.mem_cons_of_mem first later)
    · rcases mem_put earlier with rfl | kept
      · exact .inl List.mem_cons_self
      · exact .inr kept

end Register

namespace Variables

variable {isSet : Text → Option Text} {bindings : List Binding} {name value : Text}

/-- Which keys have a value is decided by the bindings alone. -/
theorem map_isSome_evaluate (isSet : Text → Option Text) (bindings : List Binding) :
    (evaluate isSet bindings).map (Prod.map id Option.isSome) =
      Register.putAll (bindings.map fun binding => (binding.key, binding.value.isSome)) [] := by
  rw [evaluate, Register.putAll, List.foldl_map]
  refine (List.foldl_hom (List.map (Prod.map id Option.isSome)) ?_).symm
  intro values binding
  rw [Register.map_put, Option.isSome_map]

theorem exists_mem_evaluate_iff (isSet : Text → Option Text) :
    (∃ value, (name, some value) ∈ evaluate isSet bindings) ↔
      (name, true) ∈ Register.putAll (bindings.map fun binding => (binding.key, binding.value.isSome)) [] := by
  rw [← map_isSome_evaluate isSet, List.mem_map]
  constructor
  · rintro ⟨value, member⟩
    exact ⟨_, member, rfl⟩
  · rintro ⟨⟨key, value⟩, member, same⟩
    obtain ⟨rfl, valued⟩ := Prod.mk.inj same
    obtain ⟨value, rfl⟩ := Option.isSome_iff_exists.1 valued
    exact ⟨value, member⟩

/-- A key with a value stands in a binding with a value. -/
theorem exists_binding_of_mem_evaluate (member : (name, some value) ∈ evaluate isSet bindings) :
    ∃ binding ∈ bindings, binding.key = name ∧ binding.value.isSome := by
  have written := (exists_mem_evaluate_iff isSet).1 ⟨value, member⟩
  rcases Register.mem_putAll written with listed | absent
  · obtain ⟨binding, inside, same⟩ := List.mem_map.1 listed
    exact ⟨binding, inside, (Prod.mk.inj same).1, (Prod.mk.inj same).2⟩
  · cases absent

end Variables

namespace Environment

variable {env after later : Environment} {values : Register (Option Text)} {fs : Files.FileSystem}
  {path : Files.Path} {name value : Text}

/-- What is set keeps its value. -/
def Keeps (env after : Environment) : Prop :=
  ∀ name value, env.get? name = some value → after.get? name = some value

theorem Keeps.refl (env : Environment) : env.Keeps env :=
  fun _ _ => id

theorem Keeps.trans (first : env.Keeps after) (second : after.Keeps later) : env.Keeps later :=
  fun name value found => second name value (first name value found)

/-- Setting a variable that is not set keeps the others. -/
theorem keeps_put (value : Text) (free : env.get? name = none) :
    env.Keeps (Register.put name value env) := by
  intro other kept found
  have different : other ≠ name := by
    rintro rfl
    cases free.symm.trans found
  exact (Register.get?_put_of_ne value env different).trans found

theorem keeps_adopt (env : Environment) (values : Register (Option Text)) :
    env.Keeps (env.adopt values).1 := by
  fun_induction adopt env values with
  | case1 => exact Keeps.refl _
  | case2 _ _ _ ih => exact ih
  | case3 _ _ _ _ _ _ _ ih => exact ih
  | case4 _ _ _ _ free _ done ih =>
    obtain ⟨_, rfl⟩ := set_eq_ok done
    exact (keeps_put _ free).trans ih
  | case5 => exact Keeps.refl _

/-- What is adopted is among the values. -/
theorem mem_of_adopt (found : (env.adopt values).1.get? name = some value) :
    env.get? name = some value ∨ (name, some value) ∈ values := by
  fun_induction adopt env values with
  | case1 => exact .inl found
  | case2 _ _ _ ih => exact (ih found).imp_right (List.mem_cons_of_mem _)
  | case3 _ _ _ _ _ _ _ ih => exact (ih found).imp_right (List.mem_cons_of_mem _)
  | case4 env key rest text free env' done ih =>
    obtain ⟨_, rfl⟩ := set_eq_ok done
    rcases ih found with written | later
    · by_cases same : name = key
      · subst same
        rw [Register.get?_put_self] at written
        exact .inr (Option.some.inj written ▸ List.mem_cons_self)
      · exact .inl ((Register.get?_put_of_ne text env same).symm.trans written)
    · exact .inr (List.mem_cons_of_mem _ later)
  | case5 => exact .inl found

/-- Adopting without failure sets everything that has a value. -/
theorem isSome_of_adopt (adopted : (env.adopt values).2 = none) (member : (name, some value) ∈ values) :
    ((env.adopt values).1.get? name).isSome := by
  fun_induction adopt env values with
  | case1 => cases member
  | case2 env key rest ih =>
    rcases List.mem_cons.1 member with same | later
    · cases same
    · exact ih adopted later
  | case3 env key assigned rest present found valued ih =>
    rcases List.mem_cons.1 member with same | later
    · cases same
      exact Option.isSome_iff_exists.2 ⟨present, keeps_adopt env rest _ _ found⟩
    · exact ih adopted later
  | case4 env key rest text free env' done ih =>
    rcases List.mem_cons.1 member with same | later
    · cases same
      obtain ⟨_, rfl⟩ := set_eq_ok done
      have written : Register.get? name (Register.put name value env) = some value :=
        Register.get?_put_self name value env
      exact Option.isSome_iff_exists.2 ⟨value, keeps_adopt _ rest _ _ written⟩
    · exact ih adopted later
  | case5 => cases adopted

/-- Where everything that has a value is set there is nothing to adopt. -/
theorem adopt_of_settled (settled : ∀ name value, (name, some value) ∈ values → (env.get? name).isSome) :
    env.adopt values = (env, none) := by
  fun_induction adopt env values with
  | case1 => rfl
  | case2 env key rest ih => exact ih fun name value member => settled name value (List.mem_cons_of_mem _ member)
  | case3 env key assigned rest present found valued ih =>
    exact ih fun name value member => settled name value (List.mem_cons_of_mem _ member)
  | case4 env key rest text free env' done ih =>
    exact absurd (settled key text List.mem_cons_self) (by simp [free])
  | case5 env key rest text free failure refused =>
    exact absurd (settled key text List.mem_cons_self) (by simp [free])

section Files

/-- A variables file gives a variable a value, with references read in an environment. -/
def Defines (fs : Files.FileSystem) (path : Files.Path) (env : Environment) (name value : Text) : Prop :=
  ∃ t, variablesText fs path = .ok t ∧
    (name, some value) ∈ Variables.evaluate env.get? (Variables.readBindings t) ∧
    ∃ binding ∈ Variables.readBindings t, binding.key = name ∧ binding.value.isSome

theorem keeps_load (env : Environment) (fs : Files.FileSystem) (path : Files.Path) :
    env.Keeps (env.load fs path).1 := by
  rw [load]
  split
  · exact Keeps.refl env
  · split
    · exact Keeps.refl env
    · exact keeps_adopt env _

/-- What is set behind loading was set before or is defined by the file. -/
theorem defines_of_load (found : (env.load fs path).1.get? name = some value) :
    env.get? name = some value ∨ Defines fs path env name value := by
  rw [load] at found
  split at found
  · exact .inl found
  · split at found
    · exact .inl found
    · next t read =>
      refine (mem_of_adopt found).imp_right fun member => ⟨t, read, member, ?_⟩
      exact Variables.exists_binding_of_mem_evaluate member

/-- A file that has been loaded and has not changed since has nothing left to add. -/
theorem load_again {fs' : Files.FileSystem} (loaded : env.load fs path = (after, none))
    (unchanged : variablesText fs' path = variablesText fs path) : after.load fs' path = (after, none) := by
  rw [load] at loaded
  split at loaded
  · next disabled =>
    obtain rfl := (Prod.mk.inj loaded).1
    rw [load, if_pos disabled]
  · split at loaded
    · cases loaded
    · next t read =>
      rw [load, unchanged, read]
      split
      · rfl
      · apply adopt_of_settled
        intro name value member
        obtain ⟨before, member⟩ := (Variables.exists_mem_evaluate_iff env.get?).2
          ((Variables.exists_mem_evaluate_iff after.get?).1 ⟨value, member⟩)
        have set := isSome_of_adopt (congrArg Prod.snd loaded) member
        rwa [loaded] at set

/-- No file lies where a path leads. -/
def LacksFile (fs : Files.FileSystem) (path : Files.Path) : Prop :=
  ∀ place contents readable, fs.locate path = .ok place →
    fs.node? place.location ≠ some (.file contents readable)

theorem variablesText_of_lacksFile (noNull : path.hasNull = false) (absent : LacksFile fs path) :
    variablesText fs path = .ok [] := by
  rw [variablesText, if_neg (by simp [noNull])]
  split
  · rfl
  · next place located =>
    split
    · next contents found => exact absurd found (absent place contents true located)
    · next contents found => exact absurd found (absent place contents false located)
    · rfl

end Files

end Environment

end TagOrigin
