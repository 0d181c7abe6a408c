import TagOrigin.Proofs.Files.Names
import TagOrigin.Proofs.Success

/-!
Resolution along a path. What a path leads to can be found step by step: resolving goes on from the
place that the path before led to, with the links that were left there. So entering a name of a
directory is the same as resolving the path of the entry from its beginning.
-/
namespace TagOrigin.Files.FileSystem

section Steps

variable {fs : FileSystem} {path : Path} {place : Place} {name : Text} {node : Node}

/-- Resolving goes on from where it came to, with the links that are left. -/
theorem resolve_append (fs : FileSystem) (budget : Nat) (location : Location)
    (parts more : List Text) :
    fs.resolve budget location (parts ++ more) =
      match fs.resolve budget location parts with
      | .error cause => .error cause
      | .ok place => fs.resolve place.budget place.location more := by
  fun_induction resolve fs budget location parts with
  | case1 => rfl
  | case2 budget location rest cause refused =>
    rw [List.cons_append, resolve, if_pos rfl, refused]
  | case3 budget location rest passed ih =>
    rw [List.cons_append, resolve, if_pos rfl, passed]
    exact ih
  | case4 budget location rest cause refused notPoint =>
    rw [List.cons_append, resolve, if_neg notPoint, if_pos rfl, refused]
  | case5 budget location rest passed notPoint ih =>
    rw [List.cons_append, resolve, if_neg notPoint, if_pos rfl, passed]
    exact ih
  | case6 budget location part rest notPoint notParent cause refused =>
    rw [List.cons_append, resolve, if_neg notPoint, if_neg notParent, refused]
  | case7 location part rest notPoint notParent target found =>
    rw [List.cons_append, resolve, if_neg notPoint, if_neg notParent, found]
  | case8 location part rest notPoint notParent target found budget ih =>
    rw [List.append_assoc] at ih
    rw [List.cons_append, resolve, if_neg notPoint, if_neg notParent, found]
    exact ih
  | case9 budget location part rest notPoint notParent node other found ih =>
    rw [List.cons_append, resolve, if_neg notPoint, if_neg notParent, found]
    cases node with
    | file contents readable => exact ih
    | directory readable searchable => exact ih
    | link target => exact (other target rfl).elim

/-- Entering a name resolves it as a path of one component. -/
theorem enter_eq_resolve (proper : IsName name) :
    fs.enter place name = fs.resolve place.budget place.location [name] := by
  rw [enter, resolve, if_neg proper.notPoint, if_neg proper.notParent]
  cases fs.child place.location name with
  | error cause => rfl
  | ok node =>
    cases node with
    | file contents readable => rw [resolve]
    | directory readable searchable => rw [resolve]
    | link target =>
      cases place.budget with
      | zero => rfl
      | succ budget => simp only [List.append_nil]

theorem resolve_of_locate (located : fs.locate path = .ok place) :
    fs.resolve linkLimit (fs.start path) path.parts = .ok place := by
  rw [locate] at located
  split at located
  · cases located
  · exact located

/-- The path of an entry leads to where entering its name leads to, unless it is too long. -/
theorem locate_child (proper : IsName name) (located : fs.locate path = .ok place) :
    fs.locate (path.child name) =
      if (path.child name).isTooLong then .error .nameTooLong else fs.enter place name := by
  have resolved := resolve_of_locate located
  have begins : fs.start (path.child name) = fs.start path := rfl
  rw [locate, begins, enter_eq_resolve proper, Path.child, resolve_append, resolved]

/-- A path of one component leads to where entering that name leads to. -/
theorem locate_of_single (name : Text) (short : path.isTooLong = false) (single : path.parts = [name])
    (proper : IsName name) : fs.locate path = fs.enter ⟨fs.start path, linkLimit⟩ name := by
  rw [locate, if_neg (by simp [short]), single, enter_eq_resolve proper]

theorem node?_of_child {location : Location} (found : fs.child location name = .ok node) :
    fs.node? (location ++ [name]) = some node := by
  unfold child at found
  obtain ⟨_, _, found⟩ := bind_eq_ok_iff.1 found
  split at found
  · cases found
  · split at found
    · next there => exact there.trans (congrArg some (Except.ok.inj found))
    · cases found

/-- Nothing is resolved through a component that no name can be. -/
theorem noNull_of_resolve (proper : fs.IsProper) {budget : Nat} {location : Location}
    {parts : List Text} (resolved : fs.resolve budget location parts = .ok place) :
    ∀ part ∈ parts, Char.ofNat 0 ∉ part := by
  fun_induction resolve fs budget location parts with
  | case1 => simp
  | case2 => cases resolved
  | case3 _ _ _ _ ih => exact List.forall_mem_cons.2 ⟨by decide, ih resolved⟩
  | case4 => cases resolved
  | case5 _ _ _ _ _ ih => exact List.forall_mem_cons.2 ⟨by decide, ih resolved⟩
  | case6 => cases resolved
  | case7 => cases resolved
  | case8 _ _ _ _ _ _ found _ ih =>
    refine List.forall_mem_cons.2 ⟨(proper.isName (node?_of_child found)).noNull, ?_⟩
    exact (List.forall_mem_append.1 (ih resolved)).2
  | case9 _ _ _ _ _ _ _ _ found ih =>
    exact List.forall_mem_cons.2 ⟨(proper.isName (node?_of_child found)).noNull, ih resolved⟩

theorem hasNull_of_locate (proper : fs.IsProper) (located : fs.locate path = .ok place) :
    path.hasNull = false := by
  have noNull := noNull_of_resolve proper (resolve_of_locate located)
  simpa [Path.hasNull] using noNull

end Steps

section Causes

variable {fs : FileSystem} {location : Location} {cause : Cause}

/-- The causes that can end a resolution. -/
def EndsResolution (cause : Cause) : Prop :=
  cause = .permissionDenied ∨ cause = .nameTooLong ∨ cause.meansAbsent = true

theorem endsResolution_of_passable (refused : fs.passable location = .error cause) :
    EndsResolution cause := by
  unfold passable at refused
  split at refused
  · split at refused <;> cases refused
    exact .inl rfl
  · cases refused
    exact .inr (.inr rfl)
  · cases refused
    exact .inr (.inr rfl)

theorem endsResolution_of_child {name : Text} (refused : fs.child location name = .error cause) :
    EndsResolution cause := by
  unfold child at refused
  cases passed : fs.passable location with
  | error first =>
    simp only [passed, bind, Except.bind, Except.error.injEq] at refused
    exact refused ▸ endsResolution_of_passable passed
  | ok _ =>
    simp only [passed, bind, Except.bind] at refused
    split at refused
    · cases refused
      exact .inr (.inl rfl)
    · split at refused <;> cases refused
      exact .inr (.inr rfl)

theorem endsResolution_of_resolve {budget : Nat} {parts : List Text}
    (refused : fs.resolve budget location parts = .error cause) : EndsResolution cause := by
  fun_induction resolve fs budget location parts with
  | case1 => cases refused
  | case2 _ _ _ _ first => cases refused; exact endsResolution_of_passable first
  | case3 _ _ _ _ ih => exact ih refused
  | case4 _ _ _ _ first => cases refused; exact endsResolution_of_passable first
  | case5 _ _ _ _ _ ih => exact ih refused
  | case6 _ _ _ _ _ _ _ first => cases refused; exact endsResolution_of_child first
  | case7 => cases refused; exact .inr (.inr rfl)
  | case8 _ _ _ _ _ _ _ _ ih => exact ih refused
  | case9 _ _ _ _ _ _ _ _ _ ih => exact ih refused

theorem endsResolution_of_locate {path : Path} (refused : fs.locate path = .error cause) :
    EndsResolution cause := by
  rw [locate] at refused
  split at refused
  · cases refused
    exact .inr (.inl rfl)
  · exact endsResolution_of_resolve refused

end Causes

section Directories

variable {fs : FileSystem} {path : Path}

/-- A path leads to a directory. -/
def LeadsToDirectory (fs : FileSystem) (path : Path) : Prop :=
  ∃ place, fs.locate path = .ok place ∧ fs.isDirectoryAt place.location = true

/-- Nothing keeps it from being found out what a path leads to: no directory on its way is closed to
the user, and no name is too long. -/
def Examinable (fs : FileSystem) (path : Path) : Prop :=
  fs.locate path ≠ .error .permissionDenied ∧ fs.locate path ≠ .error .nameTooLong

theorem examinable_of_leadsToDirectory (leads : fs.LeadsToDirectory path) : fs.Examinable path := by
  obtain ⟨place, located, _⟩ := leads
  rw [Examinable, located]
  exact ⟨nofun, nofun⟩

theorem cause_of_not_examinable {cause : Cause} (refused : fs.locate path = .error cause)
    (hidden : ¬ fs.Examinable path) : cause = .permissionDenied ∨ cause = .nameTooLong := by
  rw [Examinable, refused] at hidden
  by_contra other
  obtain ⟨notDenied, notLong⟩ := not_or.1 other
  exact hidden ⟨fun same => notDenied (Except.error.inj same),
    fun same => notLong (Except.error.inj same)⟩

/-- The three answers to whether a path leads to a directory. -/
theorem isDirectory_cases (fs : FileSystem) (clean : path.hasNull = false) :
    (fs.isDirectory path = .ok true ∧ fs.LeadsToDirectory path) ∨
      (fs.isDirectory path = .ok false ∧ ¬ fs.LeadsToDirectory path ∧ fs.Examinable path) ∨
      ∃ cause, fs.isDirectory path = .error { cause, path := path.text } ∧
        fs.locate path = .error cause ∧ ¬ fs.LeadsToDirectory path ∧ ¬ fs.Examinable path := by
  unfold isDirectory LeadsToDirectory Examinable
  rw [if_neg (by simp [clean])]
  cases located : fs.locate path with
  | ok place =>
    cases directory : fs.isDirectoryAt place.location with
    | true => simp [directory]
    | false => simp [directory]
  | error cause =>
    rcases endsResolution_of_locate located with rfl | rfl | absent
    · simp [Cause.meansAbsent]
    · simp [Cause.meansAbsent]
    · have notDenied : cause ≠ .permissionDenied := by rintro rfl; cases absent
      have notLong : cause ≠ .nameTooLong := by rintro rfl; cases absent
      simp [absent, notDenied, notLong]

end Directories

end TagOrigin.Files.FileSystem
