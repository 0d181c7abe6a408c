import TagOrigin.Proofs.Files.Resolution
import TagOrigin.Proofs.Register
import TagOrigin.Settings

/-!
Proper environments. Variables have names and values that the operating system can keep. Setting a
variable, loading a variables file and making a configuration lead from proper environments to proper
ones, whether they succeed or not. So the encoding of a configuration has a name that files can be
opened with, and it is one that is known.
-/
namespace TagOrigin

/-- A name and a value that the operating system can keep. -/
structure IsVariable (name value : Text) : Prop where
  noNull : Char.ofNat 0 ∉ name
  noNullValue : Char.ofNat 0 ∉ value

instance (name value : Text) : Decidable (IsVariable name value) :=
  decidable_of_iff (Char.ofNat 0 ∉ name ∧ Char.ofNat 0 ∉ value)
    ⟨fun ⟨noNull, noNullValue⟩ => { noNull, noNullValue }, fun h => ⟨h.noNull, h.noNullValue⟩⟩

namespace Environment

/-- Every entry is a variable. -/
def IsProper (env : Environment) : Prop :=
  ∀ entry ∈ env, IsVariable entry.1 entry.2

instance (env : Environment) : Decidable env.IsProper :=
  inferInstanceAs (Decidable (∀ entry ∈ env, IsVariable entry.1 entry.2))

variable {env after : Environment} {name value : Text}

theorem set_eq_ok (done : env.set name value = .ok after) :
    IsVariable name value ∧ after = env.put name value := by
  rw [set] at done
  split at done
  · cases done
  · next clean =>
    split at done
    · cases done
    · split at done
      · cases done
      · simp only [Bool.or_eq_true, List.contains_iff_mem, not_or] at clean
        exact ⟨⟨clean.1, clean.2⟩, (Except.ok.inj done).symm⟩

theorem IsProper.put (proper : env.IsProper) (isVariable : IsVariable name value) :
    IsProper (Register.put name value env) := by
  intro entry member
  rcases Register.mem_put member with rfl | kept
  · exact isVariable
  · exact proper entry kept

theorem IsProper.set (proper : env.IsProper) (done : env.set name value = .ok after) :
    after.IsProper := by
  obtain ⟨isVariable, rfl⟩ := set_eq_ok done
  exact proper.put isVariable

theorem IsProper.erase (proper : env.IsProper) (name : Text) :
    IsProper (Register.erase name env) :=
  fun entry member => proper entry (List.mem_filter.1 member).1

/-- What is adopted before a failure is as proper as what is adopted without one. -/
theorem IsProper.adopt (proper : env.IsProper) (values : Register (Option Text)) :
    (env.adopt values).1.IsProper := by
  fun_induction Environment.adopt env values with
  | case1 => exact proper
  | case2 _ _ _ ih => exact ih proper
  | case3 _ _ _ _ _ _ _ ih => exact ih proper
  | case4 _ _ _ _ _ _ done ih => exact ih (proper.set done)
  | case5 => exact proper

theorem IsProper.load (proper : env.IsProper) (fs : Files.FileSystem) (path : Files.Path) :
    (env.load fs path).1.IsProper := by
  rw [Environment.load]
  split
  · exact proper
  · split
    · exact proper
    · exact proper.adopt _

/-- A variables file without text leaves the environment as it is. -/
theorem load_of_empty {fs : Files.FileSystem} {path : Files.Path}
    (empty : variablesText fs path = .ok []) : env.load fs path = (env, none) := by
  rw [Environment.load, empty]
  split
  · rfl
  · rfl

theorem IsProper.noNull_of_get? (proper : env.IsProper) (found : env.get? name = some value) :
    Char.ofNat 0 ∉ value :=
  (proper (name, value) (Register.mem_of_get? found)).noNullValue

end Environment

namespace Settings

variable {fs : Files.FileSystem} {file : Option Files.Path} {env : Environment} {settings : Settings}

theorem isProper_configure (proper : env.IsProper) (fs : Files.FileSystem)
    (file : Option Files.Path) : (configure fs file env).1.IsProper := by
  have loaded := proper.load fs (file.getD defaultFile)
  rw [configure]
  split
  · next same => rwa [same] at loaded
  · next same => rwa [same] at loaded

theorem configure_of_empty (empty : Environment.variablesText fs (file.getD defaultFile) = .ok []) :
    configure fs file env = (env, (ofEnvironment env).check) := by
  rw [configure, Environment.load_of_empty empty]

/-- In an empty directory there is no variables file. -/
theorem configure_in_empty (env : Environment) :
    configure .empty none env = (env, (ofEnvironment env).check) := by
  have missing : Files.FileSystem.empty.locate defaultFile = .error .notFound :=
    Files.FileSystem.locate_of_single ".env".toList (by decide) rfl (by decide)
  refine configure_of_empty ?_
  rw [Option.getD_none, Environment.variablesText, if_neg (by decide), missing]

theorem check_eq_ok {checked : Settings} (passed : settings.check = .ok checked) :
    checked = settings ∧ settings.extensions.all isDotted ∧
      ∃ codec, Encoding.find? settings.encoding = some codec := by
  rw [check] at passed
  split at passed
  · next dotted =>
    split at passed
    · next codec known =>
      refine ⟨(Except.ok.inj passed).symm, ?_, codec, known⟩
      simpa [List.filter_eq_nil_iff] using dotted
    · cases passed
  · cases passed

/-- A configuration shows the environment that it leaves behind, and passes its checks. -/
theorem configure_eq_ok (configured : (configure fs file env).2 = .ok settings) :
    settings = ofEnvironment (configure fs file env).1 ∧ settings.extensions.all isDotted ∧
      ∃ codec, Encoding.find? settings.encoding = some codec := by
  rw [configure] at configured ⊢
  split at configured
  · cases configured
  · obtain ⟨rfl, dotted, known⟩ := check_eq_ok configured
    exact ⟨rfl, dotted, known⟩

/-- Files can be opened with the encoding that an environment names. -/
theorem noNull_encoding (proper : env.IsProper) :
    Char.ofNat 0 ∉ (ofEnvironment env).encoding := by
  show Char.ofNat 0 ∉ (env.get? "TAGSCOPE_ENCODING".toList).getD "utf-8".toList
  cases found : env.get? "TAGSCOPE_ENCODING".toList with
  | none => decide
  | some name => exact proper.noNull_of_get? found

end Settings

end TagOrigin
