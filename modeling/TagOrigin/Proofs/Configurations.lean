import TagOrigin.Proofs.Environment.Loading

/-!
Runs of configurations. Every call may find other files than the one before it, and some of them fail. What
one call does is said once, for its three outcomes; from this follows what a whole run keeps: a variable has
the first value that it gets, a configuration that was made can be made again without a change, and the
shared configuration stays the one that was made first until it is forgotten.
-/
namespace TagOrigin.Configurator

open Environment (Defines variablesText)

/-- A call on the configurations of a process. -/
inductive Call where
  | configure (file : Option Files.Path)
  | share
  | reset
  deriving DecidableEq, Repr

/-- The variables file that a call reads, if it reads one. -/
def Call.path : Call → Files.Path
  | .configure file => file.getD Settings.defaultFile
  | .share | .reset => Settings.defaultFile

/-- What a call leaves behind, whether it succeeds or fails. -/
def Call.behind (p : Configurator) (fs : Files.FileSystem) : Call → Configurator
  | .configure file => (p.configure fs file).1
  | .share => (p.share fs).1
  | .reset => p.reset

/-- What a run of calls leaves behind. Each call finds the files of its time. -/
def after (p : Configurator) : List (Files.FileSystem × Call) → Configurator
  | [] => p
  | (fs, call) :: rest => after (call.behind p fs) rest

/-- No configuration has been made yet. -/
def start (env : Environment) : Configurator :=
  { env, made := 0, shared := none }

section Calls

variable {p q : Configurator} {fs fs' : Files.FileSystem} {file : Option Files.Path} {call : Call}
  {settings : Settings} {number : Nat} {name value : Text}

/-- Making a configuration loads its file. It succeeds if this does and the settings pass the check, and
then it takes the next number. -/
theorem configure_cases (p : Configurator) (fs : Files.FileSystem) (file : Option Files.Path) :
    (∃ env settings, p.env.load fs (file.getD Settings.defaultFile) = (env, none) ∧
        (Settings.ofEnvironment env).check = .ok settings ∧
        p.configure fs file = ({ p with env, made := p.made + 1 }, .ok (p.made, settings))) ∨
      ∃ failure, p.configure fs file =
        ({ p with env := (p.env.load fs (file.getD Settings.defaultFile)).1 }, .error failure) := by
  rw [configure, Settings.configure]
  cases load : p.env.load fs (file.getD Settings.defaultFile) with
  | mk env fault =>
    cases fault with
    | some failure => exact .inr ⟨failure, rfl⟩
    | none =>
      cases checked : (Settings.ofEnvironment env).check with
      | error failure => exact .inr ⟨failure, by simp only [checked]⟩
      | ok settings => exact .inl ⟨env, settings, rfl, checked, by simp only [checked]⟩

theorem configure_of_check {env : Environment}
    (load : p.env.load fs (file.getD Settings.defaultFile) = (env, none))
    (passed : (Settings.ofEnvironment env).check = .ok settings) :
    p.configure fs file = ({ p with env, made := p.made + 1 }, .ok (p.made, settings)) := by
  simp only [configure, Settings.configure, load, passed]

/-- The shared configuration is there, or it is made now, or making it fails. -/
theorem share_cases (p : Configurator) (fs : Files.FileSystem) :
    (∃ number, p.shared = some number ∧
        p.share fs = (p, .ok (number, Settings.ofEnvironment p.env))) ∨
      p.shared = none ∧
        ((∃ env settings, p.env.load fs Settings.defaultFile = (env, none) ∧
            p.share fs = ({ env, made := p.made + 1, shared := some p.made }, .ok (p.made, settings))) ∨
          ∃ failure, p.share fs =
            ({ p with env := (p.env.load fs Settings.defaultFile).1 }, .error failure)) := by
  rw [share]
  cases shared : p.shared with
  | some number => exact .inl ⟨number, rfl, rfl⟩
  | none =>
    refine .inr ⟨rfl, ?_⟩
    rcases configure_cases p fs none with ⟨env, settings, load, _, made⟩ | ⟨failure, failed⟩
    · exact .inl ⟨env, settings, load, by simp only [made]⟩
    · exact .inr ⟨failure, by simp only [failed, Option.getD_none, shared]⟩

theorem env_configure (p : Configurator) (fs : Files.FileSystem) (file : Option Files.Path) :
    (p.configure fs file).1.env = (p.env.load fs (file.getD Settings.defaultFile)).1 := by
  rcases configure_cases p fs file with ⟨env, settings, load, _, made⟩ | ⟨failure, failed⟩
  · rw [made, load]
  · rw [failed]

/-- A call leaves the environment as it is, or it loads its variables file into it. -/
theorem env_behind (p : Configurator) (fs : Files.FileSystem) (call : Call) :
    (call.behind p fs).env = p.env ∨ (call.behind p fs).env = (p.env.load fs call.path).1 := by
  cases call with
  | configure file => exact .inr (env_configure p fs file)
  | reset => exact .inl rfl
  | share =>
    rw [Call.behind, Call.path]
    rcases share_cases p fs with ⟨_, _, same⟩ | ⟨_, ⟨_, _, load, made⟩ | ⟨_, failed⟩⟩
    · exact .inl (by rw [same])
    · exact .inr (by rw [made, load])
    · exact .inr (by rw [failed])

/-- A call keeps what is set and adds only what its file defines. -/
theorem keeps_behind (p : Configurator) (fs : Files.FileSystem) (call : Call) :
    p.env.Keeps (call.behind p fs).env ∧
      ∀ name value, (call.behind p fs).env.get? name = some value →
        p.env.get? name = some value ∨ Defines fs call.path p.env name value := by
  rcases env_behind p fs call with same | same
  · rw [same]
    exact ⟨Environment.Keeps.refl p.env, fun name value found => .inl found⟩
  · rw [same]
    exact ⟨Environment.keeps_load p.env fs call.path, fun name value => Environment.defines_of_load⟩

/-- Making a configuration again, with its file as it was, changes nothing. -/
theorem configure_again (made : p.configure fs file = (q, .ok (number, settings)))
    (unchanged : variablesText fs' (file.getD Settings.defaultFile) =
      variablesText fs (file.getD Settings.defaultFile)) :
    q.configure fs' file = ({ q with made := q.made + 1 }, .ok (q.made, settings)) := by
  rcases configure_cases p fs file with ⟨env, checked, load, passed, same⟩ | ⟨failure, failed⟩
  · obtain ⟨rfl, answer⟩ := Prod.mk.inj (same.symm.trans made)
    obtain ⟨_, rfl⟩ := Prod.mk.inj (Except.ok.inj answer)
    exact configure_of_check (Environment.load_again load unchanged) passed
  · cases (Prod.mk.inj (failed.symm.trans made)).2

/-- The shared configuration is one of those that have been made. -/
def IsCounted (p : Configurator) : Prop :=
  ∀ number, p.shared = some number → number < p.made

theorem IsCounted.behind (counted : p.IsCounted) (fs : Files.FileSystem) (call : Call) :
    (call.behind p fs).IsCounted := by
  intro number shared
  cases call with
  | reset => cases shared
  | configure file =>
    rw [Call.behind] at shared ⊢
    rcases configure_cases p fs file with ⟨_, _, _, _, made⟩ | ⟨_, failed⟩
    · rw [made] at shared ⊢
      exact Nat.lt_succ_of_lt (counted number shared)
    · rw [failed] at shared ⊢
      exact counted number shared
  | share =>
    rw [Call.behind] at shared ⊢
    rcases share_cases p fs with ⟨_, _, same⟩ | ⟨_, ⟨_, _, _, made⟩ | ⟨_, failed⟩⟩
    · rw [same] at shared ⊢
      exact counted number shared
    · rw [made] at shared ⊢
      exact Option.some.inj shared ▸ Nat.lt_succ_self p.made
    · rw [failed] at shared ⊢
      exact counted number shared

theorem shared_behind (shared : p.shared = some number) (kept : call ≠ .reset) :
    (call.behind p fs).shared = some number := by
  cases call with
  | reset => exact absurd rfl kept
  | configure file =>
    rcases configure_cases p fs file with ⟨_, _, _, _, made⟩ | ⟨_, failed⟩
    · rw [Call.behind, made]
      exact shared
    · rw [Call.behind, failed]
      exact shared
  | share =>
    rcases share_cases p fs with ⟨_, _, same⟩ | ⟨absent, _⟩
    · rw [Call.behind, same]
      exact shared
    · cases absent.symm.trans shared

end Calls

section Runs

variable {p : Configurator} {number : Nat}

/-- A run keeps what is set before it. -/
theorem keeps_after (p : Configurator) (calls : List (Files.FileSystem × Call)) :
    p.env.Keeps (p.after calls).env := by
  induction calls generalizing p with
  | nil => exact Environment.Keeps.refl p.env
  | cons call calls ih => exact (keeps_behind p call.1 call.2).1.trans (ih _)

theorem IsCounted.after (counted : p.IsCounted) (calls : List (Files.FileSystem × Call)) :
    (p.after calls).IsCounted := by
  induction calls generalizing p with
  | nil => exact counted
  | cons call calls ih => exact ih (counted.behind call.1 call.2)

theorem shared_after {calls : List (Files.FileSystem × Call)} (shared : p.shared = some number)
    (kept : ∀ call ∈ calls, call.2 ≠ .reset) : (p.after calls).shared = some number := by
  induction calls generalizing p with
  | nil => exact shared
  | cons call calls ih =>
    obtain ⟨first, rest⟩ := List.forall_mem_cons.1 kept
    exact ih (shared_behind shared first) rest

theorem shared_of_given {q : Configurator} {fs : Files.FileSystem} {settings : Settings}
    (given : p.share fs = (q, .ok (number, settings))) : q.shared = some number := by
  rcases share_cases p fs with ⟨_, shared, same⟩ | ⟨_, ⟨_, _, _, made⟩ | ⟨_, failed⟩⟩
  · obtain ⟨rfl, answer⟩ := Prod.mk.inj (same.symm.trans given)
    rw [shared, (Prod.mk.inj (Except.ok.inj answer)).1]
  · obtain ⟨rfl, answer⟩ := Prod.mk.inj (made.symm.trans given)
    rw [(Prod.mk.inj (Except.ok.inj answer)).1]
  · cases (Prod.mk.inj (failed.symm.trans given)).2

theorem share_of_shared (shared : p.shared = some number) (fs : Files.FileSystem) :
    p.share fs = (p, .ok (number, Settings.ofEnvironment p.env)) := by
  rw [share, shared]

theorem shared_of_failed {q : Configurator} {fs : Files.FileSystem} {failure : Failure}
    (refused : p.share fs = (q, .error failure)) : q.shared = none := by
  rcases share_cases p fs with ⟨_, _, same⟩ | ⟨absent, ⟨_, _, _, made⟩ | ⟨_, failed⟩⟩
  · cases (Prod.mk.inj (same.symm.trans refused)).2
  · cases (Prod.mk.inj (made.symm.trans refused)).2
  · rw [← (Prod.mk.inj (failed.symm.trans refused)).1]
    exact absent

/-- A configuration of its own never takes the number of the shared one. -/
theorem IsCounted.own_ne (counted : p.IsCounted) (shared : p.shared = some number)
    {fs : Files.FileSystem} {file : Option Files.Path} {own : Nat} {settings : Settings}
    (made : (p.configure fs file).2 = .ok (own, settings)) : own ≠ number := by
  rcases configure_cases p fs file with ⟨_, _, _, _, same⟩ | ⟨_, failed⟩
  · rw [same] at made
    rw [← (Prod.mk.inj (Except.ok.inj made)).1]
    exact (Nat.ne_of_lt (counted number shared)).symm
  · rw [failed] at made
    cases made

/-- What holds wherever a run of calls has come to. -/
structure Settles (p : Configurator) : Prop where
  /-- Whether a call succeeds or fails, what is set keeps its value. -/
  keeps : ∀ fs (call : Call), p.env.Keeps (call.behind p fs).env
  /-- What a call adds is defined by its variables file. -/
  adds : ∀ fs (call : Call) name value, (call.behind p fs).env.get? name = some value →
    p.env.get? name = some value ∨ Defines fs call.path p.env name value
  /-- So the first value of a variable stays. -/
  stays : ∀ calls, p.env.Keeps (p.after calls).env
  /-- A configuration can be made again while its file is as it was, and nothing is added then. -/
  again : ∀ fs file q number settings, p.configure fs file = (q, .ok (number, settings)) →
    ∀ fs', variablesText fs' (file.getD Settings.defaultFile) =
        variablesText fs (file.getD Settings.defaultFile) →
      ∃ r, q.configure fs' file = (r, .ok (q.made, settings)) ∧ r.env = q.env
  /-- The shared configuration, once given, is given again without a change until it is forgotten. No
  other configuration has its number. -/
  shares : ∀ fs q number settings, p.share fs = (q, .ok (number, settings)) →
    ∀ calls : List (Files.FileSystem × Call), (∀ call ∈ calls, call.2 ≠ .reset) →
      ∀ fs', (q.after calls).share fs' =
          (q.after calls, .ok (number, Settings.ofEnvironment (q.after calls).env)) ∧
        ∀ file own others, ((q.after calls).configure fs' file).2 = .ok (own, others) → own ≠ number
  /-- A request for it that fails leaves none. -/
  unset : ∀ fs q failure, p.share fs = (q, .error failure) → q.shared = none

/-- Over every run, from every environment and with other files at every call. -/
theorem settles_after (env : Environment) (calls : List (Files.FileSystem × Call)) :
    Settles ((start env).after calls) where
  keeps := fun fs call => (keeps_behind _ fs call).1
  adds := fun fs call => (keeps_behind _ fs call).2
  stays := keeps_after _
  again := by
    intro fs file q number settings made fs' unchanged
    exact ⟨_, configure_again made unchanged, rfl⟩
  shares := by
    intro fs q number settings given later kept fs'
    have begun : (start env).IsCounted := fun _ shared => by cases shared
    have counted := ((begun.after calls).behind fs .share).after later
    rw [Call.behind, given] at counted
    have shared := shared_after (shared_of_given given) kept
    exact ⟨share_of_shared shared fs', fun file own others => counted.own_ne shared⟩
  unset := fun fs q failure => shared_of_failed

end Runs

end TagOrigin.Configurator
