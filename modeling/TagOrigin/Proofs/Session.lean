import TagOrigin.Proofs.Environment
import TagOrigin.Proofs.Files.Edits
import TagOrigin.Session

/-!
Sound sessions. However a session goes on, its entries have names that entries can have, its links lead
where paths can lead, and its variables are ones that an environment can have. A step keeps this up
whether it succeeds or fails, so it holds after every sequence of steps that begins in an empty
workspace.
-/
namespace TagOrigin

namespace Configurator

/-- Making and sharing configurations keeps the environment proper. -/
theorem isProper_configure {p : Configurator} (proper : p.env.IsProper) (fs : Files.FileSystem)
    (file : Option Files.Path) : (p.configure fs file).1.env.IsProper := by
  have kept := Settings.isProper_configure proper fs file
  rw [configure]
  split
  · next same => rwa [same] at kept
  · next same => rwa [same] at kept

theorem isProper_share {p : Configurator} (proper : p.env.IsProper) (fs : Files.FileSystem) :
    (p.share fs).1.env.IsProper := by
  have kept := isProper_configure proper fs none
  rw [share]
  split
  · exact proper
  · split
    · next same => rwa [same] at kept
    · next same => rwa [same] at kept

end Configurator

namespace Session

/-- Files and environment are as files and environments can be. -/
structure IsSound (s : Session) : Prop where
  files : s.files.IsSound
  env : s.configurator.env.IsProper

variable {s : Session}

theorem IsSound.withFiles (sound : s.IsSound) {change : Files.Change}
    (changed : change.files.IsSound) : (s.withFiles change).1.IsSound :=
  ⟨changed, sound.env⟩

theorem IsSound.answer (sound : s.IsSound) {α : Type} (make : α → Answer)
    (result : Except Failure α) : (s.answer make result).1.IsSound := by
  cases result with
  | ok result => exact sound
  | error failure => exact sound

theorem IsSound.change (sound : s.IsSound) {path : Text} {edit : Files.Path → Files.Change}
    (keeps : (Files.Path.ofText path).IsClean → (edit (Files.Path.ofText path)).files.IsSound) :
    (s.change path edit).1.IsSound := by
  rw [Session.change]
  split
  · exact sound
  · next clean => exact sound.withFiles (keeps (Files.Path.isClean_ofText (by simpa using clean)))

/-- What cannot be added leaves at most the parent directories behind. -/
theorem IsSound.add (sound : s.IsSound) {path : Text} {impossible : Bool}
    {edit : Files.Path → Files.Change}
    (keeps : impossible = false → (Files.Path.ofText path).IsClean →
      (edit (Files.Path.ofText path)).files.IsSound) :
    (s.add path impossible edit).1.IsSound := by
  have normal := Files.Path.isNormal_ofText path
  rw [Session.add]
  split
  · next attempted =>
    refine sound.change fun clean => keeps ?_ clean
    simpa [clean.noNull, clean.parent.noNull] using attempted
  · next hopeless =>
    have clean : (Files.Path.ofText path).parent.IsClean :=
      ⟨normal.parent, by simp_all⟩
    have made := sound.withFiles (sound.files.makeDirectory clean)
    split
    · next same => rwa [same] at made
    · exact made

theorem IsSound.restrict (sound : s.IsSound) (path : Text) : (s.restrict path).1.IsSound := by
  rw [Session.restrict]
  split
  · exact sound
  · split
    · exact ⟨sound.files, sound.env⟩
    · exact sound

/-- Every step keeps a session sound. -/
theorem IsSound.step [Encoding.Charts] (sound : s.IsSound) (step : Step) : (s.step step).1.IsSound := by
  cases step with
  | write path contents => exact sound.add fun _ clean => sound.files.write clean contents
  | makeDirectory path => exact sound.change sound.files.makeDirectory
  | makeLink path target =>
    refine sound.add fun possible clean => ?_
    exact sound.files.makeLink clean (by simpa using possible)
  | remove path => exact sound.change fun _ => sound.files.remove _
  | changeMode path mode => exact sound.restrict path
  | setVariable name value =>
    cases value with
    | none => exact ⟨sound.files, sound.env.erase name⟩
    | some value =>
      rw [Session.step]
      split
      · next env set => exact ⟨sound.files, sound.env.set set⟩
      · exact sound
  | walk root => exact sound.answer _ _
  | collect root extensions patterns => exact sound.answer _ _
  | scanFile path encoding => exact sound.answer _ _
  | scanFiles paths encoding => exact sound.answer _ _
  | configure file =>
    have configured : IsSound { s with configurator := (s.configurator.configure s.files
        (file.map Files.Path.ofText)).1 } :=
      ⟨sound.files, Configurator.isProper_configure sound.env _ _⟩
    exact configured.answer _ _
  | share =>
    have kept := Configurator.isProper_share sound.env s.files
    rw [Session.step]
    split
    · next same =>
      rw [same] at kept
      exact ⟨sound.files, kept⟩
    · next same =>
      rw [same] at kept
      exact ⟨sound.files, kept⟩
  | settings =>
    rw [Session.step]
    split
    · exact sound
    · exact sound
  | reset => exact ⟨sound.files, sound.env⟩
  | run args encoding => exact sound

/-- A session after some steps. -/
def after [Encoding.Charts] (s : Session) (steps : List Step) : Session :=
  steps.foldl (fun s step => (s.step step).1) s

/-- A sequence of steps goes on where the steps before have led. -/
theorem steps_append [Encoding.Charts] (s : Session) (before behind : List Step) :
    s.steps (before ++ behind) =
      match s.steps before with
      | .error refusal => .error refusal
      | .ok answers => ((s.after before).steps behind).map (answers ++ ·) := by
  induction before generalizing s with
  | nil =>
    show s.steps behind = (s.steps behind).map ([] ++ ·)
    cases s.steps behind with
    | error refusal => rfl
    | ok answers => rfl
  | cons step before ih =>
    rw [List.cons_append, steps, steps]
    split
    · rfl
    · simp only [ih]
      cases (s.step step).1.steps before with
      | error refusal => rfl
      | ok answers =>
        show (((s.step step).1.after before).steps behind |>.map (answers ++ ·)).map _ =
          (((s.step step).1.after before).steps behind).map ((s.step step).2 :: answers ++ ·)
        cases ((s.step step).1.after before).steps behind with
        | error refusal => rfl
        | ok later => rfl

theorem isSound_fresh : fresh.IsSound where
  files := Files.FileSystem.isSound_empty
  env := nofun

/-- Sessions stay sound over all their steps. -/
theorem IsSound.after [Encoding.Charts] (sound : s.IsSound) (steps : List Step) :
    (s.after steps).IsSound := by
  induction steps generalizing s with
  | nil => exact sound
  | cons step steps ih => exact ih (sound.step step)

/-- Every session that begins in an empty workspace is sound. -/
theorem isSound_after_fresh [Encoding.Charts] (steps : List Step) : (fresh.after steps).IsSound :=
  isSound_fresh.after steps

end Session

end TagOrigin
