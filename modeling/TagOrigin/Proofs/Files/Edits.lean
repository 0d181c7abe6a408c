import TagOrigin.Proofs.Files.Resolution

/-!
Edits of file systems. What a user can write at a path, make a link to or remove leads from file systems
whose names are names of entries to such file systems again, whether the edit succeeds or ends with a
fault on its way.
-/
namespace TagOrigin.Files

/-- A component that a path or the target of a link can have. -/
structure IsStep (part : Text) : Prop where
  nonempty : part ≠ []
  noSlash : '/' ∉ part
  noNull : Char.ofNat 0 ∉ part

theorem IsStep.isName {part : Text} (isStep : IsStep part) (notPoint : part ≠ ['.'])
    (notParent : part ≠ ['.', '.']) : IsName part :=
  { nonempty := isStep.nonempty, notPoint, notParent, noSlash := isStep.noSlash,
    noNull := isStep.noNull }

/-- Where a link leads is told in components. -/
theorem isStep_of_mem_linkSteps {directory : Location} {target part : Text}
    (noNull : Char.ofNat 0 ∉ target) (member : part ∈ (linkSteps directory target).2) :
    IsStep part := by
  have inside : part ∈ (target.splitOn '/').filter (· ≠ []) ∨ part = ['.'] := by
    simp only [linkSteps] at member
    split at member
    · exact (List.mem_append.1 member).imp_right List.mem_singleton.1
    · exact .inl member
  rcases inside with inside | rfl
  · obtain ⟨split, nonempty⟩ := List.mem_filter.1 inside
    obtain ⟨noSlash, within⟩ := Text.of_mem_splitOn split
    exact ⟨by simpa using nonempty, noSlash, fun null => noNull (within.subset null)⟩
  · exact ⟨by decide, by decide, by decide⟩

namespace Path

/-- A path that files can have: in normal form, and without the character that no name can hold. -/
structure IsClean (path : Path) : Prop where
  normal : path.IsNormal
  noNull : path.hasNull = false

section Clean

variable {path : Path} {name : TagOrigin.Text}

theorem isClean_ofText {t : TagOrigin.Text} (noNull : (ofText t).hasNull = false) :
    (ofText t).IsClean :=
  ⟨isNormal_ofText t, noNull⟩

theorem IsClean.isStep (clean : path.IsClean) : ∀ part ∈ path.parts, IsStep part := by
  intro part member
  have isPart := clean.normal.parts part member
  have noNull := List.any_eq_false.1 clean.noNull part member
  exact ⟨isPart.nonempty, isPart.noSlash, by simpa using noNull⟩

theorem IsClean.isName (clean : path.IsClean) (last : path.parts.getLast? = some name)
    (notParent : name ≠ ['.', '.']) : IsName name :=
  have member := List.mem_of_getLast? last
  (clean.isStep name member).isName (clean.normal.parts name member).notPoint notParent

theorem IsNormal.parent (normal : path.IsNormal) : path.parent.IsNormal where
  anchor := normal.anchor
  parts := fun part member => normal.parts part (List.dropLast_subset _ member)

theorem IsClean.parent (clean : path.IsClean) : path.parent.IsClean where
  normal := clean.normal.parent
  noNull := List.any_eq_false.2 fun part member =>
    List.any_eq_false.1 clean.noNull part (List.dropLast_subset _ member)

end Clean

end Path

namespace FileSystem

/-- Entries and the place where relative paths begin have names, and links lead somewhere that a path
can lead. -/
structure IsSound (fs : FileSystem) : Prop where
  proper : fs.IsProper
  home : ∀ name ∈ fs.home, IsName name
  links : ∀ location target, (location, Node.link target) ∈ fs.entries → Char.ofNat 0 ∉ target

theorem isSound_empty : empty.IsSound where
  proper := by decide
  home := by decide
  links := by
    intro location target member
    simp [empty] at member

section Places

variable {fs : FileSystem} {place : Place}

theorem isName_of_mem_dropLast {location : Location} (names : ∀ name ∈ location, IsName name) :
    ∀ name ∈ location.dropLast, IsName name :=
  fun name member => names name (List.dropLast_subset _ member)

theorem isName_of_mem_concat {location : Location} {name : Text}
    (names : ∀ name ∈ location, IsName name) (isName : IsName name) :
    ∀ n ∈ location ++ [name], IsName n :=
  List.forall_mem_append.2 ⟨names, List.forall_mem_singleton.2 isName⟩

theorem isName_of_mem_linkSteps {location : Location} (target : Text)
    (names : ∀ name ∈ location, IsName name) :
    ∀ name ∈ (linkSteps location target).1, IsName name := by
  simp only [linkSteps]
  split
  · simp
  · exact names

theorem isName_of_mem_start (sound : fs.IsSound) (path : Path) :
    ∀ name ∈ fs.start path, IsName name := by
  rw [start]
  split
  · simp
  · exact sound.home

/-- What a resolution comes to is a location with the names of entries. -/
theorem isName_of_resolve (proper : fs.IsProper) {budget : Nat} {location : Location}
    {parts : List Text} (names : ∀ name ∈ location, IsName name)
    (resolved : fs.resolve budget location parts = .ok place) :
    ∀ name ∈ place.location, IsName name := by
  fun_induction resolve fs budget location parts with
  | case1 => cases resolved; exact names
  | case2 => cases resolved
  | case3 _ _ _ _ ih => exact ih names resolved
  | case4 => cases resolved
  | case5 _ _ _ _ _ ih => exact ih (isName_of_mem_dropLast names) resolved
  | case6 => cases resolved
  | case7 => cases resolved
  | case8 _ _ _ _ _ target _ _ ih => exact ih (isName_of_mem_linkSteps target names) resolved
  | case9 _ _ _ _ _ _ _ _ found ih =>
    have isName := proper.isName (node?_of_child found)
    exact ih (isName_of_mem_concat names isName) resolved

/-- What lies at a path in the directory that its parent leads to has the names of entries. -/
theorem isName_of_mem_entry (sound : fs.IsSound) {path : Path} {name : Text} (clean : path.IsClean)
    (last : path.parts.getLast? = some name) (notParent : name ≠ ['.', '.'])
    (resolved : fs.resolve linkLimit (fs.start path) path.parts.dropLast = .ok place) :
    ∀ n ∈ place.location ++ [name], IsName n :=
  have inside := isName_of_resolve sound.proper (isName_of_mem_start sound path) resolved
  isName_of_mem_concat inside (clean.isName last notParent)

theorem isName_of_mem_last {parts : List Text} {name : Text} (steps : ∀ part ∈ parts, IsStep part)
    (last : parts.getLast? = some name)
    (other : ¬ (decide (name = ['.']) || decide (name = ['.', '.'])) = true) : IsName name := by
  simp only [Bool.or_eq_true, decide_eq_true_eq, not_or] at other
  exact (steps name (List.mem_of_getLast? last)).isName other.1 other.2

theorem noNull_of_child (sound : fs.IsSound) {location : Location} {name target : Text}
    (found : fs.child location name = .ok (.link target)) : Char.ofNat 0 ∉ target :=
  sound.links _ target (mem_entries_of_node? (node?_of_child found))

/-- The location of a file that is to be written has the names of entries. -/
theorem isName_of_newLocation (sound : fs.IsSound) {budget : Nat} {location found : Location}
    {parts : List Text} (names : ∀ name ∈ location, IsName name)
    (steps : ∀ part ∈ parts, IsStep part)
    (located : fs.newLocation budget location parts = .ok found) :
    ∀ name ∈ found, IsName name := by
  fun_induction newLocation fs budget location parts with
  | case1 => cases located; exact names
  | case2 budget location parts =>
    obtain ⟨place, resolved, rfl⟩ := map_eq_ok_iff.1 located
    exact isName_of_resolve sound.proper names resolved
  | case3 => cases located
  | case4 => cases located
  | case5 => cases located
  | case6 => cases located
  | case7 => cases located
  -- the file comes to lie where a link at the end of the path leads
  | case8 _ _ _ _ _ _ place resolved target child _ _ base parts leads _ ih =>
    have noNull := noNull_of_child sound child
    have inside := isName_of_mem_linkSteps target (isName_of_resolve sound.proper names resolved)
    have steps : ∀ part ∈ (linkSteps place.location target).2, IsStep part :=
      fun part => isStep_of_mem_linkSteps noNull
    rw [leads] at inside steps
    exact ih inside steps located
  | case9 _ _ _ _ last other _ resolved =>
    cases located
    exact isName_of_mem_concat (isName_of_resolve sound.proper names resolved)
      (isName_of_mem_last steps last other)
  | case10 _ _ _ _ last other _ resolved =>
    cases located
    exact isName_of_mem_concat (isName_of_resolve sound.proper names resolved)
      (isName_of_mem_last steps last other)
  | case11 => cases located

end Places

section Edits

variable {fs after : FileSystem} {path : Path}

theorem IsSound.put (sound : fs.IsSound) {location : Location} {node : Node}
    (names : ∀ name ∈ location, IsName name)
    (noNull : ∀ target, node = .link target → Char.ofNat 0 ∉ target) :
    (fs.put location node).IsSound where
  proper := by
    intro entry member
    rcases List.mem_append.1 member with kept | added
    · exact sound.proper entry (List.mem_filter.1 kept).1
    · rw [List.mem_singleton.1 added]
      exact names
  home := sound.home
  links := by
    intro other target member
    rcases List.mem_append.1 member with kept | added
    · exact sound.links other target (List.mem_filter.1 kept).1
    · cases List.mem_singleton.1 added
      exact noNull target rfl

theorem IsSound.removeAt (sound : fs.IsSound) (location : Location) :
    (fs.removeAt location).IsSound where
  proper := fun entry member => sound.proper entry (List.mem_filter.1 member).1
  home := sound.home
  links := fun other target member => sound.links other target (List.mem_filter.1 member).1

/-- A request goes on from sound files only. -/
theorem isSound_andThen {change : Change} {next : FileSystem → Change}
    (first : change.files.IsSound)
    (second : ∀ fs : FileSystem, fs.IsSound → (next fs).files.IsSound) :
    (change.andThen next).files.IsSound := by
  rw [Change.andThen]
  split
  · exact first
  · exact second _ first

theorem IsSound.addDirectory (sound : fs.IsSound) (clean : path.IsClean)
    (made : fs.addDirectory path = .ok after) : after.IsSound := by
  rw [FileSystem.addDirectory] at made
  split at made
  · cases made
  · split at made
    · cases made
      exact sound
    · cases made
    · next name place last resolved =>
      split at made
      · obtain ⟨_, _, rfl⟩ := map_eq_ok_iff.1 made
        exact sound
      · next notParent =>
        split at made
        · split at made
          · cases made
            exact sound
          · cases made
        · cases made
        · -- nothing is there yet, so the directory is put
          cases made
          exact sound.put (isName_of_mem_entry sound clean last notParent resolved) nofun
        · cases made

theorem IsSound.makeDirectory (sound : fs.IsSound) (clean : path.IsClean) :
    (fs.makeDirectory path).files.IsSound := by
  fun_induction FileSystem.makeDirectory fs path with
  | case1 _ _ made => exact sound.addDirectory clean made
  | case2 path _ _ _ ih =>
    refine isSound_andThen (ih clean.parent) ?_
    intro fs sound
    split
    · next made => exact sound.addDirectory clean made
    · exact sound
  | case3 => exact sound

theorem IsSound.write (sound : fs.IsSound) (clean : path.IsClean) (contents : Encoding.Bytes) :
    (fs.write path contents).files.IsSound := by
  refine isSound_andThen (sound.makeDirectory clean.parent) ?_
  intro fs sound
  dsimp only
  split
  · exact sound
  · split
    · exact sound
    · next location located =>
      split
      · exact sound
      · refine sound.put ?_ nofun
        exact isName_of_newLocation sound (isName_of_mem_start sound path) clean.isStep located

theorem IsSound.makeLink (sound : fs.IsSound) (clean : path.IsClean) {target : Text}
    (noNull : Char.ofNat 0 ∉ target) : (fs.makeLink path target).files.IsSound := by
  refine isSound_andThen (sound.makeDirectory clean.parent) ?_
  intro fs sound
  dsimp only
  split
  · exact sound
  · split
    · exact sound
    · split
      · exact sound
      · exact sound
      · exact sound
      · next name place notParent last resolved =>
        split
        · exact sound
        · refine sound.put ?_ ?_
          · exact isName_of_mem_entry sound clean last notParent resolved
          · rintro _ ⟨⟩
            exact noNull
        · exact sound

theorem IsSound.remove (sound : fs.IsSound) (path : Path) : (fs.remove path).files.IsSound := by
  rw [FileSystem.remove]
  dsimp only
  split
  · exact sound
  · split
    · exact sound
    · exact sound.removeAt _

end Edits

end FileSystem

end TagOrigin.Files
