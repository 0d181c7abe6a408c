import TagOrigin.Proofs.Files.Nesting

/-!
What a walk finds. Below a path lie sequences of names, each an entry of the listable directory that
the names before it lead to; the leaves among them are those that lead to no directory. A walk that
returns has found exactly the leaves, in increasing order. A walk that fails has met, in the same
order, the first sequence of which it cannot be found out where it leads.
-/
namespace TagOrigin.Files

namespace FileSystem

/-- Every name is an entry of the directory that the names before it lead to, and this directory may
be listed. -/
def Reaches (fs : FileSystem) (path : Path) (names : List Text) : Prop :=
  ∀ before name behind, names = before ++ name :: behind → fs.Lists (path.descend before) name

section Reach

variable {fs : FileSystem} {path : Path} {name : Text} {names : List Text}

theorem reaches_nil (fs : FileSystem) (path : Path) : fs.Reaches path [] := by
  intro before name behind same
  cases before <;> cases same

theorem reaches_cons_iff :
    fs.Reaches path (name :: names) ↔ fs.Lists path name ∧ fs.Reaches (path.child name) names := by
  constructor
  · intro reaches
    refine ⟨by simpa using reaches [] name names rfl, ?_⟩
    intro before other behind same
    have deeper := reaches (name :: before) other behind (by rw [same]; rfl)
    rwa [Path.descend_cons] at deeper
  · rintro ⟨lists, reaches⟩ before other behind same
    cases before with
    | nil =>
      obtain ⟨rfl, _⟩ := List.cons.inj same
      simpa using lists
    | cons first before =>
      obtain ⟨rfl, same'⟩ := List.cons.inj same
      rw [Path.descend_cons]
      exact reaches before other behind same'

theorem Lists.leadsToDirectory (lists : fs.Lists path name) : fs.LeadsToDirectory path := by
  obtain ⟨place, searchable, node, located, listable, _⟩ := lists
  exact ⟨place, located, by rw [isDirectoryAt, listable]⟩

/-- Nothing is reached from a path whose entries are not listed, but the path itself. -/
theorem reaches_iff_of_not_lists (closed : ∀ name, ¬ fs.Lists path name) :
    fs.Reaches path names ↔ names = [] := by
  cases names with
  | nil => exact iff_of_true (reaches_nil fs path) rfl
  | cons name names =>
    refine iff_of_false ?_ (List.cons_ne_nil name names)
    intro reaches
    exact closed name (reaches_cons_iff.1 reaches).1

theorem Reaches.isName (proper : fs.IsProper) (reaches : fs.Reaches path names) :
    ∀ name ∈ names, IsName name := by
  intro name member
  obtain ⟨before, behind, same⟩ := List.append_of_mem member
  exact (reaches before name behind same).isName proper

end Reach

/-- A result accounts for some sequences below a path: either it is the leaves among them, in order, or
it is the fault of the first that is not examinable. -/
def Accounts (fs : FileSystem) (path : Path) (mine : List Text → Prop) :
    Except Fault (List Path) → Prop
  | .ok found => ∃ leaves : List (List Text), found = leaves.map path.descend ∧
      leaves.Pairwise Text.AllBefore ∧
      (∀ names, names ∈ leaves ↔ mine names ∧ ¬ fs.LeadsToDirectory (path.descend names)) ∧
      ∀ names, mine names → fs.Examinable (path.descend names)
  | .error fault => ∃ names, mine names ∧ fs.isDirectory (path.descend names) = .error fault ∧
      ∀ earlier, mine earlier → Text.AllBefore earlier names →
        fs.Examinable (path.descend earlier)

section Account

variable {fs : FileSystem} {path : Path} {name : Text} {mine later : List Text → Prop}

/-- What lies below one name and what lies below the names behind it are accounted for in this order. -/
theorem accounts_append {here rest : Except Fault (List Path)}
    (first : fs.Accounts (path.child name) mine here) (second : fs.Accounts path later rest)
    (behind : ∀ names, later names → ∃ other tail, names = other :: tail ∧ Text.Before name other) :
    fs.Accounts path (fun names => (∃ tail, names = name :: tail ∧ mine tail) ∨ later names)
      (inOrder here rest) := by
  cases here with
  | error fault =>
    obtain ⟨names, member, answer, examined⟩ := first
    refine ⟨name :: names, .inl ⟨names, rfl, member⟩, by rwa [Path.descend_cons], ?_⟩
    rintro earlier (⟨tail, rfl, inside⟩ | afterwards) before
    · rw [Path.descend_cons]
      cases before with
      | rel less => exact absurd rfl less.ne
      | cons before => exact examined tail inside before
    · obtain ⟨other, tail, rfl, less⟩ := behind earlier afterwards
      cases before with
      | rel greater => exact absurd greater less.asymm
      | cons _ => exact absurd rfl less.ne
  | ok found =>
    obtain ⟨leaves, rfl, ordered, exact, examined⟩ := first
    cases rest with
    | error fault =>
      obtain ⟨names, member, answer, examinedLater⟩ := second
      refine ⟨names, .inr member, answer, ?_⟩
      rintro earlier (⟨tail, rfl, inside⟩ | afterwards) before
      · rw [Path.descend_cons]
        exact examined tail inside
      · exact examinedLater earlier afterwards before
    | ok foundLater =>
      obtain ⟨leavesLater, rfl, orderedLater, exactLater, examinedLater⟩ := second
      refine ⟨leaves.map (name :: ·) ++ leavesLater, ?_, ?_, ?_, ?_⟩
      · simp [Function.comp_def]
      · refine List.pairwise_append.2 ⟨?_, orderedLater, ?_⟩
        · exact List.pairwise_map.2 (ordered.imp .cons)
        · intro earlier inside names member
          obtain ⟨tail, _, rfl⟩ := List.mem_map.1 inside
          obtain ⟨other, rest, rfl, less⟩ := behind names ((exactLater names).1 member).1
          exact .rel less
      · intro names
        rw [List.mem_append, exactLater, List.mem_map, or_and_right]
        refine or_congr ?_ Iff.rfl
        constructor
        · rintro ⟨tail, member, rfl⟩
          obtain ⟨inside, leaf⟩ := (exact tail).1 member
          exact ⟨⟨tail, rfl, inside⟩, by rwa [Path.descend_cons]⟩
        · rintro ⟨⟨tail, rfl, inside⟩, leaf⟩
          rw [Path.descend_cons] at leaf
          exact ⟨tail, (exact tail).2 ⟨inside, leaf⟩, rfl⟩
      · rintro names (⟨tail, rfl, inside⟩ | afterwards)
        · rw [Path.descend_cons]
          exact examined tail inside
        · exact examinedLater names afterwards

/-- A directory itself adds nothing to what lies below it. -/
theorem accounts_insert_nil {result : Except Fault (List Path)} (leads : fs.LeadsToDirectory path)
    (below : fs.Accounts path mine result) :
    fs.Accounts path (fun names => names = [] ∨ mine names) result := by
  have top : fs.LeadsToDirectory (path.descend []) := by rwa [Path.descend_nil]
  cases result with
  | error fault =>
    obtain ⟨names, member, answer, examined⟩ := below
    refine ⟨names, .inr member, answer, ?_⟩
    rintro earlier (rfl | inside) before
    · exact examinable_of_leadsToDirectory top
    · exact examined earlier inside before
  | ok found =>
    obtain ⟨leaves, same, ordered, exact, examined⟩ := below
    refine ⟨leaves, same, ordered, ?_, ?_⟩
    · intro names
      rw [exact, or_and_right]
      refine (or_iff_right ?_).symm
      rintro ⟨rfl, leaf⟩
      exact leaf top
    · rintro names (rfl | inside)
      · exact examinable_of_leadsToDirectory top
      · exact examined names inside

end Account

section Walk

variable {fs : FileSystem} {path : Path} {place : Place}

/-- A path that leads to no directory is its own only leaf, or it is not examinable. -/
theorem accounts_of_not_directory (clean : path.hasNull = false)
    (leaf : ¬ fs.LeadsToDirectory path) :
    fs.Accounts path (fs.Reaches path) (examine fs path) := by
  have only : ∀ names, fs.Reaches path names ↔ names = [] := fun names =>
    reaches_iff_of_not_lists fun name lists => leaf lists.leadsToDirectory
  rcases fs.isDirectory_cases clean with ⟨_, leads⟩ | ⟨answer, _, examinable⟩ | ⟨cause, answer, _⟩
  · exact absurd leads leaf
  · rw [examine, answer]
    refine ⟨[[]], by simp, List.pairwise_singleton _ _, ?_, ?_⟩
    · intro names
      rw [only, List.mem_singleton]
      refine (and_iff_left_of_imp ?_).symm
      rintro rfl
      rwa [Path.descend_nil]
    · intro names reaches
      rw [(only names).1 reaches, Path.descend_nil]
      exact examinable
  · rw [examine, answer]
    refine ⟨[], reaches_nil fs path, by rw [Path.descend_nil, answer], ?_⟩
    intro earlier _ before
    cases before

/-- The entries of a directory are accounted for one after the other. -/
theorem accounts_walkEntries {names : List Text} (sorted : names.Pairwise Text.Before)
    (isName : ∀ name ∈ names, IsName name) (clean : path.hasNull = false)
    (located : fs.locate path = .ok place)
    (below : ∀ name ∈ names,
      fs.Accounts (path.child name) (fs.Reaches (path.child name)) (examine fs (path.child name))) :
    fs.Accounts path
      (fun sequence => ∃ name tail, sequence = name :: tail ∧ name ∈ names ∧
        fs.Reaches (path.child name) tail)
      (walkEntries fs place path names) := by
  induction names with
  | nil =>
    rw [walkEntries]
    refine ⟨[], rfl, List.Pairwise.nil, ?_, ?_⟩
    · simp
    · simp
  | cons name names ih =>
    obtain ⟨first, sorted⟩ := List.pairwise_cons.1 sorted
    have rest := ih sorted (fun name member => isName name (List.mem_cons_of_mem _ member))
      fun name member => below name (List.mem_cons_of_mem _ member)
    rw [walkEntries_cons (isName name List.mem_cons_self) clean located]
    have both := accounts_append (below name List.mem_cons_self) rest ?_
    · convert both using 2 with sequence
      constructor
      · rintro ⟨other, tail, rfl, member, reaches⟩
        rcases List.mem_cons.1 member with rfl | member
        · exact .inl ⟨tail, rfl, reaches⟩
        · exact .inr ⟨other, tail, rfl, member, reaches⟩
      · rintro (⟨tail, rfl, reaches⟩ | ⟨other, tail, rfl, member, reaches⟩)
        · exact ⟨name, tail, rfl, List.mem_cons_self, reaches⟩
        · exact ⟨other, tail, rfl, List.mem_cons_of_mem _ member, reaches⟩
    · rintro sequence ⟨other, tail, rfl, member, _⟩
      exact ⟨other, tail, rfl, first other member⟩

theorem examine_eq_walkDirectory (clean : path.hasNull = false)
    (located : fs.locate path = .ok place) (directory : fs.isDirectoryAt place.location = true) :
    examine fs path = walkDirectory fs place path := by
  have answer : fs.isDirectory path = .ok true := by
    simp [isDirectory, clean, located, directory]
  rw [examine, answer]
  exact walk_eq_walkDirectory located directory

/-- A directory that may be listed is accounted for if the walks nested in its walk are. -/
theorem accounts_of_listable {searchable : Bool} (proper : fs.IsProper)
    (clean : path.hasNull = false) (located : fs.locate path = .ok place)
    (listable : fs.node? place.location = some (.directory true searchable))
    (nested : ∀ next, fs.Calls path next → next.hasNull = false →
      fs.Accounts next (fs.Reaches next) (examine fs next)) :
    fs.Accounts path (fs.Reaches path) (walkDirectory fs place path) := by
  have leads : fs.LeadsToDirectory path := ⟨place, located, by rw [isDirectoryAt, listable]⟩
  have below : ∀ name ∈ fs.names place.location,
      fs.Accounts (path.child name) (fs.Reaches (path.child name)) (examine fs (path.child name)) := by
    intro name member
    have lists := (lists_iff_mem_names located listable).2 member
    have clean := Path.hasNull_child clean (lists.isName proper)
    by_cases deeper : fs.LeadsToDirectory (path.child name)
    · exact nested (path.child name) ⟨name, lists, rfl, deeper⟩ clean
    · exact accounts_of_not_directory clean deeper
  have entries := accounts_walkEntries (fs.pairwise_names place.location)
    (fun name => proper.isName_of_mem_names) clean located below
  rw [walkDirectory_of_listable listable]
  convert accounts_insert_nil leads entries using 2 with names
  cases names with
  | nil => exact iff_of_true (reaches_nil fs path) (.inl rfl)
  | cons name names =>
    rw [reaches_cons_iff, lists_iff_mem_names located listable]
    simp

/-- A directory that may not be listed has nothing below it, and its walk finds nothing. -/
theorem accounts_of_closed (leads : fs.LeadsToDirectory path) (located : fs.locate path = .ok place)
    (closed : ∀ searchable, fs.node? place.location ≠ some (.directory true searchable)) :
    fs.Accounts path (fs.Reaches path) (walkDirectory fs place path) := by
  have nothing : fs.Accounts path (fun _ => False) (.ok []) :=
    ⟨[], rfl, List.Pairwise.nil, by simp, by simp⟩
  rw [walkDirectory_of_closed closed]
  convert accounts_insert_nil leads nothing using 2 with names
  rw [or_false]
  refine reaches_iff_of_not_lists ?_
  rintro name ⟨other, searchable, node, located', listable, _⟩
  obtain rfl := Except.ok.inj (located.symm.trans located')
  exact closed searchable listable

/-- Everything reached from a path is accounted for. The induction is along the walks that are nested
in each other. -/
theorem accounts_examine (proper : fs.IsProper) (path : Path) (clean : path.hasNull = false) :
    fs.Accounts path (fs.Reaches path) (examine fs path) := by
  induction path using calls_induction proper with
  | step path nested =>
    by_cases leads : fs.LeadsToDirectory path
    · obtain ⟨place, located, directory⟩ := id leads
      rw [examine_eq_walkDirectory clean located directory]
      by_cases listable : ∃ searchable, fs.node? place.location = some (.directory true searchable)
      · obtain ⟨searchable, listable⟩ := listable
        exact accounts_of_listable proper clean located listable nested
      · exact accounts_of_closed leads located fun searchable there => listable ⟨searchable, there⟩
    · exact accounts_of_not_directory clean leads

/-- The walk of a directory accounts for what is reached from it. -/
theorem accounts_walk (proper : fs.IsProper) (clean : path.hasNull = false)
    (leads : fs.LeadsToDirectory path) : fs.Accounts path (fs.Reaches path) (walk fs path) := by
  obtain ⟨place, located, directory⟩ := leads
  rw [walk_eq_walkDirectory located directory,
    ← examine_eq_walkDirectory clean located directory]
  exact accounts_examine proper path clean

/-- A walk that returns has found the leaves below its path, in order. -/
theorem exists_leaves_of_walk {found : List Path} (proper : fs.IsProper)
    (clean : path.hasNull = false) (returned : walk fs path = .ok found) :
    ∃ leaves : List (List Text), found = leaves.map path.descend ∧
      leaves.Pairwise Text.AllBefore ∧
      ∀ names, names ∈ leaves ↔
        names ≠ [] ∧ fs.Reaches path names ∧ ¬ fs.LeadsToDirectory (path.descend names) := by
  by_cases leads : fs.LeadsToDirectory path
  · have account := accounts_walk proper clean leads
    rw [returned] at account
    obtain ⟨leaves, same, ordered, exact, _⟩ := account
    refine ⟨leaves, same, ordered, ?_⟩
    intro names
    rw [exact]
    refine ⟨fun ⟨reaches, leaf⟩ => ⟨?_, reaches, leaf⟩, fun ⟨_, leaf⟩ => leaf⟩
    rintro rfl
    exact leaf (by rwa [Path.descend_nil])
  · have none : found = [] := by
      rw [walk] at returned
      split at returned
      · exact (Except.ok.inj returned).symm
      · cases returned
      · next place located =>
        split at returned
        · next directory => exact absurd ⟨place, located, directory⟩ leads
        · cases returned
    refine ⟨[], by rw [none]; rfl, List.Pairwise.nil, ?_⟩
    intro names
    have only : fs.Reaches path names ↔ names = [] :=
      reaches_iff_of_not_lists fun name lists => leads lists.leadsToDirectory
    simp only [List.not_mem_nil, false_iff, only]
    rintro ⟨nonempty, empty, _⟩
    exact nonempty empty

/-- A walk that fails has met something of which it cannot be found out where it leads, and nothing
of this kind before. -/
theorem exists_first_of_walk {fault : Fault} (proper : fs.IsProper) (leads : fs.LeadsToDirectory path)
    (failed : walk fs path = .error fault) :
    ∃ names cause, fs.Reaches path names ∧ fs.locate (path.descend names) = .error cause ∧
      ¬ fs.Examinable (path.descend names) ∧
      fault = { cause, path := (path.descend names).text } ∧
      ∀ earlier, fs.Reaches path earlier → Text.AllBefore earlier names →
        fs.Examinable (path.descend earlier) := by
  obtain ⟨place, located, _⟩ := id leads
  have clean := hasNull_of_locate proper located
  have account := accounts_walk proper clean leads
  rw [failed] at account
  obtain ⟨names, reaches, answer, first⟩ := account
  have clean := Path.hasNull_descend clean (reaches.isName proper)
  rcases fs.isDirectory_cases clean with ⟨other, _⟩ | ⟨other, _⟩ | ⟨cause, other, refused, _, hidden⟩
  · cases answer.symm.trans other
  · cases answer.symm.trans other
  · have same := Except.error.inj (answer.symm.trans other)
    exact ⟨names, cause, reaches, refused, hidden, same, first⟩

/-- A walk that returns could find out of everything that it reaches where it leads. -/
theorem examinable_of_walk {found : List Path} (proper : fs.IsProper)
    (leads : fs.LeadsToDirectory path) (returned : walk fs path = .ok found) {names : List Text}
    (reaches : fs.Reaches path names) : fs.Examinable (path.descend names) := by
  obtain ⟨place, located, _⟩ := id leads
  have account := accounts_walk proper (hasNull_of_locate proper located) leads
  rw [returned] at account
  obtain ⟨_, _, _, _, examined⟩ := account
  exact examined names reaches

end Walk

end FileSystem

end TagOrigin.Files
