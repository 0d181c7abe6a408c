import Mathlib.Data.List.Chain
import TagOrigin.Proofs.Files.Walk

/-!
How deep a walk nests. A walk follows links into directories that it may have seen before, and nothing
remembers them. What is used up is the number of links that a path may follow, and between two of them
the walk can only go down in the real tree. So every chain of nested walks is finite, with a bound that
the file system alone gives, and a walk that may nest no deeper than the bound still reaches its end.
-/
namespace TagOrigin.Files

namespace FileSystem

/-- A path leads to a directory that may be listed and that has an entry of the name. -/
def Lists (fs : FileSystem) (path : Path) (name : Text) : Prop :=
  ∃ place searchable node, fs.locate path = .ok place ∧
    fs.node? place.location = some (.directory true searchable) ∧
    fs.node? (place.location ++ [name]) = some node

/-- Walking the directory at `path` walks the directory at `next` on the way. -/
def Calls (fs : FileSystem) (path next : Path) : Prop :=
  ∃ name, fs.Lists path name ∧ next = path.child name ∧ fs.LeadsToDirectory next

/-- What is left to a walk at a path: links to follow, and levels to go down between them. -/
def reserve (fs : FileSystem) (path : Path) : Nat :=
  match fs.locate path with
  | .ok place => place.budget * (fs.depth + 1) + (fs.depth - place.location.length)
  | .error _ => 0

/-- How deep walks can nest in a file system. -/
def nestingLimit (fs : FileSystem) : Nat :=
  linkLimit * (fs.depth + 1) + fs.depth

section Bound

variable {fs : FileSystem} {path next : Path} {name : Text}

theorem lists_iff_mem_names {place : Place} {searchable : Bool}
    (located : fs.locate path = .ok place)
    (listable : fs.node? place.location = some (.directory true searchable)) :
    fs.Lists path name ↔ name ∈ fs.names place.location := by
  rw [mem_names_iff]
  constructor
  · rintro ⟨other, _, node, located', _, there⟩
    obtain rfl := Except.ok.inj (located.symm.trans located')
    exact ⟨node, there⟩
  · rintro ⟨node, there⟩
    exact ⟨place, searchable, node, located, listable, there⟩

theorem Lists.isName (proper : fs.IsProper) (lists : fs.Lists path name) : IsName name := by
  obtain ⟨place, searchable, node, _, _, there⟩ := lists
  exact proper.isName there

/-- A nested walk has less left than the walk around it: it has followed a link, or it is one level
deeper with as many links as before. -/
theorem reserve_lt_of_calls (proper : fs.IsProper) (calls : fs.Calls path next) :
    fs.reserve next < fs.reserve path := by
  obtain ⟨name, lists, rfl, below, leads, _⟩ := calls
  have isName := lists.isName proper
  obtain ⟨place, _, _, located, _, _⟩ := lists
  have entered : fs.enter place name = .ok below := by
    rw [locate_child isName located] at leads
    split at leads
    · cases leads
    · exact leads
  rw [reserve, reserve, leads, located]
  rcases enter_descends entered with fewer | ⟨rfl, node, there⟩
  · have room : (below.budget + 1) * (fs.depth + 1) ≤ place.budget * (fs.depth + 1) :=
      Nat.mul_le_mul_right _ fewer
    rw [Nat.add_mul] at room
    show below.budget * (fs.depth + 1) + (fs.depth - below.location.length) <
      place.budget * (fs.depth + 1) + (fs.depth - place.location.length)
    omega
  · have deep := length_le_depth there
    rw [List.length_append, List.length_singleton] at deep
    show place.budget * (fs.depth + 1) + (fs.depth - (place.location ++ [name]).length) <
      place.budget * (fs.depth + 1) + (fs.depth - place.location.length)
    rw [List.length_append, List.length_singleton]
    omega

theorem reserve_le_nestingLimit (fs : FileSystem) (path : Path) :
    fs.reserve path ≤ fs.nestingLimit := by
  rw [reserve]
  cases located : fs.locate path with
  | error cause => exact Nat.zero_le _
  | ok place =>
    have budget : place.budget ≤ linkLimit := resolve_budget_le (resolve_of_locate located)
    have links := Nat.mul_le_mul_right (fs.depth + 1) budget
    show place.budget * (fs.depth + 1) + (fs.depth - place.location.length) ≤ fs.nestingLimit
    rw [nestingLimit]
    omega

/-- What holds of a walk whenever it holds of the walks nested in it holds of every walk. -/
theorem calls_induction (proper : fs.IsProper) {motive : Path → Prop}
    (step : ∀ path, (∀ next, fs.Calls path next → motive next) → motive path) (path : Path) :
    motive path :=
  step path fun next calls =>
    have := reserve_lt_of_calls proper calls
    calls_induction proper step next
termination_by fs.reserve path

theorem length_le_reserve (proper : fs.IsProper) {chain : List Path}
    (nested : List.IsChain fs.Calls (path :: chain)) : chain.length ≤ fs.reserve path := by
  induction chain generalizing path with
  | nil => exact Nat.zero_le _
  | cons next chain ih =>
    obtain ⟨calls, nested⟩ := List.isChain_cons_cons.1 nested
    have less := reserve_lt_of_calls proper calls
    have rest := ih nested
    rw [List.length_cons]
    omega

end Bound

/-- The names in the directory that a path leads to, if it may be listed. -/
def listing (fs : FileSystem) (path : Path) : Except Cause (List Text) :=
  match fs.locate path with
  | .error cause => .error cause
  | .ok place =>
    match fs.node? place.location with
    | some (.directory true _) => .ok (fs.names place.location)
    | some (.directory false _) => .error .permissionDenied
    | _ => .error .notADirectory

end FileSystem

/-- Visits entries of the directory at a path, with `call` for the walks nested in it. Nothing comes out
if a nested walk gives nothing. -/
def visit (fs : FileSystem) (call : Path → Option (Except Fault (List Path))) (path : Path) :
    List Text → Option (Except Fault (List Path))
  | [] => some (.ok [])
  | name :: rest =>
    match fs.isDirectory (path.child name) with
    | .error fault => some (.error fault)
    | .ok false => (visit fs call path rest).map fun later => later.map (path.child name :: ·)
    | .ok true =>
      match call (path.child name) with
      | none => none
      | some (.error fault) => some (.error fault)
      | some (.ok below) => (visit fs call path rest).map fun later => later.map (below ++ ·)

/-- The walk with a limited number of walks that may be open at once. Every call looks its path up
from the beginning. Nothing comes out if the limit does not suffice. -/
def nestedWalk (fs : FileSystem) : Nat → Path → Option (Except Fault (List Path))
  | 0, _ => none
  | calls + 1, path =>
    match fs.listing path with
    | .error .permissionDenied => some (.ok [])
    | .error cause => some (.error { cause, path := path.text })
    | .ok names => visit fs (nestedWalk fs calls) path names

section Completion

variable {fs : FileSystem} {path : Path} {place : Place}

/-- Visiting gives what the walk does with the entries, if the nested walks give what walks do. -/
theorem visit_eq {call : Path → Option (Except Fault (List Path))} {names : List Text}
    (proper : ∀ name ∈ names, IsName name) (clean : path.hasNull = false)
    (located : fs.locate path = .ok place)
    (nested : ∀ name ∈ names, fs.LeadsToDirectory (path.child name) →
      call (path.child name) = some (walk fs (path.child name))) :
    visit fs call path names = some (walkEntries fs place path names) := by
  induction names with
  | nil => rw [visit, walkEntries]
  | cons name names ih =>
    have isName := proper name List.mem_cons_self
    have later : visit fs call path names = some (walkEntries fs place path names) :=
      ih (fun name member => proper name (List.mem_cons_of_mem _ member))
        fun name member => nested name (List.mem_cons_of_mem _ member)
    rw [walkEntries_cons isName clean located, visit, examine, later]
    rcases fs.isDirectory_cases (Path.hasNull_child clean isName) with
      ⟨answer, leads⟩ | ⟨answer, _, _⟩ | ⟨cause, answer, _⟩
    · rw [answer, nested name List.mem_cons_self leads]
      cases walk fs (path.child name) with
      | error fault => rfl
      | ok below => rfl
    · rw [answer]
      rfl
    · rw [answer]
      rfl

/-- Enough calls suffice: the limited walk ends, with what the walk gives. -/
theorem nestedWalk_eq (proper : fs.IsProper) {calls : Nat}
    (enough : fs.reserve path < calls) : nestedWalk fs calls path = some (walk fs path) := by
  induction calls generalizing path with
  | zero => omega
  | succ calls ih =>
    rw [nestedWalk, FileSystem.listing, walk]
    cases located : fs.locate path with
    | error cause => cases cause <;> rfl
    | ok place =>
      have clean := FileSystem.hasNull_of_locate proper located
      cases there : fs.node? place.location with
      | none => simp [FileSystem.isDirectoryAt, there]
      | some node =>
        cases node with
        | file contents readable => simp [FileSystem.isDirectoryAt, there]
        | link target => simp [FileSystem.isDirectoryAt, there]
        | directory readable searchable =>
          have directory : fs.isDirectoryAt place.location = true := by
            rw [FileSystem.isDirectoryAt, there]
          cases readable with
          | false =>
            have closed : walkDirectory fs place path = .ok [] :=
              walkDirectory_of_closed (by simp [there])
            simp only [there, directory, if_true, closed]
          | true =>
            simp only [there, directory, if_true, walkDirectory_of_listable there]
            refine visit_eq (fun name => proper.isName_of_mem_names) clean located ?_
            intro name member leads
            have lists := (FileSystem.lists_iff_mem_names located there).2 member
            have less := FileSystem.reserve_lt_of_calls proper ⟨name, lists, rfl, leads⟩
            exact ih (by omega)

/-- What comes out of as many calls as the bound says is what the walk gives. -/
theorem walk_of_nestedWalk {result : Except Fault (List Path)} (proper : fs.IsProper)
    (ended : nestedWalk fs (fs.nestingLimit + 1) path = some result) : walk fs path = result := by
  have enough := Nat.lt_succ_of_le (fs.reserve_le_nestingLimit path)
  exact Option.some.inj ((nestedWalk_eq proper enough).symm.trans ended)

/-- Every chain of nested walks is finite, and with as many calls as the bound says the walk comes to its
end, however the links of the file system lead. -/
theorem walk_ends (proper : fs.IsProper) (root : Path) :
    (∀ chain, List.IsChain fs.Calls (root :: chain) → chain.length ≤ fs.nestingLimit) ∧
      nestedWalk fs (fs.nestingLimit + 1) root = some (walk fs root) := by
  have left := fs.reserve_le_nestingLimit root
  refine ⟨?_, nestedWalk_eq proper (Nat.lt_succ_of_le left)⟩
  intro chain nested
  exact Nat.le_trans (FileSystem.length_le_reserve proper nested) left

/-- Links to a directory above, to each other and along a chain. -/
def linkedDirectories : FileSystem where
  entries := [([], .directory true true), (["d".toList], .directory true true),
    (["d".toList, "up".toList], .link "../d".toList), (["d".toList, "x".toList], .link "y".toList),
    (["d".toList, "y".toList], .link "x".toList), (["d".toList, "z".toList], .link "up/up".toList)]
  home := []

theorem walk_ends_linkedDirectories :
    linkedDirectories.IsProper ∧
      (∀ chain, List.IsChain linkedDirectories.Calls (Path.ofText "d".toList :: chain) →
        chain.length ≤ linkedDirectories.nestingLimit) ∧
      nestedWalk linkedDirectories (linkedDirectories.nestingLimit + 1) (Path.ofText "d".toList) =
        some (walk linkedDirectories (Path.ofText "d".toList)) :=
  have proper : linkedDirectories.IsProper := by decide
  ⟨proper, walk_ends proper (Path.ofText "d".toList)⟩

end Completion

end TagOrigin.Files
