import TagOrigin.Proofs.Files.Leaves
import TagOrigin.Report

/-!
All files below a directory. A request that returns gives the paths to the leaves below the directory
and nothing else, in the order of their components. It returns exactly if it can be found out of every
path that it reaches where the path leads: a directory that may not be listed is skipped, but one that
may be listed and not be searched ends the request at its first entry, and so does a link through a
name that is too long.
-/
namespace TagOrigin

open Files Files.FileSystem

section Leaves

variable {fs : FileSystem} {root : Text} {texts : List Text}

theorem allFiles_eq_walk (clean : (Path.ofText root).hasNull = false) :
    allFiles fs root =
      match walk fs (Path.ofText root) with
      | .error fault => .error (.file fault)
      | .ok found => .ok (found.map Path.text) := by
  simp only [allFiles, clean]
  rfl

/-- Files are found by a walk from a path that the file system takes. -/
theorem exists_walk_of_allFiles (returned : allFiles fs root = .ok texts) :
    (Path.ofText root).hasNull = false ∧
      ∃ found, walk fs (Path.ofText root) = .ok found ∧ texts = found.map Path.text := by
  simp only [allFiles] at returned
  split at returned
  · cases returned
  · next clean =>
    refine ⟨by simpa using clean, ?_⟩
    split at returned
    · cases returned
    · next found walked => exact ⟨found, walked, (Except.ok.inj returned).symm⟩

/-- A path by names of entries from a root is read back from its text. -/
theorem ofText_text_of_isName (root : Text) {names : List Text} (isName : ∀ name ∈ names, IsName name) :
    Path.ofText ((Path.ofText root).descend names).text = (Path.ofText root).descend names :=
  Path.ofText_text ((Path.isNormal_ofText root).descend isName)

/-- The files below a directory are the paths to its leaves: through directories that may be listed and
by names of their entries, links followed, to what is no directory. They stand in increasing order of
their components. -/
theorem allFiles_eq_leaves (proper : fs.IsProper) (returned : allFiles fs root = .ok texts) :
    (texts.Pairwise fun a b => Text.AllBefore (Path.ofText a).parts (Path.ofText b).parts) ∧
      ∀ t, t ∈ texts ↔ ∃ names, names ≠ [] ∧ fs.Reaches (Path.ofText root) names ∧
        ¬ fs.LeadsToDirectory ((Path.ofText root).descend names) ∧
        t = ((Path.ofText root).descend names).text := by
  obtain ⟨clean, found, walked, rfl⟩ := exists_walk_of_allFiles returned
  obtain ⟨leaves, rfl, ordered, exact⟩ := FileSystem.exists_leaves_of_walk proper clean walked
  refine ⟨?_, ?_⟩
  · rw [List.map_map, List.pairwise_map]
    refine ordered.imp_of_mem ?_
    intro a b inside inside' before
    have read := ofText_text_of_isName root (((exact a).1 inside).2.1.isName proper)
    have read' := ofText_text_of_isName root (((exact b).1 inside').2.1.isName proper)
    simp only [Function.comp_apply, read, read', Path.parts_descend]
    exact List.Lex.append_left Text.Before before (Path.ofText root).parts
  · intro t
    rw [List.map_map, List.mem_map]
    constructor
    · rintro ⟨names, member, rfl⟩
      obtain ⟨nonempty, reaches, leaf⟩ := (exact names).1 member
      exact ⟨names, nonempty, reaches, leaf, rfl⟩
    · rintro ⟨names, nonempty, reaches, leaf, rfl⟩
      exact ⟨names, (exact names).2 ⟨nonempty, reaches, leaf⟩, rfl⟩

end Leaves

/-- Directories, one of them closed, files whose names begin alike, and links to a directory and to
nothing. -/
def mixedDirectory : FileSystem where
  entries := [([], .directory true true), (["d".toList], .directory true true),
    (["d".toList, "a.b".toList], .file [] true), (["d".toList, "a".toList], .directory true true),
    (["d".toList, "a".toList, "b".toList], .file [] false),
    (["d".toList, "shut".toList], .directory false true),
    (["d".toList, "shut".toList, "c".toList], .file [] true),
    (["d".toList, "gone".toList], .link "x".toList), (["d".toList, "up".toList], .link "a".toList)]
  home := []

theorem proper_mixedDirectory : mixedDirectory.IsProper := by
  decide

set_option maxRecDepth 8192 in
theorem allFiles_mixedDirectory : allFiles mixedDirectory "d".toList =
    .ok ["d/a/b".toList, "d/a.b".toList, "d/gone".toList, "d/up/b".toList] := by
  have limit : mixedDirectory.nestingLimit + 1 = 164 := rfl
  have root : Path.ofText "d".toList = ⟨[], [['d']]⟩ := rfl
  have up : linkSteps [['d']] ['a'] = ([['d']], [['a']]) := rfl
  have gone : linkSteps [['d']] ['x'] = ([['d']], [['x']]) := rfl
  have ended : nestedWalk mixedDirectory (mixedDirectory.nestingLimit + 1) (Path.ofText "d".toList) =
      some (.ok [⟨[], [['d'], ['a'], ['b']]⟩, ⟨[], [['d'], "a.b".toList]⟩, ⟨[], [['d'], "gone".toList]⟩,
        ⟨[], [['d'], "up".toList, ['b']]⟩]) := by
    rw [limit, root]
    simp +decide [nestedWalk, listing, visit, isDirectory, locate, resolve, child, passable, node?,
      isDirectoryAt, names, sortNames, distinct, List.mergeSort, List.MergeSort.Internal.splitInTwo,
      Text.precedes, Path.child, start, linkLimit, up, gone, bind, Except.bind, Except.map, mixedDirectory]
  rw [allFiles_eq_walk (by decide), walk_of_nestedWalk proper_mixedDirectory ended]
  rfl

theorem allFiles_eq_leaves_mixedDirectory :
    mixedDirectory.IsProper ∧
      allFiles mixedDirectory "d".toList =
        .ok ["d/a/b".toList, "d/a.b".toList, "d/gone".toList, "d/up/b".toList] ∧
      ∀ t, t ∈ ["d/a/b".toList, "d/a.b".toList, "d/gone".toList, "d/up/b".toList] ↔
        ∃ names, names ≠ [] ∧ mixedDirectory.Reaches (Path.ofText "d".toList) names ∧
          ¬ mixedDirectory.LeadsToDirectory ((Path.ofText "d".toList).descend names) ∧
          t = ((Path.ofText "d".toList).descend names).text :=
  ⟨proper_mixedDirectory, allFiles_mixedDirectory,
    (allFiles_eq_leaves proper_mixedDirectory allFiles_mixedDirectory).2⟩

/-- A path leads to a directory that may not be listed. -/
def Files.FileSystem.IsShut (fs : FileSystem) (path : Path) : Prop :=
  ∃ place searchable, fs.locate path = .ok place ∧
    fs.node? place.location = some (.directory false searchable)

section Failures

variable {fs : FileSystem} {root : Text} {texts : List Text}

/-- A directory that may not be listed contributes nothing. -/
theorem not_mem_allFiles_of_isShut (proper : fs.IsProper) (returned : allFiles fs root = .ok texts)
    {before behind : List Text} {name : Text}
    (isName : ∀ n ∈ before ++ name :: behind, IsName n)
    (shut : fs.IsShut ((Path.ofText root).descend before)) :
    ((Path.ofText root).descend (before ++ name :: behind)).text ∉ texts := by
  obtain ⟨clean, found, walked, rfl⟩ := exists_walk_of_allFiles returned
  obtain ⟨leaves, rfl, _, exact⟩ := FileSystem.exists_leaves_of_walk proper clean walked
  rw [List.map_map, List.mem_map]
  rintro ⟨names, member, same⟩
  obtain ⟨_, reaches, _⟩ := (exact names).1 member
  have read := ofText_text_of_isName root isName
  rw [← same, Function.comp_apply, ofText_text_of_isName root (reaches.isName proper)] at read
  have parts : names = before ++ name :: behind := by
    have equal := congrArg Path.parts read
    rwa [Path.parts_descend, Path.parts_descend, List.append_cancel_left_eq] at equal
  obtain ⟨place, searchable, _, located, listable, _⟩ := reaches before name behind parts
  obtain ⟨place', searchable', located', unlisted⟩ := shut
  obtain rfl := Except.ok.inj (located.symm.trans located')
  cases listable.symm.trans unlisted

/-- A request for the files below a directory returns exactly if of everything that it reaches it can
be found out where it leads. Then every file that is reached is in the list, and nothing that lies in
a directory that may not be listed. Otherwise the request ends with the fault of the first path, in
the order of the components, of which it cannot be found out. That the depth of nested calls is bounded
where a call stack is, does not count here: no request ends for want of one. -/
theorem allFiles_returns_iff (proper : fs.IsProper)
    (leads : fs.LeadsToDirectory (Path.ofText root)) :
    ((∃ texts, allFiles fs root = .ok texts) ↔
        ∀ names, fs.Reaches (Path.ofText root) names →
          fs.Examinable ((Path.ofText root).descend names)) ∧
      (∀ texts, allFiles fs root = .ok texts →
        (∀ names, names ≠ [] → fs.Reaches (Path.ofText root) names →
          ¬ fs.LeadsToDirectory ((Path.ofText root).descend names) →
          ((Path.ofText root).descend names).text ∈ texts) ∧
        ∀ before name behind, (∀ n ∈ before ++ name :: behind, IsName n) →
          fs.IsShut ((Path.ofText root).descend before) →
          ((Path.ofText root).descend (before ++ name :: behind)).text ∉ texts) ∧
      ∀ failure, allFiles fs root = .error failure →
        ∃ names cause, fs.Reaches (Path.ofText root) names ∧
          fs.locate ((Path.ofText root).descend names) = .error cause ∧
          (cause = .permissionDenied ∨ cause = .nameTooLong) ∧
          failure = .file { cause, path := ((Path.ofText root).descend names).text } ∧
          ∀ earlier, fs.Reaches (Path.ofText root) earlier → Text.AllBefore earlier names →
            fs.Examinable ((Path.ofText root).descend earlier) := by
  obtain ⟨place, located, _⟩ := id leads
  have clean := FileSystem.hasNull_of_locate proper located
  refine ⟨⟨?examinable, ?returns⟩, ?contents, ?failure⟩
  case examinable =>
    rintro ⟨texts, returned⟩ names reaches
    obtain ⟨_, found, walked, _⟩ := exists_walk_of_allFiles returned
    exact FileSystem.examinable_of_walk proper leads walked reaches
  case returns =>
    intro examinable
    rw [allFiles_eq_walk clean]
    cases walked : walk fs (Path.ofText root) with
    | ok found => exact ⟨_, rfl⟩
    | error fault =>
      obtain ⟨names, _, reaches, _, hidden, _⟩ := FileSystem.exists_first_of_walk proper leads walked
      exact absurd (examinable names reaches) hidden
  case contents =>
    intro texts returned
    refine ⟨?_, fun _ _ _ isName shut => not_mem_allFiles_of_isShut proper returned isName shut⟩
    intro names nonempty reaches leaf
    obtain ⟨_, found, walked, rfl⟩ := exists_walk_of_allFiles returned
    obtain ⟨leaves, rfl, _, exact⟩ := FileSystem.exists_leaves_of_walk proper clean walked
    exact List.mem_map_of_mem (List.mem_map_of_mem ((exact names).2 ⟨nonempty, reaches, leaf⟩))
  case failure =>
    intro failure failed
    rw [allFiles_eq_walk clean] at failed
    cases walked : walk fs (Path.ofText root) with
    | ok found => rw [walked] at failed; cases failed
    | error fault =>
      rw [walked] at failed
      obtain ⟨names, cause, reaches, refused, hidden, rfl, first⟩ :=
        FileSystem.exists_first_of_walk proper leads walked
      refine ⟨names, cause, reaches, refused, ?_, (Except.error.inj failed).symm, first⟩
      exact FileSystem.cause_of_not_examinable refused hidden

theorem allFiles_returns_iff_mixedDirectory :
    mixedDirectory.IsProper ∧
      mixedDirectory.LeadsToDirectory (Path.ofText "d".toList) ∧
      (∃ texts, allFiles mixedDirectory "d".toList = .ok texts) ∧
      ∀ names, mixedDirectory.Reaches (Path.ofText "d".toList) names →
        mixedDirectory.Examinable ((Path.ofText "d".toList).descend names) :=
  have leads : mixedDirectory.LeadsToDirectory (Path.ofText "d".toList) :=
    ⟨⟨["d".toList], 40⟩, locate_of_single "d".toList (by decide) rfl (by decide), by decide⟩
  have returned : ∃ texts, allFiles mixedDirectory "d".toList = .ok texts :=
    ⟨_, allFiles_mixedDirectory⟩
  ⟨proper_mixedDirectory, leads, returned,
    (allFiles_returns_iff proper_mixedDirectory leads).1.1 returned⟩

/-- A directory that may be listed but not searched, beside a file. -/
def unsearchableDirectory : FileSystem where
  entries := [([], .directory true true), (["a.tsx".toList], .file [] true),
    (["d".toList], .directory true false), (["d".toList, "b.tsx".toList], .file [] true)]
  home := []

/-- A directory with a link through a name that is too long, beside a file. -/
def overlongLink : FileSystem where
  entries := [([], .directory true true), (["d".toList], .directory true true),
    (["d".toList, "a.tsx".toList], .file [] true),
    (["d".toList, "x".toList], .link (List.replicate 256 'y'))]
  home := []

set_option maxRecDepth 4096 in
/-- The request ends at what can be listed but not examined, with the file beside it unreported. -/
theorem allFiles_fails_at_unexaminable :
    (unsearchableDirectory.IsProper ∧
        unsearchableDirectory.LeadsToDirectory (Path.ofText ".".toList) ∧
        allFiles unsearchableDirectory ".".toList =
          .error (.file { cause := .permissionDenied, path := "d/b.tsx".toList })) ∧
      overlongLink.IsProper ∧ overlongLink.LeadsToDirectory (Path.ofText "d".toList) ∧
        allFiles overlongLink "d".toList =
          .error (.file { cause := .nameTooLong, path := "d/x".toList }) := by
  have proper : unsearchableDirectory.IsProper := by decide
  have proper' : overlongLink.IsProper := by decide
  have limit : unsearchableDirectory.nestingLimit + 1 = 123 := rfl
  have limit' : overlongLink.nestingLimit + 1 = 123 := rfl
  have root : Path.ofText ".".toList = ⟨[], []⟩ := rfl
  have root' : Path.ofText "d".toList = ⟨[], [['d']]⟩ := rfl
  have ended : nestedWalk unsearchableDirectory (unsearchableDirectory.nestingLimit + 1)
      (Path.ofText ".".toList) =
        some (.error { cause := .permissionDenied, path := "d/b.tsx".toList }) := by
    rw [limit, root]
    simp +decide [nestedWalk, listing, visit, isDirectory, locate, resolve, child, passable, node?,
      isDirectoryAt, names, sortNames, distinct, List.mergeSort, List.MergeSort.Internal.splitInTwo,
      Text.precedes, Path.child, start, linkLimit, bind, Except.bind, Except.map, unsearchableDirectory]
  have ended' : nestedWalk overlongLink (overlongLink.nestingLimit + 1) (Path.ofText "d".toList) =
      some (.error { cause := .nameTooLong, path := "d/x".toList }) := by
    have target : linkSteps [['d']] (List.replicate 256 'y') = ([['d']], [List.replicate 256 'y']) := by
      decide +kernel
    rw [limit', root']
    simp +decide [nestedWalk, listing, visit, isDirectory, locate, resolve, child, passable, node?,
      isDirectoryAt, names, sortNames, distinct, List.mergeSort, List.MergeSort.Internal.splitInTwo,
      Text.precedes, Path.child, start, linkLimit, target, bind, Except.bind, Except.map, overlongLink,
      -List.reduceReplicate]
  have leads : unsearchableDirectory.LeadsToDirectory (Path.ofText ".".toList) :=
    ⟨⟨[], 40⟩, by rw [locate, if_neg (by decide), root, resolve]; rfl, by decide⟩
  have leads' : overlongLink.LeadsToDirectory (Path.ofText "d".toList) :=
    ⟨⟨["d".toList], 40⟩, locate_of_single "d".toList (by decide) rfl (by decide), by decide⟩
  refine ⟨⟨proper, leads, ?_⟩, proper', leads', ?_⟩
  · rw [allFiles_eq_walk (by decide), walk_of_nestedWalk proper ended]
  · rw [allFiles_eq_walk (by decide), walk_of_nestedWalk proper' ended']

end Failures

end TagOrigin
