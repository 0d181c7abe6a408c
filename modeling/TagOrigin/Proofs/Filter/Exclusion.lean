import TagOrigin.Proofs.Filter.Ignoring
import TagOrigin.Proofs.Filter.LastComponent
import TagOrigin.Proofs.Glob.Faults
import TagOrigin.Proofs.Glob.Language
import TagOrigin.Proofs.Text.Pieces

/-!
What ignore patterns exclude. Patterns without a fault drop exactly the paths that one of them stands for,
as a whole or by the last component. A name between `**/` and `/**` stands for what lies below a directory
of that name at any depth, whatever characters of expression texts the name holds.
-/
namespace TagOrigin

open Glob

section Accepted

variable {pattern path : Text} {paths patterns : List Text}

/-- A pattern stands for a path or for its last component. -/
def Excludes (pattern path : Text) : Prop :=
  Denotes pattern path ∨ Denotes pattern (baseName path)

theorem ignores_iff_excludes (clean : '\x00' ∉ pattern) (accepted : ∃ e, compile pattern = .ok e)
    (path : Text) : Ignores pattern path ↔ Excludes pattern path := by
  obtain ⟨e, compiled⟩ := accepted
  simp [Ignores, Excludes, pathMatches_of_compile compiled, accepts_iff_denotes clean compiled]

/-- Patterns without a fault drop exactly the paths that they exclude. -/
theorem filterIgnored_eq_filter {keep : Text → Bool} (clean : ∀ pattern ∈ patterns, '\x00' ∉ pattern)
    (sound : ∀ pattern ∈ patterns, ¬ Malformed pattern)
    (keeps : ∀ path ∈ paths, keep path = true ↔ ¬ ∃ pattern ∈ patterns, Excludes pattern path) :
    filterIgnored paths patterns = .ok (paths.filter keep) := by
  have accepted : ∀ pattern ∈ patterns, ∃ e, compile pattern = .ok e :=
    fun pattern listed => exists_compile_of_not_malformed (clean pattern listed) (sound pattern listed)
  rw [filterIgnored_of_accepted accepted]
  congr 1
  apply List.filter_congr
  intro path member
  rw [Bool.eq_iff_iff, keeps path member, decide_eq_true_iff]
  simp only [not_exists, not_and]
  exact forall₂_congr fun pattern listed =>
    not_congr (ignores_iff_excludes (clean pattern listed) (accepted pattern listed) path)

end Accepted

section Directories

/-- The components of a path before the last one. -/
def directoriesOf (path : Text) : List Text :=
  (path.splitOn '/').dropLast

/-- Stands for all that lies below a directory of a name. -/
def directoryPattern (name : Text) : Text :=
  "**/".toList ++ (name ++ "/**".toList)

/-- A name without slashes and wildcards. -/
structure IsLiteralName (name : Text) : Prop where
  slash : '/' ∉ name
  star : '*' ∉ name
  query : '?' ∉ name
  nul : '\x00' ∉ name

instance (name : Text) : Decidable (IsLiteralName name) :=
  decidable_of_iff ('/' ∉ name ∧ '*' ∉ name ∧ '?' ∉ name ∧ '\x00' ∉ name)
    ⟨fun ⟨slash, star, query, nul⟩ => { slash, star, query, nul },
      fun literal => ⟨literal.slash, literal.star, literal.query, literal.nul⟩⟩

variable {name path t : Text} {names paths : List Text}

theorem pieces_append_of_literal (star : '*' ∉ name) (query : '?' ∉ name) (body : Text) :
    pieces (name ++ body) = name.map .char ++ pieces body := by
  induction name with
  | nil => rfl
  | cons c name ih =>
    rw [List.mem_cons, not_or] at star query
    rw [List.cons_append, pieces_cons (Ne.symm star.1) (Ne.symm query.1), ih star.2 query.2]
    rfl

/-- Characters before something other than a question mark stand for themselves. -/
theorem reads_map_char_append_iff {ps : List Piece} (unmarked : ps.head? ≠ some .query) :
    Reads (name.map .char ++ ps) t ↔ ∃ rest, t = name ++ rest ∧ Reads ps rest := by
  induction name generalizing t with
  | nil => simp
  | cons c name ih =>
    have later : (name.map Piece.char ++ ps).head? ≠ some .query := by
      cases name with
      | nil => exact unmarked
      | cons d name => simp
    rw [List.map_cons, List.cons_append, reads_char_iff later]
    constructor
    · rintro ⟨u, v, rfl, rfl, follows⟩
      obtain ⟨rest, rfl, behind⟩ := ih.1 follows
      exact ⟨rest, rfl, behind⟩
    · rintro ⟨rest, rfl, behind⟩
      exact ⟨[c], name ++ rest, rfl, rfl, ih.2 ⟨rest, rfl, behind⟩⟩

/-- A name before a slash and two stars. -/
theorem reads_below_iff (star : '*' ∉ name) (query : '?' ∉ name) :
    Reads (pieces (name ++ "/**".toList)) t ↔ ∃ run, t = name ++ '/' :: run ∧ '\n' ∉ run := by
  have slash : pieces "/**".toList = [.char '/'] ++ [.anyRun] := by decide
  rw [pieces_append_of_literal star query, slash, reads_map_char_append_iff (by simp)]
  constructor
  · rintro ⟨rest, rfl, reads⟩
    obtain ⟨u, v, rfl, rfl, below⟩ := (reads_char_iff (by simp)).1 reads
    obtain ⟨run, nothing, rfl, clean, ends⟩ := reads_anyRun_iff.1 below
    obtain rfl := reads_nil_iff.1 ends
    exact ⟨run, by simp, clean⟩
  · rintro ⟨run, rfl, clean⟩
    refine ⟨'/' :: run, rfl, (reads_char_iff (by simp)).2 ⟨['/'], run, rfl, rfl, ?_⟩⟩
    exact reads_anyRun_iff.2 ⟨run, [], by simp, clean, .done⟩

/-- Such a pattern stands for the paths with a directory of the name. -/
theorem denotes_directoryPattern_iff (literal : IsLiteralName name) (oneLine : '\n' ∉ path) :
    Denotes (directoryPattern name) path ↔ name ∈ directoriesOf path := by
  have leading : Text.after? "**/".toList (directoryPattern name) = some (name ++ "/**".toList) :=
    Text.after?_eq_some_iff.2 rfl
  rw [Denotes, leading, directoriesOf, Text.mem_dropLast_splitOn_iff literal.slash]
  simp only [reads_below_iff literal.star literal.query]
  constructor
  · rintro ⟨lead, rest, rfl, ends, run, rfl, -⟩
    refine ⟨lead, run, rfl, ?_⟩
    rcases ends with rfl | ⟨d, -, rfl⟩
    · exact .inl rfl
    · exact .inr ⟨d, rfl⟩
  · rintro ⟨lead, run, rfl, ends⟩
    simp only [List.mem_append, List.mem_cons, not_or] at oneLine
    obtain ⟨cleanLead, -, -, cleanRun⟩ := oneLine
    refine ⟨lead, name ++ '/' :: run, rfl, ?_, run, rfl, cleanRun⟩
    rcases ends with rfl | ⟨d, rfl⟩
    · exact .inl rfl
    · exact .inr ⟨d, fun inside => cleanLead (List.mem_append_left _ inside), rfl⟩

/-- The last component lies in no directory, so only the whole path counts. -/
theorem excludes_directoryPattern_iff (literal : IsLiteralName name) (oneLine : '\n' ∉ path) :
    Excludes (directoryPattern name) path ↔ name ∈ directoriesOf path := by
  have alone : directoriesOf (baseName path) = [] := by
    rw [directoriesOf, List.splitOn_eq_singleton (slash_not_mem_baseName path)]
    rfl
  have oneLineBase : '\n' ∉ baseName path := fun inside => oneLine (baseName_subset path inside)
  rw [Excludes, denotes_directoryPattern_iff literal oneLine,
    denotes_directoryPattern_iff literal oneLineBase, alone]
  simp

theorem not_mem_directoryPattern {c : Char} (clean : c ∉ name) (other : c ≠ '/' ∧ c ≠ '*') :
    c ∉ directoryPattern name := by
  simp [directoryPattern, clean, other]

/-- Patterns for directories are never at fault. They keep, in order and as often as they occur, exactly the
paths of which no component before the last one has one of the names. -/
theorem filterIgnored_directoryPatterns (literal : ∀ name ∈ names, IsLiteralName name)
    (oneLine : ∀ path ∈ paths, '\n' ∉ path) :
    filterIgnored paths (names.map directoryPattern) =
      .ok (paths.filter fun path => ∀ name ∈ names, name ∉ directoriesOf path) := by
  have clean : ∀ pattern ∈ names.map directoryPattern, '\x00' ∉ pattern :=
    List.forall_mem_map.2 fun name member =>
      not_mem_directoryPattern (literal name member).nul (by decide)
  have sound : ∀ pattern ∈ names.map directoryPattern, ¬ Malformed pattern :=
    List.forall_mem_map.2 fun name member malformed =>
      not_mem_directoryPattern (literal name member).query (by decide)
        (query_mem_of_malformed malformed)
  refine filterIgnored_eq_filter clean sound ?_
  intro path member
  rw [decide_eq_true_iff, not_exists]
  constructor
  · rintro free pattern ⟨listed, excludes⟩
    obtain ⟨name, named, rfl⟩ := List.mem_map.1 listed
    exact free name named ((excludes_directoryPattern_iff (literal name named) (oneLine path member)).1 excludes)
  · intro free name named inside
    have excludes := (excludes_directoryPattern_iff (literal name named) (oneLine path member)).2 inside
    exact free (directoryPattern name) ⟨List.mem_map_of_mem named, excludes⟩

/-- Points and brackets in a name stand for themselves, directories count at the front and at any depth, and
a last component of the name does not count. -/
theorem filterIgnored_directoryPatterns_bracketed :
    let names := ["node_modules".toList, "a.b(c)".toList, []]
    let paths := ["src/node_modules/x.ts".toList, "src/node_modules".toList, "a.b(c)/d".toList,
      "axb(c)/d".toList, "/e".toList, "src/node_modules".toList]
    (∀ name ∈ names, IsLiteralName name) ∧ (∀ path ∈ paths, '\n' ∉ path) ∧
      filterIgnored paths (names.map directoryPattern) =
        .ok ["src/node_modules".toList, "axb(c)/d".toList, "src/node_modules".toList] := by
  refine ⟨by decide, by decide, ?_⟩
  rw [filterIgnored_directoryPatterns (by decide) (by decide)]
  decide

end Directories

end TagOrigin
