import TagOrigin.Files.Walk
import TagOrigin.Proofs.Text.Order
import TagOrigin.Proofs.Text.Pieces

/-!
Names and written paths. A directory lists the names of its entries in increasing order, each once.
A path in normal form can be told from its text, also when names of entries have been added to it.
-/
namespace TagOrigin.Files

/-- A name that an entry of a directory can have. -/
structure IsName (name : Text) : Prop where
  nonempty : name ≠ []
  notPoint : name ≠ ['.']
  notParent : name ≠ ['.', '.']
  noSlash : '/' ∉ name
  noNull : Char.ofNat 0 ∉ name

instance (name : Text) : Decidable (IsName name) :=
  decidable_of_iff
    (name ≠ [] ∧ name ≠ ['.'] ∧ name ≠ ['.', '.'] ∧ '/' ∉ name ∧ Char.ofNat 0 ∉ name)
    ⟨fun ⟨nonempty, notPoint, notParent, noSlash, noNull⟩ =>
      { nonempty, notPoint, notParent, noSlash, noNull },
    fun h => ⟨h.nonempty, h.notPoint, h.notParent, h.noSlash, h.noNull⟩⟩

namespace FileSystem

/-- Every entry has names that entries can have. -/
def IsProper (fs : FileSystem) : Prop :=
  ∀ entry ∈ fs.entries, ∀ name ∈ entry.1, IsName name

instance (fs : FileSystem) : Decidable fs.IsProper :=
  inferInstanceAs (Decidable (∀ entry ∈ fs.entries, ∀ name ∈ entry.1, IsName name))

section Listing

variable {fs : FileSystem} {location : Location} {name : Text} {node : Node}

theorem mem_entries_of_node? (there : fs.node? location = some node) :
    (location, node) ∈ fs.entries := by
  obtain ⟨entry, found, rfl⟩ := Option.map_eq_some_iff.1 there
  have same : entry.1 = location := by simpa using List.find?_some found
  exact same ▸ List.mem_of_find?_eq_some found

theorem exists_node?_iff : (∃ node, fs.node? location = some node) ↔
    ∃ entry ∈ fs.entries, entry.1 = location := by
  constructor
  · rintro ⟨node, there⟩
    exact ⟨(location, node), mem_entries_of_node? there, rfl⟩
  · rintro ⟨entry, member, same⟩
    have found : (fs.entries.find? fun entry => entry.1 = location).isSome :=
      List.find?_isSome.2 ⟨entry, member, by simpa using same⟩
    obtain ⟨other, found⟩ := Option.isSome_iff_exists.1 found
    exact ⟨other.2, by rw [node?, found]; rfl⟩

theorem IsProper.isName (proper : fs.IsProper)
    (there : fs.node? (location ++ [name]) = some node) : IsName name :=
  proper _ (mem_entries_of_node? there) name (by simp)

/-- A directory lists the names under which something lies in it. -/
theorem mem_names_iff :
    name ∈ fs.names location ↔ ∃ node, fs.node? (location ++ [name]) = some node := by
  rw [names, sortNames, List.mem_mergeSort, mem_distinct, List.mem_filterMap, exists_node?_iff]
  refine exists_congr fun entry => and_congr_right fun _ => ?_
  constructor
  · intro last
    split at last
    · next inside =>
      rw [← inside]
      exact (List.dropLast_append_getLast? name last).symm
    · cases last
  · intro same
    rw [same, List.dropLast_concat, if_pos rfl, List.getLast?_concat]

theorem IsProper.isName_of_mem_names (proper : fs.IsProper) (member : name ∈ fs.names location) :
    IsName name := by
  obtain ⟨node, there⟩ := mem_names_iff.1 member
  exact proper.isName there

theorem pairwise_sortNames (names : List Text) : (sortNames names).Pairwise Text.Before := by
  have once : (sortNames names).Nodup :=
    (List.mergeSort_perm _ _).nodup_iff.2 (nodup_distinct names)
  refine (List.pairwise_mergeSort Text.precedes_trans Text.precedes_total _).imp₂ ?_ once
  intro s t ordered different
  exact (Text.precedes_iff.1 ordered).resolve_left different

/-- A directory lists its names in increasing order, each once. -/
theorem pairwise_names (fs : FileSystem) (location : Location) :
    (fs.names location).Pairwise Text.Before :=
  pairwise_sortNames _

end Listing

end FileSystem

namespace Path

/-- The path that some names lead to from a path. -/
def descend (path : Path) (names : List Text) : Path :=
  { path with parts := path.parts ++ names }

section Descent

variable (path : Path) (name : Text) (names : List Text)

@[simp] theorem descend_nil : path.descend [] = path := by
  simp [descend]

@[simp] theorem descend_cons :
    path.descend (name :: names) = (path.child name).descend names := by
  simp [descend, child]

@[simp] theorem parts_descend : (path.descend names).parts = path.parts ++ names :=
  rfl

variable {path name}

theorem hasNull_child (clean : path.hasNull = false) (proper : IsName name) :
    (path.child name).hasNull = false := by
  have last : name.contains (Char.ofNat 0) = false := by simpa using proper.noNull
  rw [hasNull] at clean
  simp only [hasNull, child, List.any_append, clean, List.any_cons, last, List.any_nil,
    Bool.or_false]

theorem hasNull_descend {names : List Text} (clean : path.hasNull = false)
    (proper : ∀ name ∈ names, IsName name) : (path.descend names).hasNull = false := by
  induction names generalizing path with
  | nil => rwa [descend_nil]
  | cons name names ih =>
    obtain ⟨first, proper⟩ := List.forall_mem_cons.1 proper
    rw [descend_cons]
    exact ih (hasNull_child clean first) proper

end Descent

/-- Whether a component counts: it is none of those that normal forms leave out. -/
structure IsPart (part : Text) : Prop where
  nonempty : part ≠ []
  notPoint : part ≠ ['.']
  noSlash : '/' ∉ part

/-- A path as it is read from a text. -/
structure IsNormal (path : Path) : Prop where
  anchor : path.anchor = [] ∨ path.anchor = ['/'] ∨ path.anchor = ['/', '/']
  parts : ∀ part ∈ path.parts, IsPart part

section Text

variable {path : Path}

/-- A text without the character that no name can hold is a path without it. -/
theorem hasNull_ofText {t : TagOrigin.Text} (noNull : Char.ofNat 0 ∉ t) :
    (ofText t).hasNull = false := by
  rw [hasNull, List.any_eq_false]
  intro part member null
  have inside : Char.ofNat 0 ∈ part := by simpa using null
  exact noNull ((TagOrigin.Text.of_mem_splitOn (List.mem_filter.1 member).1).2.subset inside)

theorem isNormal_ofText (t : TagOrigin.Text) : (ofText t).IsNormal where
  anchor := by
    show anchorOf t = [] ∨ anchorOf t = ['/'] ∨ anchorOf t = ['/', '/']
    unfold anchorOf
    split <;> simp
  parts := by
    intro part member
    obtain ⟨inside, counts⟩ := List.mem_filter.1 member
    simp only [ne_eq, Bool.and_eq_true, decide_eq_true_eq] at counts
    exact ⟨by simpa using counts.1, by simpa using counts.2, (TagOrigin.Text.of_mem_splitOn inside).1⟩

theorem IsNormal.descend (normal : path.IsNormal) {names : List TagOrigin.Text}
    (proper : ∀ name ∈ names, IsName name) : (path.descend names).IsNormal where
  anchor := normal.anchor
  parts := by
    intro part member
    rcases List.mem_append.1 member with inside | added
    · exact normal.parts part inside
    · exact ⟨(proper part added).nonempty, (proper part added).notPoint, (proper part added).noSlash⟩

theorem components_slash (t : TagOrigin.Text) : components ('/' :: t) = components t := by
  have empty : ('/' :: t).splitOn '/' = [] :: t.splitOn '/' := by
    rw [List.splitOn_cons_eq_if_modifyHead, if_pos (beq_self_eq_true '/')]
  simp [components, empty]

/-- Parts of a path are found again between the slashes. -/
theorem components_join {parts : List TagOrigin.Text} (nonempty : parts ≠ [])
    (counts : ∀ part ∈ parts, IsPart part) : components (Text.join ['/'] parts) = parts := by
  have noSlash : ∀ part ∈ parts, '/' ∉ part := fun part member => (counts part member).noSlash
  rw [components, Text.join, List.splitOn_intercalate '/' noSlash nonempty, List.filter_eq_self]
  intro part member
  simp [(counts part member).nonempty, (counts part member).notPoint]

/-- A path with parts is written from its first part on without a slash at the front. -/
theorem exists_join_eq_cons {parts : List TagOrigin.Text} (nonempty : parts ≠ [])
    (counts : ∀ part ∈ parts, IsPart part) :
    ∃ c t, Text.join ['/'] parts = c :: t ∧ c ≠ '/' := by
  obtain ⟨part, rest, rfl⟩ := List.exists_cons_of_ne_nil nonempty
  have first := counts part List.mem_cons_self
  obtain ⟨c, cs, rfl⟩ := List.exists_cons_of_ne_nil first.nonempty
  have different : c ≠ '/' := fun same => first.noSlash (same ▸ List.mem_cons_self)
  exact ⟨c, _, List.intercalate_cons_cons_left, different⟩

/-- A path in normal form is read back from its text. -/
theorem ofText_text (normal : path.IsNormal) : ofText path.text = path := by
  obtain ⟨anchor, parts⟩ := path
  have anchored := normal.anchor
  cases parts with
  | nil => rcases anchored with rfl | rfl | rfl <;> rfl
  | cons part rest =>
    have nonempty : part :: rest ≠ [] := List.cons_ne_nil part rest
    obtain ⟨c, t, joined, different⟩ := exists_join_eq_cons nonempty normal.parts
    have parts : components (c :: t) = part :: rest := joined ▸ components_join nonempty normal.parts
    have written : text ⟨anchor, part :: rest⟩ = anchor ++ c :: t := by
      rw [text, joined]
      cases anchor <;> rfl
    rw [written, ofText]
    rcases anchored with rfl | rfl | rfl
    · simp [anchorOf, different, parts]
    · simp [anchorOf, different, components_slash, parts]
    · simp [anchorOf, different, components_slash, parts]

end Text

end Path

end TagOrigin.Files
