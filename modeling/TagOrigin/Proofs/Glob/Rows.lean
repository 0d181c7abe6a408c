import TagOrigin.Glob.Matching

/-!
What an expression matches, and that the rows compute it. `Expression.Spells` says it without
rows: a text is cut into as many parts as there are items, in order, and each part is spelled by its
item. A row of answers tells of a set of texts if its entries say which rests of the text belong to
the set. Each item turns a row that tells of what may follow into one that tells of the item and what
may follow, so the first entry of the last row decides.
-/
namespace TagOrigin.Glob

/-- One occurrence of an atom. -/
def Atom.Spells : Atom → Text → Prop
  | .directories, u => ∃ d, '\n' ∉ d ∧ u = d ++ ['/']
  | a, u => ∃ c, a.admits c = true ∧ u = [c]

/-- As many occurrences of the atom as the item asks for. -/
def Item.Spells (item : Item) (u : Text) : Prop :=
  match item.times with
  | .once => item.atom.Spells u
  | .optional => u = [] ∨ item.atom.Spells u
  | .many => ∃ parts : List Text, u = parts.flatten ∧ ∀ part ∈ parts, item.atom.Spells part

/-- A part for every item, in order, with nothing left over. -/
def Expression.Spells : Expression → Text → Prop
  | [], t => t = []
  | item :: rest, t => ∃ u v, t = u ++ v ∧ item.Spells u ∧ Expression.Spells rest v

/-- A part of one set, then a rest of another. -/
def Then (first rest : Text → Prop) (t : Text) : Prop :=
  ∃ u v, t = u ++ v ∧ first u ∧ rest v

/-- A row whose entries say which rests of a text belong to a set. -/
inductive Tells (set : Text → Prop) : Text → List Bool → Prop where
  | nil {b : Bool} : (b = true ↔ set []) → Tells set [] [b]
  | cons {b : Bool} {c : Char} {t : Text} {row : List Bool} :
      (b = true ↔ set (c :: t)) → Tells set t row → Tells set (c :: t) (b :: row)

variable {first rest set other : Text → Prop} {t : Text} {row row' : List Bool}

namespace Tells

theorem headD_iff (tells : Tells set t row) : row.headD false = true ↔ set t := by
  cases tells with
  | nil here => exact here
  | cons here _ => exact here

theorem congr (same : ∀ s, set s ↔ other s) (tells : Tells set t row) : Tells other t row := by
  induction tells with
  | nil here => exact .nil (here.trans (same _))
  | cons here _ ih => exact .cons (here.trans (same _)) ih

theorem or (left : Tells set t row) (right : Tells other t row') :
    Tells (fun s => set s ∨ other s) t (List.zipWith (· || ·) row row') := by
  induction left generalizing row' with
  | nil here =>
    cases right with
    | nil here' => exact .nil (by rw [Bool.or_eq_true, here, here'])
  | cons here _ ih =>
    cases right with
    | cons here' later => exact .cons (by rw [Bool.or_eq_true, here, here']) (ih later)

theorem emptyRow (t : Text) : Tells (· = []) t (emptyRow t) := by
  induction t with
  | nil => exact .nil (by simp)
  | cons c t ih => exact .cons (by simp) ih

end Tells

section OneCharacter

variable {p : Char → Bool}

/-- One character of a class. -/
def Single (p : Char → Bool) (u : Text) : Prop := ∃ c, p c = true ∧ u = [c]

theorem not_single_then_nil : ¬ Then (Single p) rest [] := by
  rintro ⟨u, v, split, ⟨c, _, rfl⟩, _⟩
  cases split

theorem single_then_cons {c : Char} : Then (Single p) rest (c :: t) ↔ p c = true ∧ rest t := by
  constructor
  · rintro ⟨u, v, split, ⟨a, admitted, rfl⟩, follows⟩
    obtain ⟨rfl, rfl⟩ := List.cons.inj split
    exact ⟨admitted, follows⟩
  · rintro ⟨admitted, follows⟩
    exact ⟨[c], t, rfl, ⟨c, admitted, rfl⟩, follows⟩

theorem Tells.onceRow (tells : Tells rest t row) :
    Tells (Then (Single p) rest) t (onceRow p t row) := by
  induction tells with
  | nil _ => exact .nil (by simp [not_single_then_nil])
  | cons _ later ih =>
    refine .cons ?_ ih
    rw [List.tail_cons, Bool.and_eq_true, later.headD_iff, single_then_cons]

/-- A run of characters of a class. -/
def Run (p : Char → Bool) (u : Text) : Prop := ∀ c ∈ u, p c = true

theorem run_then_nil : Then (Run p) rest [] ↔ rest [] := by
  constructor
  · rintro ⟨u, v, split, _, follows⟩
    rw [(List.append_eq_nil_iff.1 split.symm).2] at follows
    exact follows
  · intro follows
    exact ⟨[], [], rfl, by simp [Run], follows⟩

/-- A run may be over, or it takes one character more. -/
theorem run_then_cons {c : Char} :
    Then (Run p) rest (c :: t) ↔ rest (c :: t) ∨ p c = true ∧ Then (Run p) rest t := by
  constructor
  · rintro ⟨u, v, split, inside, follows⟩
    cases u with
    | nil => exact .inl (split ▸ follows)
    | cons a u =>
      obtain ⟨rfl, rfl⟩ := List.cons.inj split
      obtain ⟨admitted, inside⟩ := List.forall_mem_cons.1 inside
      exact .inr ⟨admitted, u, v, rfl, inside, follows⟩
  · rintro (follows | ⟨admitted, u, v, rfl, inside, follows⟩)
    · exact ⟨[], c :: t, rfl, by simp [Run], follows⟩
    · exact ⟨c :: u, v, rfl, List.forall_mem_cons.2 ⟨admitted, inside⟩, follows⟩

theorem Tells.manyRow (tells : Tells rest t row) :
    Tells (Then (Run p) rest) t (manyRow p t row) := by
  induction tells with
  | nil here => exact .nil (here.trans run_then_nil.symm)
  | cons here _ ih =>
    refine .cons ?_ ih
    rw [List.headD_cons, List.tail_cons, Bool.or_eq_true, Bool.and_eq_true, here, ih.headD_iff,
      run_then_cons]

end OneCharacter

section LeadingDirectories

theorem not_directories_then_nil : ¬ Then Atom.directories.Spells rest [] := by
  rintro ⟨u, v, split, ⟨d, _, rfl⟩, _⟩
  simp at split

/-- Directories end at a slash, or they take one character more. -/
theorem directories_then_cons {c : Char} :
    Then Atom.directories.Spells rest (c :: t) ↔
      c = '/' ∧ rest t ∨ c ≠ '\n' ∧ Then Atom.directories.Spells rest t := by
  constructor
  · rintro ⟨u, v, split, ⟨d, clean, rfl⟩, follows⟩
    cases d with
    | nil =>
      obtain ⟨rfl, rfl⟩ := List.cons.inj split
      exact .inl ⟨rfl, follows⟩
    | cons a d =>
      obtain ⟨rfl, rfl⟩ := List.cons.inj split
      have other := (List.ne_of_not_mem_cons clean).symm
      exact .inr ⟨other, d ++ ['/'], v, rfl, ⟨d, List.not_mem_of_not_mem_cons clean, rfl⟩, follows⟩
  · rintro (⟨rfl, follows⟩ | ⟨other, u, v, rfl, ⟨d, clean, rfl⟩, follows⟩)
    · exact ⟨['/'], t, rfl, ⟨[], List.not_mem_nil, rfl⟩, follows⟩
    · refine ⟨c :: d ++ ['/'], v, rfl, ⟨c :: d, ?_, rfl⟩, follows⟩
      exact List.not_mem_cons_of_ne_of_not_mem other.symm clean

theorem Tells.directoriesRow (tells : Tells rest t row) :
    Tells (Then Atom.directories.Spells rest) t (directoriesRow t row) := by
  induction tells with
  | nil _ => exact .nil (by simp [not_directories_then_nil])
  | cons _ later ih =>
    refine .cons ?_ ih
    rw [List.tail_cons, Bool.or_eq_true, Bool.and_eq_true, Bool.and_eq_true, later.headD_iff,
      ih.headD_iff, directories_then_cons, beq_iff_eq, bne_iff_ne]

/-- Directories in sequence are directories again. -/
theorem directories_of_parts {parts : List Text}
    (each : ∀ part ∈ parts, Atom.directories.Spells part) :
    parts.flatten = [] ∨ Atom.directories.Spells parts.flatten := by
  induction parts with
  | nil => exact .inl rfl
  | cons part parts ih =>
    obtain ⟨⟨d, clean, rfl⟩, others⟩ := List.forall_mem_cons.1 each
    right
    rcases ih others with nothing | ⟨d', clean', more⟩
    · exact ⟨d, clean, by rw [List.flatten_cons, nothing, List.append_nil]⟩
    · refine ⟨d ++ '/' :: d', ?_, by simp [more]⟩
      simp [clean, clean']

end LeadingDirectories

/-- All atoms but directories stand for single characters. -/
theorem Atom.spells_eq_single {a : Atom} (narrow : a ≠ .directories) :
    a.Spells = Single a.admits := by
  cases a with
  | directories => exact absurd rfl narrow
  | char c => rfl
  | anyChar => rfl
  | nonSlash => rfl

theorem Atom.row_eq_onceRow {a : Atom} (narrow : a ≠ .directories) :
    a.row t row = onceRow a.admits t row := by
  cases a with
  | directories => exact absurd rfl narrow
  | char c => rfl
  | anyChar => rfl
  | nonSlash => rfl

theorem Item.row_eq_manyRow {a : Atom} (narrow : a ≠ .directories) :
    Item.row ⟨a, .many⟩ t row = manyRow a.admits t row := by
  cases a with
  | directories => exact absurd rfl narrow
  | char c => rfl
  | anyChar => rfl
  | nonSlash => rfl

/-- Single characters of a class in sequence are a run of it. -/
theorem Item.many_spells_iff {a : Atom} (narrow : a ≠ .directories) (u : Text) :
    Item.Spells ⟨a, .many⟩ u ↔ Run a.admits u := by
  rw [Item.Spells, Atom.spells_eq_single narrow]
  constructor
  · rintro ⟨parts, rfl, each⟩ c member
    obtain ⟨part, inside, member⟩ := List.mem_flatten.1 member
    obtain ⟨a, admitted, rfl⟩ := each part inside
    exact List.mem_singleton.1 member ▸ admitted
  · intro inside
    refine ⟨u.map ([·]), ?_, ?_⟩
    · rw [← List.flatMap_def, List.flatMap_singleton']
    · intro part member
      obtain ⟨c, there, rfl⟩ := List.mem_map.1 member
      exact ⟨c, inside c there, rfl⟩

theorem Item.many_directories_iff (u : Text) :
    Item.Spells ⟨.directories, .many⟩ u ↔ u = [] ∨ Atom.directories.Spells u := by
  constructor
  · rintro ⟨parts, rfl, each⟩
    exact directories_of_parts each
  · rintro (rfl | spelled)
    · exact ⟨[], rfl, by simp⟩
    · exact ⟨[u], by simp, by simpa using spelled⟩

/-- Something or nothing before a rest. -/
theorem optional_then_iff : Then (fun u => u = [] ∨ first u) rest t ↔ rest t ∨ Then first rest t := by
  constructor
  · rintro ⟨u, v, rfl, rfl | spelled, follows⟩
    · exact .inl follows
    · exact .inr ⟨u, v, rfl, spelled, follows⟩
  · rintro (follows | ⟨u, v, rfl, spelled, follows⟩)
    · exact ⟨[], t, rfl, .inl rfl, follows⟩
    · exact ⟨u, v, rfl, .inr spelled, follows⟩

theorem Then.congr_left {first' : Text → Prop} (same : ∀ u, first u ↔ first' u) :
    Then first rest t ↔ Then first' rest t := by
  unfold Then
  simp only [same]

theorem Tells.atomRow (a : Atom) (tells : Tells rest t row) :
    Tells (Then a.Spells rest) t (a.row t row) := by
  by_cases wide : a = .directories
  · subst wide
    exact tells.directoriesRow
  · rw [Atom.row_eq_onceRow wide, Atom.spells_eq_single wide]
    exact tells.onceRow

/-- The row of an item tells of the item and what may follow it. -/
theorem Tells.itemRow (item : Item) (tells : Tells rest t row) :
    Tells (Then item.Spells rest) t (item.row t row) := by
  obtain ⟨a, times⟩ := item
  cases times with
  | once => exact tells.atomRow a
  | optional => exact (tells.or (tells.atomRow a)).congr fun _ => optional_then_iff.symm
  | many =>
    by_cases wide : a = .directories
    · subst wide
      refine (tells.or tells.directoriesRow).congr fun s => ?_
      rw [← optional_then_iff, Then.congr_left Item.many_directories_iff]
    · rw [Item.row_eq_manyRow wide]
      exact tells.manyRow.congr fun s => (Then.congr_left (Item.many_spells_iff wide)).symm

theorem Tells.expressionRow (e : Expression) (t : Text) :
    Tells (Expression.Spells e) t (Expression.row e t) := by
  induction e with
  | nil => exact Tells.emptyRow t
  | cons item e ih => exact ih.itemRow item

/-- An expression accepts exactly the texts that it spells. -/
theorem Expression.accepts_iff (e : Expression) (t : Text) :
    e.accepts t = true ↔ Expression.Spells e t :=
  (Tells.expressionRow e t).headD_iff

end TagOrigin.Glob
