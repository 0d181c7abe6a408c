import Mathlib.Data.List.Basic
import Mathlib.Data.List.Find
import TagOrigin.Import.Binding
import TagOrigin.Proofs.Import.Grammar
import TagOrigin.Proofs.Register
import TagOrigin.Proofs.Text.Search

/-!
What the bindings of a text are. Each pass finds the strings of its grammar: its matches are
disjoint, each is the longest string of the grammar at its place, and no string of the grammar
begins outside of them, however the text nests, overlaps or cuts off its statements. A name has the
text of the last statement that binds it, with every grouped statement later than every single one,
and the names stand in the order in which they are first bound.
-/
namespace TagOrigin.Import

section Search

/-- The statement at the front of a text, with its width. -/
def find (shape : Shape) (t : Text) : Option (Statement × Nat) :=
  (Statement.read shape t).map fun (s, _) => (s, s.text.length)

/-- The statements of one shape in a text, with their places. -/
def placed (shape : Shape) (t : Text) : List (Scan.Span Statement) :=
  Scan.spans (find shape) 0 0 t

variable {shape : Shape} {t : Text} {s : Statement} {width : Nat}

theorem find_eq_some_iff :
    find shape t = some (s, width) ↔
      width = s.text.length ∧ ∃ rest, Statement.read shape t = some (s, rest) := by
  rw [find, Option.map_eq_some_iff]
  constructor
  · rintro ⟨⟨s, rest⟩, reads, same⟩
    obtain ⟨rfl, rfl⟩ := Prod.mk.inj same
    exact ⟨rfl, rest, reads⟩
  · rintro ⟨rfl, rest, reads⟩
    exact ⟨(s, rest), reads, rfl⟩

theorem find_positive (t : Text) (s : Statement) (width : Nat)
    (found : find shape t = some (s, width)) : 0 < width := by
  rw [(find_eq_some_iff.1 found).1]
  exact List.length_pos_iff.2 s.text_ne_nil

/-- The places belong to the statements of the text, in order. -/
theorem map_item_placed (shape : Shape) (t : Text) :
    (placed shape t).map Scan.Span.item = statements shape t :=
  Scan.map_item_spans (find shape) 0 0 t

/-- A placed statement is read at its offset and is as wide as its text. -/
theorem read_of_mem_placed {p : Scan.Span Statement} (member : p ∈ placed shape t) :
    p.width = p.item.text.length ∧
      ∃ rest, Statement.read shape (t.drop p.offset) = some (p.item, rest) := by
  obtain ⟨n, place, _, _, reads⟩ := Scan.read_of_mem_spans member
  rw [place, Nat.zero_add]
  exact find_eq_some_iff.1 reads

theorem shape_of_mem_statements (member : s ∈ statements shape t) : s.shape = shape := by
  rw [← map_item_placed] at member
  obtain ⟨p, inside, rfl⟩ := List.mem_map.1 member
  obtain ⟨_, rest, reads⟩ := read_of_mem_placed inside
  exact (Statement.read_eq_some_iff.1 reads).2.1

/-- The places of one pass account for all strings of its grammar. -/
structure Accounts (shape : Shape) (t : Text) (found : List (Scan.Span Statement)) : Prop where
  inOrder : found.map Scan.Span.item = statements shape t
  disjoint : found.Pairwise fun a b => a.offset + a.item.text.length ≤ b.offset
  grammatical : ∀ p ∈ found, InGrammar shape p.item.text ∧ p.item.text <+: t.drop p.offset
  /-- A string of the grammar at the same place differs by the final semicolon at most, and if it
  does then the reported one has the semicolon. -/
  longest : ∀ p ∈ found, ∀ g, InGrammar shape g → g <+: t.drop p.offset →
    g = p.item.text ∨ g ++ [';'] = p.item.text
  complete : ∀ o g, InGrammar shape g → g <+: t.drop o →
    ∃ p ∈ found, p.offset ≤ o ∧ o < p.offset + p.item.text.length

theorem accounts_placed (shape : Shape) (t : Text) : Accounts shape t (placed shape t) where
  inOrder := map_item_placed shape t
  disjoint := by
    refine (Scan.pairwise_spans (find shape) 0 0 t).imp_of_mem ?_
    intro a b member _ apart
    rw [← (read_of_mem_placed member).1]
    exact apart
  grammatical := by
    intro p member
    obtain ⟨_, rest, reads⟩ := read_of_mem_placed member
    exact ⟨inGrammar_of_read reads, rest, (Statement.eq_text_append_of_read reads).symm⟩
  longest := by
    intro p member g grammatical front
    obtain ⟨_, rest, reads⟩ := read_of_mem_placed member
    obtain ⟨s, rest', reads', same⟩ := Statement.exists_read_of_prefix grammatical front
    obtain ⟨rfl, rfl⟩ := Prod.mk.inj (Option.some.inj (reads.symm.trans reads'))
    exact same
  complete := by
    intro o g grammatical front
    obtain ⟨s, rest, reads, _⟩ := Statement.exists_read_of_prefix grammatical front
    have inside : o < t.length := by
      by_contra outside
      rw [List.drop_eq_nil_of_le (Nat.le_of_not_lt outside)] at reads
      cases reads
    have found : (find shape (t.drop o)).isSome := by rw [find, reads]; rfl
    obtain ⟨p, member, low, high⟩ :=
      Scan.exists_span_of_read find_positive 0 (Nat.zero_le o) inside found
    have width := (read_of_mem_placed member).1
    exact ⟨p, member, by omega, by omega⟩

end Search

section Binding

/-- What a statement writes: its text, under each of its names. -/
def Statement.entries (s : Statement) : List (Text × Text) :=
  s.names.map fun name => (name, s.text)

/-- Binding the names of several statements is writing all their entries one after the other. -/
theorem foldl_add_eq_putAll (ss : List Statement) (b : Bindings) :
    ss.foldl Bindings.add b = Register.putAll (ss.flatMap Statement.entries) b := by
  induction ss generalizing b with
  | nil => rfl
  | cons s ss ih =>
    rw [List.foldl_cons, ih, List.flatMap_cons, Register.putAll, Register.putAll, Bindings.add,
      Register.putAll, List.foldl_append]
    rfl

theorem keys_foldl_add (ss : List Statement) :
    Register.keys (ss.foldl Bindings.add []) = distinct (ss.flatMap Statement.names) := by
  have names : (ss.flatMap Statement.entries).map Prod.fst = ss.flatMap Statement.names := by
    rw [List.map_flatMap]
    apply List.flatMap_congr
    intro s _
    rw [Statement.entries, List.map_map]
    exact List.map_id s.names
  have empty : (Register.keys ([] : Bindings)).Nodup := List.nodup_nil
  rw [foldl_add_eq_putAll, Register.keys_putAll _ empty, names]
  rfl

/-- The last statement that binds a name decides. -/
theorem get?_foldl_add (ss : List Statement) (b : Bindings) (name : Text) :
    Register.get? name (ss.foldl Bindings.add b) =
      ((ss.findRev? (name ∈ ·.names)).map Statement.text).or (Register.get? name b) := by
  induction ss generalizing b with
  | nil => rfl
  | cons s ss ih =>
    rw [List.foldl_cons, ih, Bindings.add, Register.get?_putAll_const, List.findRev?]
    cases ss.findRev? (name ∈ ·.names) with
    | some later => rfl
    | none => by_cases binds : name ∈ s.names <;> simp [binds]

end Binding

theorem names_of_mem_single {t : Text} {s : Statement} (member : s ∈ statements .single t) :
    s.names = [s.subject] := by
  rw [Statement.names, shape_of_mem_statements member]

theorem names_of_mem_grouped {t : Text} {s : Statement} (member : s ∈ statements .grouped t) :
    s.names = localNames s.subject := by
  rw [Statement.names, shape_of_mem_statements member]

theorem findRev?_congr {p q : Statement → Bool} {ss : List Statement}
    (same : ∀ s ∈ ss, p s = q s) : ss.findRev? p = ss.findRev? q := by
  rw [List.findRev?_eq_find?_reverse, List.findRev?_eq_find?_reverse]
  exact List.find?_congr fun s member => same s (List.mem_reverse.1 member)

/-- The bindings of a text, declared by the two grammars and the order of the statements. -/
theorem bindings_of_grammar (t : Text) :
    (∀ shape o g g', InGrammar shape g → InGrammar shape g' → g <+: t.drop o → g' <+: t.drop o →
      g = g' ∨ g ++ [';'] = g' ∨ g' ++ [';'] = g) ∧
    (∀ shape, Accounts shape t (placed shape t)) ∧
    (∀ name, Register.get? name (bindings t) =
      (((statements .grouped t).findRev? (name ∈ localNames ·.subject)).or
        ((statements .single t).findRev? (·.subject = name))).map Statement.text) ∧
    Register.keys (bindings t) =
      distinct ((statements .single t).map Statement.subject) ++
        (distinct ((statements .grouped t).flatMap (localNames ·.subject))).filter
          (· ∉ (statements .single t).map Statement.subject) := by
  refine ⟨fun shape o g g' => eq_up_to_semicolon, fun shape => accounts_placed shape t, ?_, ?_⟩
  · intro name
    have grouped : (statements .grouped t).findRev? (name ∈ ·.names) =
        (statements .grouped t).findRev? (name ∈ localNames ·.subject) :=
      findRev?_congr fun s member => by rw [names_of_mem_grouped member]
    have single : (statements .single t).findRev? (name ∈ ·.names) =
        (statements .single t).findRev? (·.subject = name) :=
      findRev?_congr fun s member => by simp [names_of_mem_single member, eq_comm]
    rw [bindings, get?_foldl_add, ← grouped, ← single]
    simp [Register.get?]
  · have single : (statements .single t).flatMap Statement.names =
        (statements .single t).map Statement.subject := by
      rw [List.map_eq_flatMap]
      exact List.flatMap_congr fun s member => names_of_mem_single member
    have grouped : (statements .grouped t).flatMap Statement.names =
        (statements .grouped t).flatMap (localNames ·.subject) :=
      List.flatMap_congr fun s member => names_of_mem_grouped member
    rw [bindings, keys_foldl_add, List.flatMap_append, single, grouped, distinct_append]
    exact congrArg _ (List.filter_congr fun name _ => by simp)

end TagOrigin.Import
