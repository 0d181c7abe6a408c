import TagOrigin.Proofs.Import.Extraction
import TagOrigin.Proofs.Import.Silence
import TagOrigin.Proofs.Import.Specifiers

/-!
Reading back written import statements. A document is made of declarations with filler around them,
and each pass reads exactly the declarations of its shape: it begins no statement in a declaration of
the other shape or in filler, whatever names and modules are called and however filler is cut. So the
bindings of a document are the names of its single declarations and then those of its grouped ones,
each with the text of its own declaration.
-/
namespace TagOrigin.Import

abbrev Gap := { u : Text // IsGap u }

abbrev Quote := { c : Char // isQuote c = true }

abbrev ModuleName :=
  { u : Text // u ≠ [] ∧ ∀ c ∈ u, isQuote c = false ∧ Text.isBlank c = false }

/-- What a declaration imports: one name, or a list of specifiers in braces. -/
inductive Subject where
  | single (name : Name)
  | grouped (items : List Specifier)

namespace Subject

def shape : Subject → Shape
  | .single _ => .single
  | .grouped _ => .grouped

def text : Subject → Text
  | .single name => name
  | .grouped items => Specifier.write items

/-- The local names, in the order in which they are written. -/
def names : Subject → List Text
  | .single name => [name]
  | .grouped items => items.filterMap (·.item.localName?)

theorem admitted (s : Subject) (nonempty : s.text ≠ []) : s.shape.Admits s.text := by
  cases s with
  | single name => exact name.property
  | grouped items =>
    refine ⟨nonempty, ?_⟩
    intro brace
    exact absurd (isPlain_of_mem_write brace) (by decide)

/-- Where nothing is written nothing is imported. -/
theorem names_of_text_eq_nil {s : Subject} (empty : s.text = []) : s.names = [] := by
  cases s with
  | single name => exact absurd empty name.property.1
  | grouped items =>
    have nothing : Specifier.write items = [] := empty
    have read := localNames_write items
    rw [nothing] at read
    exact read.symm

end Subject

/-- An import statement as it is written. The two quotes may differ. -/
structure Declaration where
  subject : Subject
  module : ModuleName
  beforeSubject : Gap
  beforeFrom : Gap
  beforeModule : Gap
  openQuote : Quote
  closeQuote : Quote
  terminated : Bool

/-- Text without the keyword. -/
abbrev Filler := { u : Text // ¬ keyword <:+: u }

/-- A declaration and the filler behind it. -/
structure Part where
  declaration : Declaration
  filler : Filler
  /-- A semicolon right behind a declaration would belong to it. -/
  alone : declaration.terminated = false → filler.val.head? ≠ some ';'

structure Document where
  opening : Filler
  parts : List Part

namespace Declaration

variable (d : Declaration)

def statement : Statement where
  shape := d.subject.shape
  subject := d.subject.text
  module := d.module
  beforeSubject := d.beforeSubject
  beforeFrom := d.beforeFrom
  beforeModule := d.beforeModule
  openQuote := d.openQuote
  closeQuote := d.closeQuote
  terminated := d.terminated

def text : Text :=
  d.statement.text

/-- The local names of a declaration, each with the text of the declaration. -/
def entries : List (Text × Text) :=
  d.subject.names.map fun name => (name, d.text)

/-- What stands between the subject and the module. -/
def middle : Text :=
  d.beforeFrom ++ fromWord ++ d.beforeModule ++ [d.openQuote.val]

/-- The end of a declaration, from its module on. -/
def ending : Text :=
  d.module ++ [d.closeQuote.val] ++ if d.terminated then [';'] else []

theorem text_eq :
    d.text = keyword ++ d.beforeSubject ++ d.subject.shape.write d.subject.text ++ d.middle ++
      d.ending := by
  simp only [text, Statement.text, statement, middle, ending, List.append_assoc, List.cons_append,
    List.nil_append]
  rfl

theorem keyword_prefix_text : keyword <+: d.text := by
  rw [text_eq]
  simp only [List.append_assoc]
  exact List.prefix_append keyword _

/-- A declaration is a statement of the grammar, unless there is nothing in its braces. -/
theorem spelled (nonempty : d.subject.text ≠ []) : d.statement.Spelled where
  beforeSubject := d.beforeSubject.property
  subject := d.subject.admitted nonempty
  beforeFrom := d.beforeFrom.property
  beforeModule := d.beforeModule.property
  openQuote := d.openQuote.property
  module := ⟨d.module.property.1, fun c member => (d.module.property.2 c member).1⟩
  closeQuote := d.closeQuote.property

/-- The reader finds the local names that were written. -/
theorem names_statement : d.statement.names = d.subject.names := by
  rw [Statement.names, statement]
  cases d.subject with
  | single name => rfl
  | grouped items => exact localNames_write items

theorem entries_statement : d.statement.entries = d.entries := by
  rw [Statement.entries, names_statement, entries, text]

section Silences

variable {d} {shape : Shape} {rest : Text}

theorem silent_ending : Silent shape d.ending rest := by
  have foreign : d.closeQuote.val ∉ keyword := by
    intro member
    exact absurd (isPlain_of_mem_keyword member)
      (by simp [not_isPlain_of_isQuote d.closeQuote.property])
  have unspaced : ∀ c ∈ d.module.val ++ [d.closeQuote.val], Text.isBlank c = false := by
    intro c member
    rcases List.mem_append.1 member with inside | last
    · exact (d.module.property.2 c inside).2
    · rw [List.mem_singleton.1 last]
      exact not_isBlank_of_isQuote d.closeQuote.property
  refine silent_append (silent_of_unspaced unspaced foreign) (silent_of_not_mem ?_)
  cases d.terminated <;> decide

theorem silent_middle : Silent shape d.middle rest :=
  silent_fromWord d.beforeFrom.property d.beforeModule.property d.openQuote.property

/-- No grouped statement begins in a single declaration: the first special character in it is the
quote that opens its module. -/
theorem silent_of_single {name : Name} (subject : d.subject = .single name) :
    Silent .grouped d.text rest := by
  have front : keyword ++ d.beforeSubject ++ d.subject.shape.write d.subject.text ++ d.middle =
      keyword ++ d.beforeSubject ++ name ++ d.beforeFrom ++ fromWord ++ d.beforeModule ++
        [d.openQuote.val] := by
    simp [subject, Subject.shape, Subject.text, Shape.write, middle]
  rw [text_eq, front]
  refine silent_append (silent_of_unmarked ?_ (not_isPlain_of_isQuote d.openQuote.property))
    silent_ending
  intro c member
  simp only [List.mem_append, List.mem_singleton] at member
  rcases member with (((((inside | inside) | inside) | inside) | inside) | inside) | rfl
  · exact not_marks_of_isPlain (isPlain_of_mem_keyword inside)
  · exact not_marks_of_isPlain (isPlain_of_mem_gap d.beforeSubject.property inside)
  · exact not_marks_of_isPlain (isPlain_of_mem_name inside)
  · exact not_marks_of_isPlain (isPlain_of_mem_gap d.beforeFrom.property inside)
  · exact not_marks_of_isPlain (isPlain_of_mem_fromWord inside)
  · exact not_marks_of_isPlain (isPlain_of_mem_gap d.beforeModule.property inside)
  · intro brace
    exact absurd d.openQuote.property (by rw [brace]; decide)

/-- No single statement begins in a grouped declaration: the first special character in it is a
brace or a comma. -/
theorem silent_of_grouped {items : List Specifier} (subject : d.subject = .grouped items) :
    Silent .single d.text rest := by
  have front : keyword ++ d.beforeSubject ++ d.subject.shape.write d.subject.text =
      keyword ++ d.beforeSubject ++ ['\x7b'] ++ Specifier.write items ++ ['\x7d'] := by
    simp [subject, Subject.shape, Subject.text, Shape.write]
  have quoteless : ∀ c ∈ Specifier.write items, isQuote c = false :=
    fun c member => not_isQuote_of_isPlain_or_comma (isPlain_of_mem_write member)
  rw [text_eq, front]
  exact silent_append (silent_append (silent_list d.beforeSubject.property quoteless) silent_middle)
    silent_ending

/-- No statement begins in a declaration with empty braces. -/
theorem silent_of_empty (grouped : d.subject.shape = .grouped) (empty : d.subject.text = []) :
    Silent .grouped d.text rest := by
  have front : keyword ++ d.beforeSubject ++ d.subject.shape.write d.subject.text =
      'i' :: (['m', 'p', 'o', 'r', 't'] ++ d.beforeSubject ++ ['\x7b', '\x7d']) := by
    rw [grouped, empty]
    rfl
  rw [text_eq, front]
  refine silent_append (silent_append (silent_cons ?_ (silent_of_not_mem ?_)) silent_middle)
    silent_ending
  · have reads := read_empty_braces d.beforeSubject.property (d.middle ++ (d.ending ++ rest))
    simpa [keyword] using reads
  · simp [letter_not_mem_gap d.beforeSubject.property]

/-- A pass begins no statement in a declaration of the other shape, and none where nothing stands
between the braces. -/
theorem silent_text (foreign : d.subject.shape ≠ shape ∨ d.subject.text = []) :
    Silent shape d.text rest := by
  cases subject : d.subject with
  | single name =>
    rw [subject] at foreign
    cases shape with
    | single =>
      rcases foreign with other | empty
      · exact absurd rfl other
      · exact absurd empty name.property.1
    | grouped => exact silent_of_single subject
  | grouped items =>
    cases shape with
    | single => exact silent_of_grouped subject
    | grouped =>
      rcases foreign with other | empty
      · exact absurd (by rw [subject]; rfl) other
      · exact silent_of_empty (by rw [subject]; rfl) empty

end Silences

/-- A pass reads a declaration of its shape, and nothing of another declaration. -/
theorem entries_statements_append (shape : Shape) {rest : Text}
    (alone : d.terminated = false → rest.head? ≠ some ';') :
    (statements shape (d.text ++ rest)).flatMap Statement.entries =
      (if d.subject.shape = shape then d.entries else []) ++
        (statements shape rest).flatMap Statement.entries := by
  by_cases foreign : d.subject.shape ≠ shape ∨ d.subject.text = []
  · rw [statements_append_of_silent (silent_text foreign)]
    rcases foreign with other | empty
    · rw [if_neg other, List.nil_append]
    · have nothing : d.entries = [] := by
        rw [entries, Subject.names_of_text_eq_nil empty, List.map_nil]
      rw [nothing, ite_self, List.nil_append]
  · obtain ⟨same, nonempty⟩ := not_or.1 foreign
    have same := Classical.not_not.1 same
    subst same
    have reads := Statement.read_text_append (d.spelled nonempty) rest alone
    have found : (Statement.read d.subject.shape (d.text ++ rest)).map
        (fun r => (r.1, r.1.text.length)) = some (d.statement, d.text.length) := by
      rw [text, statement] at *
      rw [reads]
      rfl
    have first : statements d.subject.shape (d.text ++ rest) =
        d.statement :: statements d.subject.shape rest :=
      Scan.matchesOf_append_of_some d.statement.text_ne_nil found
    rw [first, List.flatMap_cons, entries_statement, if_pos rfl]

end Declaration

def Part.text (p : Part) : Text :=
  p.declaration.text ++ p.filler

namespace Document

def text (d : Document) : Text :=
  d.opening ++ d.parts.flatMap Part.text

/-- The declarations of one shape, in order. -/
def declarations (d : Document) (shape : Shape) : List Declaration :=
  (d.parts.map Part.declaration).filter (·.subject.shape = shape)

end Document

/-- Behind filler stands a keyword, or nothing. -/
theorem nil_or_keyword_first (parts : List Part) :
    parts.flatMap Part.text = [] ∨ keyword <+: parts.flatMap Part.text := by
  cases parts with
  | nil => exact .inl rfl
  | cons p parts =>
    refine .inr ?_
    rw [List.flatMap_cons, Part.text, List.append_assoc]
    exact p.declaration.keyword_prefix_text.trans (List.prefix_append _ _)

/-- No semicolon follows a declaration that has none. -/
theorem head?_filler_append (p : Part) (parts : List Part)
    (unterminated : p.declaration.terminated = false) :
    (p.filler.val ++ parts.flatMap Part.text).head? ≠ some ';' := by
  have alone := p.alone unterminated
  cases filler : p.filler.val with
  | nil =>
    rw [List.nil_append]
    rcases nil_or_keyword_first parts with nothing | ⟨more, next⟩
    · simp [nothing]
    · rw [← next]
      simp [keyword]
  | cons c filler =>
    rw [filler] at alone
    exact alone

/-- One pass over the declarations of a document. -/
theorem entries_statements_parts (shape : Shape) (parts : List Part) :
    (statements shape (parts.flatMap Part.text)).flatMap Statement.entries =
      ((parts.map Part.declaration).filter (·.subject.shape = shape)).flatMap
        Declaration.entries := by
  induction parts with
  | nil => rfl
  | cons p parts ih =>
    have filler : statements shape (p.filler.val ++ parts.flatMap Part.text) =
        statements shape (parts.flatMap Part.text) :=
      statements_append_of_silent
        (silent_of_clean p.filler.property (nil_or_keyword_first parts))
    have alone := head?_filler_append p parts
    rw [List.flatMap_cons, Part.text, List.append_assoc,
      p.declaration.entries_statements_append shape alone, filler, ih, List.map_cons,
      List.filter_cons]
    by_cases same : p.declaration.subject.shape = shape <;> simp [same]

/-- The bindings of a written document are the local names of its single declarations and then those
of its grouped ones, in order, each with the text of its own declaration. -/
theorem bindings_document (d : Document) :
    bindings d.text = Register.putAll
      ((d.declarations .single ++ d.declarations .grouped).flatMap Declaration.entries) [] := by
  have pass (shape : Shape) : (statements shape d.text).flatMap Statement.entries =
      (d.declarations shape).flatMap Declaration.entries := by
    have opening : statements shape d.text = statements shape (d.parts.flatMap Part.text) :=
      statements_append_of_silent
        (silent_of_clean d.opening.property (nil_or_keyword_first d.parts))
    rw [opening]
    exact entries_statements_parts shape d.parts
  rw [bindings, foldl_add_eq_putAll, List.flatMap_append, pass, pass, List.flatMap_append]

/-- A later binding takes the place of an earlier one, and a module may end in the keyword. -/
example : bindings "import \x7b from as as, \x7d from 'import'import as from \"m\";".toList =
    [("as".toList, "import \x7b from as as, \x7d from 'import'".toList)] := by
  decide

end TagOrigin.Import
