import TagOrigin.Import.Binding
import TagOrigin.Proofs.Import.Grammar

/-!
Written lists of specifiers. A specifier is a name, a name with another name behind a separator, or
nothing, with white space around it. The local names of a written list are those behind a separator
and those alone, in order: the commas fall apart as they were put in, and the only separator of an
item is the one it was written with, also between names like `as`.
-/
namespace TagOrigin

namespace Text

theorem breakOn_cons_of_none {sep t : Text} {c : Char} (absent : after? sep (c :: t) = none) :
    breakOn sep (c :: t) = (breakOn sep t).map fun (before, rest) => (c :: before, rest) := by
  rw [breakOn, absent]

theorem breakOn_append_self {sep : Text} (nonempty : sep ≠ []) (rest : Text) :
    breakOn sep (sep ++ rest) = some ([], rest) := by
  have found : after? sep (sep ++ rest) = some rest := after?_eq_some_iff.2 rfl
  obtain ⟨c, more, rfl⟩ := List.exists_cons_of_ne_nil nonempty
  rw [List.cons_append] at found ⊢
  rw [breakOn, found]

/-- A joined text holds the characters of its pieces and of the separator. -/
theorem mem_join {a c : Char} {pieces : List Text} (member : c ∈ join [a] pieces) :
    c = a ∨ ∃ u ∈ pieces, c ∈ u := by
  induction pieces with
  | nil => cases member
  | cons u pieces ih =>
    cases pieces with
    | nil =>
      rw [join, List.intercalate_singleton] at member
      exact .inr ⟨u, List.mem_cons_self, member⟩
    | cons v pieces =>
      rw [join, List.intercalate_cons_cons, List.mem_append, List.mem_append, List.mem_singleton] at member
      rcases member with (inside | same) | later
      · exact .inr ⟨u, List.mem_cons_self, inside⟩
      · exact .inl same
      · exact (ih later).imp_right fun ⟨w, listed, inside⟩ => ⟨w, List.mem_cons_of_mem u listed, inside⟩

end Text

namespace Import

/-- A name as it stands in a statement. -/
abbrev Name := { u : Text // u ≠ [] ∧ ∀ c ∈ u, isNameChar c = true }

/-- White space that may be missing. -/
abbrev Padding := { u : Text // ∀ c ∈ u, Text.isBlank c = true }

/-- What stands between two commas, without the white space around it. -/
inductive Item where
  | empty
  | plain (name : Name)
  /-- A name, white space, the separator, white space, and the name that takes its place. -/
  | renamed (name : Name) (before after : Padding) (new : Name)

structure Specifier where
  left : Padding
  item : Item
  right : Padding

def Item.text : Item → Text
  | .empty => []
  | .plain name => name
  | .renamed name before after new => name ++ before ++ (aliasSeparator ++ (after ++ new))

/-- The name under which an item is known where it is imported. -/
def Item.localName? : Item → Option Text
  | .empty => none
  | .plain name => some name
  | .renamed _ _ _ new => some new

def Specifier.text (s : Specifier) : Text :=
  s.left ++ s.item.text ++ s.right

/-- A list of specifiers as it is written. -/
def Specifier.write (items : List Specifier) : Text :=
  Text.join [','] (items.map Specifier.text)

section Names

variable (name : Name)

theorem stops_name (rest : Text) : Text.Stops Text.isBlank (name.val ++ rest) :=
  Text.stops_append (fun _ => not_isBlank_of_isNameChar) name.property.1 name.property.2 rest

theorem stops_reverse_name (rest : Text) : Text.Stops Text.isBlank (name.val.reverse ++ rest) :=
  Text.stops_append (fun _ => not_isBlank_of_isNameChar) (by simpa using name.property.1)
    (fun c member => name.property.2 c (List.mem_reverse.1 member)) rest

theorem space_not_mem_name : ' ' ∉ name.val := by
  intro member
  exact absurd (name.property.2 ' ' member) (by decide)

end Names

section Separator

variable {c : Char} {t : Text}

/-- The separator begins with a space. -/
theorem after?_aliasSeparator_of_ne (other : c ≠ ' ') :
    Text.after? aliasSeparator (c :: t) = none := by
  simp [aliasSeparator, Text.after?, other.symm]

/-- Behind its first space the separator has no white space. -/
theorem after?_aliasSeparator_of_isBlank {d : Char} (blank : Text.isBlank d = true) :
    Text.after? aliasSeparator (c :: d :: t) = none := by
  have other : 'a' ≠ d := by
    rintro rfl
    exact absurd blank (by decide)
  simp [aliasSeparator, Text.after?, other]

/-- The separator takes a second space. -/
theorem after?_aliasSeparator_of_not_mem (clean : ' ' ∉ t) :
    Text.after? aliasSeparator (c :: t) = none := by
  cases found : Text.after? aliasSeparator (c :: t) with
  | none => rfl
  | some rest =>
    have tail := (List.cons.inj (Text.after?_eq_some_iff.1 found)).2
    have second : ' ' ∈ ['a', 's', ' '] ++ rest := by simp
    exact absurd (tail ▸ second) clean

theorem breakOn_of_space_not_mem (clean : ' ' ∉ t) : Text.breakOn aliasSeparator t = none := by
  induction t with
  | nil => rfl
  | cons c t ih =>
    obtain ⟨_, clean⟩ := not_or.1 (List.mem_cons.not.1 clean)
    rw [Text.breakOn_cons_of_none (after?_aliasSeparator_of_not_mem clean), ih clean]
    rfl

/-- White space before a name forms no separator, also if the name is `as`. -/
theorem breakOn_padding_append (padding : Padding) (name : Name) :
    Text.breakOn aliasSeparator (padding.val ++ name.val) = none := by
  obtain ⟨u, blank⟩ := padding
  induction u with
  | nil => exact breakOn_of_space_not_mem (space_not_mem_name name)
  | cons c u ih =>
    obtain ⟨_, blank⟩ := List.forall_mem_cons.1 blank
    have absent : Text.after? aliasSeparator (c :: (u ++ name.val)) = none := by
      cases u with
      | nil => exact after?_aliasSeparator_of_not_mem (space_not_mem_name name)
      | cons d u => exact after?_aliasSeparator_of_isBlank (List.forall_mem_cons.1 blank).1
    rw [List.cons_append, Text.breakOn_cons_of_none absent]
    exact congrArg _ (ih blank)

/-- White space before the separator is passed over. -/
theorem breakOn_padding_separator (padding : Padding) (rest : Text) :
    Text.breakOn aliasSeparator (padding.val ++ (aliasSeparator ++ rest)) =
      some (padding.val, rest) := by
  obtain ⟨u, blank⟩ := padding
  induction u with
  | nil => exact Text.breakOn_append_self (by decide) rest
  | cons c u ih =>
    obtain ⟨_, blank⟩ := List.forall_mem_cons.1 blank
    have absent : Text.after? aliasSeparator (c :: (u ++ (aliasSeparator ++ rest))) = none := by
      cases u with
      | nil => exact after?_aliasSeparator_of_isBlank (by decide)
      | cons d u => exact after?_aliasSeparator_of_isBlank (List.forall_mem_cons.1 blank).1
    rw [List.cons_append, Text.breakOn_cons_of_none absent, ih blank]
    rfl

/-- The first separator of an item is the one it was written with. -/
theorem breakOn_name_append (name : Name) (padding : Padding) (rest : Text) :
    Text.breakOn aliasSeparator (name.val ++ padding.val ++ (aliasSeparator ++ rest)) =
      some (name.val ++ padding.val, rest) := by
  have clean := space_not_mem_name name
  generalize name.val = u at clean
  induction u with
  | nil => exact breakOn_padding_separator padding rest
  | cons c u ih =>
    obtain ⟨other, clean⟩ := not_or.1 (List.mem_cons.not.1 clean)
    simp only [List.cons_append]
    rw [Text.breakOn_cons_of_none (after?_aliasSeparator_of_ne (Ne.symm other)), ih clean]
    rfl

end Separator

section Lists

theorem strip_name (left right : Padding) (name : Name) :
    Text.strip (left.val ++ name.val ++ right.val) = name.val := by
  have first := stops_name name []
  have last := stops_reverse_name name []
  rw [List.append_nil] at first last
  exact Text.strip_padded name.property.1 first last left.property right.property

/-- What begins and ends with a name has no white space to take off. -/
theorem strip_names (left right : Padding) (name new : Name) (between : Text) :
    Text.strip (left.val ++ (name.val ++ (between ++ new.val)) ++ right.val) =
      name.val ++ (between ++ new.val) := by
  refine Text.strip_padded ?_ ?_ ?_ left.property right.property
  · simp [name.property.1]
  · exact stops_name name _
  · simp only [List.reverse_append, List.append_assoc]
    exact stops_reverse_name new _

theorem strip_text (s : Specifier) : Text.strip s.text = s.item.text := by
  obtain ⟨left, item, right⟩ := s
  cases item with
  | empty =>
    apply Text.strip_blank
    intro c member
    rcases List.mem_append.1 member with member | member
    · exact left.property c (by simpa [Item.text] using member)
    · exact right.property c member
  | plain name => exact strip_name left right name
  | renamed name before after new =>
    have read := strip_names left right name new (before ++ (aliasSeparator ++ after))
    simpa [Specifier.text, Item.text] using read

theorem localName_text (s : Specifier) : localName s.text = s.item.localName?.getD [] := by
  rw [localName, strip_text]
  cases s.item with
  | empty => rfl
  | plain name =>
    have alone : Text.breakOn aliasSeparator name.val = none :=
      breakOn_of_space_not_mem (space_not_mem_name name)
    simp [Item.text, Item.localName?, alone]
  | renamed name before after new =>
    have bare := strip_name after ⟨[], by simp⟩ new
    rw [List.append_nil] at bare
    simp only [Item.text, breakOn_name_append, breakOn_padding_append, bare]
    rfl

theorem isPlain_of_mem_name {name : Name} {c : Char} (member : c ∈ name.val) : isPlain c = true :=
  isPlain_of_isNameChar (name.property.2 c member)

theorem isPlain_of_mem_padding {padding : Padding} {c : Char} (member : c ∈ padding.val) :
    isPlain c = true :=
  isPlain_of_isBlank (padding.property c member)

theorem isPlain_of_mem_item {item : Item} {c : Char} (member : c ∈ item.text) :
    isPlain c = true := by
  cases item with
  | empty => cases member
  | plain name => exact isPlain_of_mem_name member
  | renamed name before after new =>
    simp only [Item.text, List.mem_append] at member
    rcases member with (inside | inside) | inside | inside | inside
    · exact isPlain_of_mem_name inside
    · exact isPlain_of_mem_padding inside
    · exact List.all_eq_true.1 (by decide : aliasSeparator.all isPlain = true) c inside
    · exact isPlain_of_mem_padding inside
    · exact isPlain_of_mem_name inside

theorem isPlain_of_mem_padded {left right : Padding} {t : Text} {c : Char}
    (plain : c ∈ t → isPlain c = true) (member : c ∈ left.val ++ t ++ right.val) : isPlain c = true := by
  simp only [List.mem_append] at member
  rcases member with (inside | inside) | inside
  · exact isPlain_of_mem_padding inside
  · exact plain inside
  · exact isPlain_of_mem_padding inside

/-- A specifier has nothing but names and white space in it. -/
theorem isPlain_of_mem_text {s : Specifier} {c : Char} (member : c ∈ s.text) : isPlain c = true :=
  isPlain_of_mem_padded isPlain_of_mem_item member

theorem isPlain_of_mem_join {α : Type} {text : α → Text} {items : List α} {c : Char}
    (plain : ∀ s ∈ items, c ∈ text s → isPlain c = true) (member : c ∈ Text.join [','] (items.map text)) :
    isPlain c = true ∨ c = ',' := by
  rcases Text.mem_join member with comma | ⟨u, listed, inside⟩
  · exact .inr comma
  · obtain ⟨s, written, rfl⟩ := List.mem_map.1 listed
    exact .inl (plain s written inside)

theorem isPlain_of_mem_write {items : List Specifier} {c : Char}
    (member : c ∈ Specifier.write items) : isPlain c = true ∨ c = ',' :=
  isPlain_of_mem_join (fun _ _ => isPlain_of_mem_text) member

theorem not_isQuote_of_isPlain_or_comma {c : Char} (known : isPlain c = true ∨ c = ',') :
    isQuote c = false := by
  rcases known with plain | rfl
  · rw [Bool.eq_false_iff]
    intro quote
    exact absurd plain (by simp [not_isPlain_of_isQuote quote])
  · decide

theorem ne_nil_of_localName? {item : Item} {u : Text} (named : item.localName? = some u) :
    u ≠ [] := by
  cases item with
  | empty => cases named
  | plain name => exact Option.some.inj named ▸ name.property.1
  | renamed name before after new => exact Option.some.inj named ▸ new.property.1

/-- A list of texts with commas between them gives the names of the texts, and nothing for those that
have none. -/
theorem localNames_join {α : Type} {text : α → Text} {name? : α → Option Text} {items : List α}
    (reads : ∀ s ∈ items, localName (text s) = (name? s).getD []) (named : ∀ s ∈ items, name? s ≠ some [])
    (clean : ∀ s ∈ items, ',' ∉ text s) :
    localNames (Text.join [','] (items.map text)) = items.filterMap name? := by
  have names : ((items.map text).map localName).filter (· ≠ []) = items.filterMap name? := by
    clear clean
    induction items with
    | nil => rfl
    | cons s items ih =>
      obtain ⟨readsHere, readsLater⟩ := List.forall_mem_cons.1 reads
      obtain ⟨namedHere, namedLater⟩ := List.forall_mem_cons.1 named
      rw [List.map_cons, List.map_cons, readsHere, List.filterMap_cons, List.filter_cons,
        ih readsLater namedLater]
      cases name : name? s with
      | none => rfl
      | some u =>
        have kept : u ≠ [] := fun empty => namedHere (by rw [name, empty])
        simp [kept]
  by_cases empty : items = []
  · subst empty
    rfl
  · have cleanTexts : ∀ u ∈ items.map text, ',' ∉ u := List.forall_mem_map.2 clean
    rw [localNames, Text.join, List.splitOn_intercalate ',' cleanTexts (by simpa using empty), names]

/-- A written list is read back. -/
theorem localNames_write (items : List Specifier) :
    localNames (Specifier.write items) = items.filterMap (·.item.localName?) := by
  apply localNames_join
  · exact fun s _ => localName_text s
  · exact fun s _ nothing => ne_nil_of_localName? nothing rfl
  · exact fun s _ comma => absurd (isPlain_of_mem_text comma) (by decide)

end Lists

end Import

end TagOrigin
