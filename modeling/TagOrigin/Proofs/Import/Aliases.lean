import TagOrigin.Proofs.Import.Extraction
import TagOrigin.Proofs.Import.ReadBack

/-!
Aliases and the white space around them. A grouped statement by itself binds the local names of its list.
An item with `as` in it is known by its alias if a space stands right before and right behind `as`. With
any other white space there the item is not taken apart, and the whole of it, white space included, is
bound in place of the alias.
-/
namespace TagOrigin.Import

section Alone

variable {s : Statement} {shape : Shape} {u rest : Text}

/-- At the end of a text a module shows only the quote that closes it. -/
theorem silent_module (spelled : s.Spelled) :
    Silent shape (s.module ++ s.closeQuote :: (if s.terminated then [';'] else [])) [] := by
  apply silent_of_few_quotes
  have none : s.module.countP isQuote = 0 :=
    List.countP_eq_zero.2 fun c member => Bool.eq_false_iff.1 (spelled.module.2 c member)
  have semicolon : isQuote ';' = false := by decide
  cases s.terminated <;> simp [List.countP_append, none, spelled.closeQuote, semicolon]

/-- No single statement begins in a grouped one without quotes in its list, whatever its module is. -/
theorem statements_single_text (spelled : s.Spelled) (grouped : s.shape = .grouped)
    (quoteless : ∀ c ∈ s.subject, isQuote c = false) : statements .single s.text = [] := by
  have whole : s.text = keyword ++ s.beforeSubject ++ ['\x7b'] ++ s.subject ++ ['\x7d'] ++
      (s.beforeFrom ++ fromWord ++ s.beforeModule ++ [s.openQuote] ++
        (s.module ++ s.closeQuote :: (if s.terminated then [';'] else []))) := by
    simp [Statement.text, grouped, Shape.write]
  have silent : Silent .single s.text [] := by
    rw [whole]
    exact silent_append (silent_list spelled.beforeSubject quoteless)
      (silent_append (silent_fromWord spelled.beforeFrom spelled.beforeModule spelled.openQuote)
        (silent_module spelled))
  have nothing := statements_append_of_silent silent
  rwa [List.append_nil] at nothing

/-- A statement by itself is read as a whole. -/
theorem statements_text (spelled : s.Spelled) : statements s.shape s.text = [s] := by
  have reads := Statement.read_text_append spelled [] (by simp)
  have found : (Statement.read s.shape (s.text ++ [])).map (fun r => (r.1, r.1.text.length)) =
      some (s, s.text.length) := by
    rw [reads]
    rfl
  have first : statements s.shape (s.text ++ []) = s :: statements s.shape [] :=
    Scan.matchesOf_append_of_some s.text_ne_nil found
  rwa [List.append_nil] at first

/-- A grouped statement by itself binds the names of its list. -/
theorem keys_bindings_text (spelled : s.Spelled) (grouped : s.shape = .grouped)
    (quoteless : ∀ c ∈ s.subject, isQuote c = false) :
    Register.keys (bindings s.text) = distinct (localNames s.subject) := by
  have read : statements .grouped s.text = [s] := grouped ▸ statements_text spelled
  rw [bindings, statements_single_text spelled grouped quoteless, read, keys_foldl_add]
  simp [Statement.names, grouped]

end Alone

/-- The word between a name and its alias. -/
def aliasWord : Text := "as".toList

/-- What stands between two commas, with any white space around the word of an alias. -/
inductive SpacedItem where
  | empty
  | plain (name : Name)
  | renamed (name : Name) (before after : Gap) (new : Name)

/-- An item with the white space around it. -/
structure SpacedSpecifier where
  left : Padding
  item : SpacedItem
  right : Padding

namespace SpacedItem

def text : SpacedItem → Text
  | .empty => []
  | .plain name => name
  | .renamed name before after new => name ++ (before ++ (aliasWord ++ (after ++ new)))

/-- The name under which an item is known where it is imported. -/
def localName? : SpacedItem → Option Text
  | .empty => none
  | .plain name => some name
  | .renamed _ _ _ new => some new

/-- A space stands right before and right behind the word of an alias. -/
def IsSeparated : SpacedItem → Prop
  | .renamed _ before after _ => before.val.getLast? = some ' ' ∧ after.val.head? = some ' '
  | _ => True

instance : DecidablePred IsSeparated
  | .empty => instDecidableTrue
  | .plain _ => instDecidableTrue
  | .renamed _ before after _ =>
    inferInstanceAs (Decidable (before.val.getLast? = some ' ' ∧ after.val.head? = some ' '))

/-- The key that an item gets: its local name, or all of it where no separator is found. -/
def boundName? (item : SpacedItem) : Option Text :=
  if item.IsSeparated then item.localName? else some item.text

end SpacedItem

namespace SpacedSpecifier

def text (s : SpacedSpecifier) : Text :=
  s.left ++ s.item.text ++ s.right

/-- A list of specifiers as it is written. -/
def write (items : List SpacedSpecifier) : Text :=
  Text.join [','] (items.map text)

end SpacedSpecifier

section Spacing

variable {item : SpacedItem} {c : Char} {t u : Text}

/-- Only an alias can be out of place. -/
theorem exists_renamed_of_not_isSeparated (unseparated : ¬ item.IsSeparated) :
    ∃ name before after new, item = .renamed name before after new := by
  cases item with
  | empty => exact absurd trivial unseparated
  | plain name => exact absurd trivial unseparated
  | renamed name before after new => exact ⟨name, before, after, new, rfl⟩

/-- In front of a text without a separator no text without spaces makes one. -/
theorem breakOn_append_of_space_not_mem (clean : ' ' ∉ u) (rest : Text.breakOn aliasSeparator t = none) :
    Text.breakOn aliasSeparator (u ++ t) = none := by
  induction u with
  | nil => exact rest
  | cons c u ih =>
    obtain ⟨other, clean⟩ := not_or.1 (List.mem_cons.not.1 clean)
    rw [List.cons_append, Text.breakOn_cons_of_none (after?_aliasSeparator_of_ne (Ne.symm other)), ih clean]
    rfl

/-- White space makes a separator only of its last character, with what stands behind it. -/
theorem breakOn_blank_append (blank : ∀ c ∈ u, Text.isBlank c = true)
    (last : u.getLast? = some ' ' → ¬ ['a', 's', ' '] <+: t)
    (rest : Text.breakOn aliasSeparator t = none) : Text.breakOn aliasSeparator (u ++ t) = none := by
  induction u with
  | nil => exact rest
  | cons c u ih =>
    obtain ⟨_, blankLater⟩ := List.forall_mem_cons.1 blank
    have absent : Text.after? aliasSeparator (c :: (u ++ t)) = none := by
      cases u with
      | cons d u => exact after?_aliasSeparator_of_isBlank (List.forall_mem_cons.1 blankLater).1
      | nil =>
        cases found : Text.after? aliasSeparator (c :: t) with
        | none => rw [List.nil_append, found]
        | some behind =>
          obtain ⟨rfl, word⟩ := List.cons.inj (Text.after?_eq_some_iff.1 found)
          exact absurd ⟨behind, word.symm⟩ (last rfl)
    have lastLater : u.getLast? = some ' ' → ¬ ['a', 's', ' '] <+: t := by
      intro space
      exact last (by rw [List.getLast?_cons, space, Option.getD_some])
    rw [List.cons_append, Text.breakOn_cons_of_none absent, ih blankLater lastLater]
    rfl

/-- An item that has other white space next to its word holds no separator. -/
theorem breakOn_text (unseparated : ¬ item.IsSeparated) :
    Text.breakOn aliasSeparator item.text = none := by
  obtain ⟨name, before, after, new, rfl⟩ := exists_renamed_of_not_isSeparated unseparated
  have word : ' ' ∉ aliasWord := by decide
  have behind : Text.breakOn aliasSeparator (aliasWord ++ (after.val ++ new.val)) = none :=
    breakOn_append_of_space_not_mem word (breakOn_padding_append ⟨after.val, after.property.2⟩ new)
  have apart : before.val.getLast? = some ' ' →
      ¬ ['a', 's', ' '] <+: aliasWord ++ (after.val ++ new.val) := by
    rintro spaceBefore ⟨more, found⟩
    obtain ⟨c, gap, spelled⟩ := List.exists_cons_of_ne_nil after.property.1
    obtain ⟨space, _⟩ : ' ' = c ∧ more = gap ++ new.val := by simpa [aliasWord, spelled] using found
    exact unseparated ⟨spaceBefore, by rw [spelled, ← space, List.head?_cons]⟩
  exact breakOn_append_of_space_not_mem (space_not_mem_name name)
    (breakOn_blank_append before.property.2 apart behind)

/-- An item with a space on either side of its word is an item written with the separator. -/
theorem exists_item_of_isSeparated (separated : item.IsSeparated) :
    ∃ known : Item, known.text = item.text ∧ known.localName? = item.localName? := by
  cases item with
  | empty => exact ⟨.empty, rfl, rfl⟩
  | plain name => exact ⟨.plain name, rfl, rfl⟩
  | renamed name before after new =>
    obtain ⟨spaceBefore, spaceAfter⟩ := separated
    obtain ⟨front, before_eq⟩ := List.getLast?_eq_some_iff.1 spaceBefore
    obtain ⟨back, after_eq⟩ := List.head?_eq_some_iff.1 spaceAfter
    have blankFront : ∀ c ∈ front, Text.isBlank c = true :=
      fun c member => before.property.2 c (by simp [before_eq, member])
    have blankBack : ∀ c ∈ back, Text.isBlank c = true :=
      fun c member => after.property.2 c (by simp [after_eq, member])
    refine ⟨.renamed name ⟨front, blankFront⟩ ⟨back, blankBack⟩ new, ?_, rfl⟩
    simp [Item.text, SpacedItem.text, before_eq, after_eq, aliasSeparator, aliasWord]

theorem isPlain_of_mem_spacedItem (member : c ∈ item.text) : isPlain c = true := by
  cases item with
  | empty => cases member
  | plain name => exact isPlain_of_mem_name member
  | renamed name before after new =>
    simp only [SpacedItem.text, List.mem_append] at member
    rcases member with inside | inside | inside | inside | inside
    · exact isPlain_of_mem_name inside
    · exact isPlain_of_mem_gap before.property inside
    · exact List.all_eq_true.1 (by decide : aliasWord.all isPlain = true) c inside
    · exact isPlain_of_mem_gap after.property inside
    · exact isPlain_of_mem_name inside

theorem ne_nil_of_boundName? (bound : item.boundName? = some u) : u ≠ [] := by
  rw [SpacedItem.boundName?] at bound
  split at bound
  · next separated =>
    obtain ⟨known, _, same⟩ := exists_item_of_isSeparated separated
    exact ne_nil_of_localName? (same.trans bound)
  · next unseparated =>
    obtain ⟨name, before, after, new, rfl⟩ := exists_renamed_of_not_isSeparated unseparated
    rw [← Option.some.inj bound]
    simp [SpacedItem.text, name.property.1]

/-- What is bound in place of an alias is no name: there is white space in it. -/
theorem text_ne_name (unseparated : ¬ item.IsSeparated) (name : Name) : item.text ≠ name.val := by
  obtain ⟨old, before, after, new, rfl⟩ := exists_renamed_of_not_isSeparated unseparated
  intro same
  obtain ⟨c, gap, spelled⟩ := List.exists_cons_of_ne_nil before.property.1
  have blank : Text.isBlank c = true := before.property.2 c (by simp [spelled])
  have inside : c ∈ name.val := by
    rw [← same]
    simp [SpacedItem.text, spelled]
  exact absurd (name.property.2 c inside) (by simp [not_isNameChar_of_isBlank blank])

theorem exists_name_of_localName? (known : item.localName? = some u) : ∃ name : Name, name.val = u := by
  cases item with
  | empty => cases known
  | plain name => exact ⟨name, Option.some.inj known⟩
  | renamed name before after new => exact ⟨new, Option.some.inj known⟩

/-- A name is bound by an item only as its local name. -/
theorem localName?_eq_some_of_boundName? {name : Name} (bound : item.boundName? = some name.val) :
    item.localName? = some name.val := by
  rw [SpacedItem.boundName?] at bound
  split at bound
  · exact bound
  · next unseparated => exact absurd (Option.some.inj bound) (text_ne_name unseparated name)

end Spacing

section Lists

theorem strip_spacedText (s : SpacedSpecifier) (unseparated : ¬ s.item.IsSeparated) :
    Text.strip s.text = s.item.text := by
  obtain ⟨left, item, right⟩ := s
  obtain ⟨name, before, after, new, rfl⟩ := exists_renamed_of_not_isSeparated unseparated
  have read := strip_names left right name new (before ++ (aliasWord ++ after))
  simpa [SpacedSpecifier.text, SpacedItem.text] using read

theorem localName_spacedText (s : SpacedSpecifier) : localName s.text = s.item.boundName?.getD [] := by
  by_cases separated : s.item.IsSeparated
  · obtain ⟨known, text_eq, same⟩ := exists_item_of_isSeparated separated
    have read := localName_text ⟨s.left, known, s.right⟩
    rw [Specifier.text, text_eq, same] at read
    rw [SpacedItem.boundName?, if_pos separated, ← read, SpacedSpecifier.text]
  · rw [SpacedItem.boundName?, if_neg separated, localName, strip_spacedText s separated,
      breakOn_text separated, Option.getD_some]

theorem isPlain_of_mem_spacedText {s : SpacedSpecifier} {c : Char} (member : c ∈ s.text) :
    isPlain c = true :=
  isPlain_of_mem_padded isPlain_of_mem_spacedItem member

/-- Each item of a written list gives its key. -/
theorem localNames_spacedWrite (items : List SpacedSpecifier) :
    localNames (SpacedSpecifier.write items) = items.filterMap (·.item.boundName?) := by
  apply localNames_join
  · exact fun s _ => localName_spacedText s
  · exact fun s _ nothing => ne_nil_of_boundName? nothing rfl
  · exact fun s _ comma => absurd (isPlain_of_mem_spacedText comma) (by decide)

/-- The keys are the local names exactly if every alias stands between spaces. -/
theorem mem_boundNames_iff (items : List SpacedSpecifier) :
    (∀ u, u ∈ items.filterMap (·.item.boundName?) ↔ u ∈ items.filterMap (·.item.localName?)) ↔
      ∀ s ∈ items, s.item.IsSeparated := by
  constructor
  · intro same s listed
    by_contra unseparated
    have bound : s.item.text ∈ items.filterMap (·.item.boundName?) :=
      List.mem_filterMap.2 ⟨s, listed, if_neg unseparated⟩
    obtain ⟨other, _, known⟩ := List.mem_filterMap.1 ((same s.item.text).1 bound)
    obtain ⟨name, text_eq⟩ := exists_name_of_localName? known
    exact text_ne_name unseparated name text_eq.symm
  · intro separated u
    have read : items.filterMap (·.item.boundName?) = items.filterMap (·.item.localName?) :=
      List.filterMap_congr fun s listed => if_pos (separated s listed)
    rw [read]

end Lists

/-- The keys of a grouped statement by itself, whatever white space stands in its list: the aliases that
stand between spaces, the names without an alias, and every other item as it is written. So they are the
local names of the list exactly if every alias stands between spaces, and a name is among them only if
it is the local name of an item, be it the old name of another or not. -/
theorem keys_bindings_spacedItems {s : Statement} {items : List SpacedSpecifier} (spelled : s.Spelled)
    (grouped : s.shape = .grouped) (written : s.subject = SpacedSpecifier.write items) :
    Register.keys (bindings s.text) = distinct (items.filterMap (·.item.boundName?)) ∧
      ((∀ u, u ∈ Register.keys (bindings s.text) ↔ ∃ i ∈ items, i.item.localName? = some u) ↔
        ∀ i ∈ items, i.item.IsSeparated) ∧
      ∀ name : Name, name.val ∈ Register.keys (bindings s.text) →
        ∃ i ∈ items, i.item.localName? = some name.val := by
  have quoteless : ∀ c ∈ s.subject, isQuote c = false := by
    intro c member
    rw [written] at member
    exact not_isQuote_of_isPlain_or_comma (isPlain_of_mem_join (fun _ _ => isPlain_of_mem_spacedText) member)
  have keys : Register.keys (bindings s.text) = distinct (items.filterMap (·.item.boundName?)) := by
    rw [keys_bindings_text spelled grouped quoteless, written, localNames_spacedWrite]
  refine ⟨keys, ?_, ?_⟩
  · rw [keys]
    simp only [mem_distinct, ← List.mem_filterMap]
    exact mem_boundNames_iff items
  · intro name member
    rw [keys, mem_distinct] at member
    obtain ⟨i, listed, bound⟩ := List.mem_filterMap.1 member
    exact ⟨i, listed, localName?_eq_some_of_boundName? bound⟩

/-- A list over several lines: one alias behind a line end, one with its word behind a line end. -/
def mixedList : List SpacedSpecifier :=
  let nothing : Padding := ⟨[], by simp⟩
  let space : Gap := ⟨[' '], by simp [IsGap, Text.isBlank]⟩
  let newLine : Gap := ⟨['\n', ' '], by simp [IsGap, Text.isBlank]⟩
  let name (c : Char) (known : isNameChar c = true) : Name := ⟨[c], by simp [known]⟩
  [⟨nothing, .plain (name 'A' rfl), nothing⟩,
    ⟨nothing, .renamed (name 'B' rfl) space newLine (name 'C' rfl), nothing⟩,
    ⟨nothing, .renamed (name 'D' rfl) newLine space (name 'E' rfl), nothing⟩,
    ⟨⟨space.val, space.property.2⟩, .empty, nothing⟩]

def mixedStatement : Statement where
  shape := .grouped
  subject := SpacedSpecifier.write mixedList
  module := ['m']
  beforeSubject := [' ']
  beforeFrom := [' ']
  beforeModule := [' ']
  openQuote := '"'
  closeQuote := '"'
  terminated := true

theorem mixedStatement_spelled : mixedStatement.Spelled where
  beforeSubject := by simp [mixedStatement, IsGap, Text.isBlank]
  subject := ⟨by decide, by decide⟩
  beforeFrom := by simp [mixedStatement, IsGap, Text.isBlank]
  beforeModule := by simp [mixedStatement, IsGap, Text.isBlank]
  openQuote := rfl
  module := by simp [mixedStatement, isQuote]
  closeQuote := rfl

theorem keys_bindings_spacedItems_mixedList :
    mixedStatement.text = "import \x7bA,B as\n C,D\n as E, \x7d from \"m\";".toList ∧
      Register.keys (bindings mixedStatement.text) = ["A".toList, "B as\n C".toList, "E".toList] ∧
      ¬ ∀ u, u ∈ Register.keys (bindings mixedStatement.text) ↔
        ∃ i ∈ mixedList, i.item.localName? = some u := by
  obtain ⟨keys, complete, _⟩ := keys_bindings_spacedItems mixedStatement_spelled rfl rfl
  refine ⟨by decide, keys.trans (by decide), ?_⟩
  rw [complete]
  decide

/-- An alias behind a line end is not bound. -/
theorem bindings_loses_alias :
    bindings "import \x7b B as\n  C \x7d from \"m\";".toList =
      [("B as\n  C".toList, "import \x7b B as\n  C \x7d from \"m\";".toList)] := by
  decide

end TagOrigin.Import
