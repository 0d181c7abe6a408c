import TagOrigin.Filter
import TagOrigin.Proofs.Text.Pieces
import TagOrigin.Proofs.Text.Runs
import TagOrigin.Settings

/-!
Lists written with commas. A comma between two texts joins the lists that they hold. Texts without commas
that neither begin nor end with white space are entries: a list of them is read back from every writing
that puts white space around them and blank pieces between them, and every text is such a writing of the
entries that are read from it. Extensions with their points are entries.
-/
namespace TagOrigin

open Text (Stops isBlank join)

/-- A text that a list gives back as it was written. -/
structure IsEntry (t : Text) : Prop where
  nonempty : t ≠ []
  begins : Stops isBlank t
  ends : Stops isBlank t.reverse
  clean : ',' ∉ t

theorem parseList_append (a b : Text) : parseList (a ++ ',' :: b) = parseList a ++ parseList b := by
  rw [parseList, List.splitOn_append_cons_self, List.map_append, List.filter_append]
  rfl

theorem parseList_join {pieces : List Text} (clean : ∀ piece ∈ pieces, ',' ∉ piece) :
    parseList (join [','] pieces) = (pieces.map Text.strip).filter (· ≠ []) := by
  by_cases empty : pieces = []
  · subst empty
    rfl
  · rw [parseList, join, List.splitOn_intercalate ',' clean empty]

section Writings

variable {raw t : Text} {entries pieces : List Text}

theorem isEntry_iff : IsEntry t ↔ t ≠ [] ∧ ',' ∉ t ∧ Text.strip t = t := by
  constructor
  · intro entry
    exact ⟨entry.nonempty, entry.clean, Text.strip_eq_self entry.begins entry.ends⟩
  · rintro ⟨nonempty, clean, stripped⟩
    exact {
      nonempty
      begins := stripped ▸ Text.stops_strip t
      ends := stripped ▸ Text.stops_reverse_strip t
      clean }

/-- How the pieces between commas write entries: each with white space around it, and pieces of white space
anywhere. -/
inductive Padded : List Text → List Text → Prop where
  | done : Padded [] []
  | blank {piece : Text} {entries pieces : List Text} :
      (∀ c ∈ piece, isBlank c = true) → Padded entries pieces → Padded entries (piece :: pieces)
  | entry {left t right : Text} {entries pieces : List Text} :
      (∀ c ∈ left, isBlank c = true) → (∀ c ∈ right, isBlank c = true) → Padded entries pieces →
        Padded (t :: entries) ((left ++ t ++ right) :: pieces)

theorem Padded.refl (entries : List Text) : Padded entries entries := by
  induction entries with
  | nil => exact .done
  | cons t entries ih =>
    have padded : Padded (t :: entries) (([] ++ t ++ []) :: entries) := .entry (by simp) (by simp) ih
    rwa [List.append_nil, List.nil_append] at padded

theorem comma_not_mem_of_blank {piece : Text} (blank : ∀ c ∈ piece, isBlank c = true) : ',' ∉ piece :=
  fun member => absurd (blank ',' member) (by decide)

/-- The pieces that write entries hold no commas, and stripping gives the entries and nothing else. -/
theorem Padded.read (padded : Padded entries pieces) (isEntry : ∀ t ∈ entries, IsEntry t) :
    (∀ piece ∈ pieces, ',' ∉ piece) ∧ (pieces.map Text.strip).filter (· ≠ []) = entries := by
  induction padded with
  | done => exact ⟨by simp, rfl⟩
  | blank blank _ ih =>
    obtain ⟨clean, stripped⟩ := ih isEntry
    refine ⟨List.forall_mem_cons.2 ⟨comma_not_mem_of_blank blank, clean⟩, ?_⟩
    rw [List.map_cons, Text.strip_blank blank, List.filter_cons_of_neg (by simp), stripped]
  | @entry left t right _ _ blankLeft blankRight _ ih =>
    obtain ⟨here, later⟩ := List.forall_mem_cons.1 isEntry
    obtain ⟨clean, stripped⟩ := ih later
    have cleanHere : ',' ∉ left ++ t ++ right := by
      simp [here.clean, comma_not_mem_of_blank blankLeft, comma_not_mem_of_blank blankRight]
    refine ⟨List.forall_mem_cons.2 ⟨cleanHere, clean⟩, ?_⟩
    rw [List.map_cons, Text.strip_padded here.nonempty here.begins here.ends blankLeft blankRight,
      List.filter_cons_of_pos (by simp [here.nonempty]), stripped]

theorem parseList_join_of_padded (padded : Padded entries pieces) (isEntry : ∀ t ∈ entries, IsEntry t) :
    parseList (join [','] pieces) = entries := by
  obtain ⟨clean, stripped⟩ := padded.read isEntry
  rw [parseList_join clean, stripped]

theorem parseList_join_of_isEntry (isEntry : ∀ t ∈ entries, IsEntry t) :
    parseList (join [','] entries) = entries :=
  parseList_join_of_padded (.refl entries) isEntry

theorem isEntry_of_mem_parseList (member : t ∈ parseList raw) : IsEntry t := by
  obtain ⟨stripped, nonempty⟩ := List.mem_filter.1 member
  obtain ⟨piece, split, rfl⟩ := List.mem_map.1 stripped
  exact {
    nonempty := of_decide_eq_true nonempty
    begins := Text.stops_strip piece
    ends := Text.stops_reverse_strip piece
    clean := fun inside => (Text.of_mem_splitOn split).1 ((Text.strip_infix piece).subset inside) }

/-- Any pieces write what stripping leaves of them. -/
theorem padded_filter_map_strip (pieces : List Text) :
    Padded ((pieces.map Text.strip).filter (· ≠ [])) pieces := by
  induction pieces with
  | nil => exact .done
  | cons piece pieces ih =>
    obtain ⟨left, right, whole, blankLeft, blankRight⟩ := Text.exists_padding piece
    rw [List.map_cons]
    by_cases empty : Text.strip piece = []
    · rw [List.filter_cons_of_neg (by simp [empty])]
      refine .blank ?_ ih
      rw [whole, empty, List.append_nil]
      exact List.forall_mem_append.2 ⟨blankLeft, blankRight⟩
    · rw [List.filter_cons_of_pos (by simp [empty])]
      have padded := Padded.entry (t := Text.strip piece) blankLeft blankRight ih
      rwa [← whole] at padded

/-- Exactly the writings of entries are read as these entries. -/
theorem parseList_eq_iff : parseList raw = entries ↔
    (∀ t ∈ entries, IsEntry t) ∧ ∃ pieces, raw = join [','] pieces ∧ Padded entries pieces := by
  constructor
  · rintro rfl
    exact ⟨fun _ => isEntry_of_mem_parseList, raw.splitOn ',',
      (List.intercalate_splitOn ',').symm, padded_filter_map_strip _⟩
  · rintro ⟨isEntry, pieces, rfl, padded⟩
    exact parseList_join_of_padded padded isEntry

/-- The format is faithful. A comma joins two lists. What is read are non-empty texts without commas that
stripping leaves alone, and every list of such texts is read back from all its writings. So what is read can
be written with commas and is read again. -/
theorem parseList_faithful (a b : Text) :
    parseList (a ++ ',' :: b) = parseList a ++ parseList b ∧
      (∀ t ∈ parseList a, t ≠ [] ∧ ',' ∉ t ∧ Text.strip t = t) ∧
      (∀ entries pieces, (∀ t ∈ entries, t ≠ [] ∧ ',' ∉ t ∧ Text.strip t = t) → Padded entries pieces →
        parseList (join [','] pieces) = entries) ∧
      parseList (join [','] (parseList a)) = parseList a := by
  have isEntry : ∀ t ∈ parseList a, IsEntry t := fun _ => isEntry_of_mem_parseList
  refine ⟨parseList_append a b, fun t member => isEntry_iff.1 (isEntry t member), ?_, ?_⟩
  · intro entries pieces listed padded
    exact parseList_eq_iff.2 ⟨fun t member => isEntry_iff.2 (listed t member), pieces, rfl, padded⟩
  · exact parseList_eq_iff.2 ⟨isEntry, parseList a, rfl, .refl _⟩

/-- Blank pieces at both ends, an empty piece between two entries, white space of several kinds around them
and a space inside one of them. -/
theorem parseList_faithful_blankPieces :
    let entries := ["*.d.ts".toList, "a b".toList]
    let pieces := [" ".toList, "\t".toList ++ "*.d.ts".toList ++ "\n".toList, [],
      [] ++ "a b".toList ++ "\u2003\u00a0".toList, []]
    (∀ t ∈ entries, t ≠ [] ∧ ',' ∉ t ∧ Text.strip t = t) ∧ Padded entries pieces ∧
      parseList (join [','] pieces) = entries := by
  have listed : ∀ t ∈ ["*.d.ts".toList, "a b".toList], t ≠ [] ∧ ',' ∉ t ∧ Text.strip t = t := by decide
  have blank {t : Text} (all : t.all isBlank = true) : ∀ c ∈ t, isBlank c = true := List.all_eq_true.1 all
  have padded : Padded ["*.d.ts".toList, "a b".toList] [" ".toList,
      "\t".toList ++ "*.d.ts".toList ++ "\n".toList, [], [] ++ "a b".toList ++ "\u2003\u00a0".toList, []] :=
    .blank (blank (by decide)) (.entry (blank (by decide)) (blank (by decide))
      (.blank (blank (by decide)) (.entry (blank (by decide)) (blank (by decide))
        (.blank (blank (by decide)) .done))))
  exact ⟨listed, padded, (parseList_faithful [] []).2.2.1 _ _ listed padded⟩

end Writings

theorem Settings.extensionsOf_some {raw : Text} (nonempty : raw ≠ []) :
    Settings.extensionsOf (some raw) = parseList raw := by
  rw [extensionsOf]
  exact nonempty

theorem join_eq_nil_iff_of_isEntry {pieces : List Text} (entries : ∀ piece ∈ pieces, IsEntry piece) :
    join [','] pieces = [] ↔ pieces = [] := by
  constructor
  · intro empty
    rw [← parseList_join_of_isEntry entries, empty]
    rfl
  · rintro rfl
    rfl

section Extensions

/-- An extension that may stand in a list as it is. -/
structure IsListable (ext : Text) : Prop where
  clean : ',' ∉ ext
  ends : Stops isBlank ext.reverse

instance (ext : Text) : Decidable (IsListable ext) :=
  decidable_of_iff (',' ∉ ext ∧ Stops isBlank ext.reverse)
    ⟨fun ⟨clean, ends⟩ => { clean, ends }, fun listable => ⟨listable.clean, listable.ends⟩⟩

variable {ext : Text}

theorem exists_normaliseExtension (ext : Text) :
    ∃ rest, normaliseExtension ext = '.' :: rest ∧ (ext = '.' :: rest ∨ ext = rest) := by
  unfold normaliseExtension
  split
  · next rest => exact ⟨rest, rfl, .inl rfl⟩
  · exact ⟨ext, rfl, .inr rfl⟩

theorem isDotted_normaliseExtension (ext : Text) :
    Settings.isDotted (normaliseExtension ext) = true := by
  obtain ⟨rest, normal, _⟩ := exists_normaliseExtension ext
  rw [normal]
  rfl

/-- White space behind the point of an extension is part of it. -/
theorem IsListable.isEntry_normaliseExtension (listable : IsListable ext) :
    IsEntry (normaliseExtension ext) := by
  obtain ⟨clean, ends⟩ := listable
  obtain ⟨rest, normal, given⟩ := exists_normaliseExtension ext
  have cleanRest : ',' ∉ rest := by
    rcases given with rfl | rfl
    · exact fun inside => clean (List.mem_cons_of_mem _ inside)
    · exact clean
  have endsRest : Stops isBlank ('.' :: rest).reverse := by
    rcases given with rfl | rfl
    · exact ends
    · rw [List.reverse_cons]
      cases reversed : ext.reverse with
      | nil => exact Text.stops_cons_iff.2 rfl
      | cons c more =>
        rw [reversed] at ends
        exact Text.stops_cons_iff.2 (Text.stops_cons_iff.1 ends)
  rw [normal]
  exact {
    nonempty := List.cons_ne_nil _ _
    begins := Text.stops_cons_iff.2 rfl
    ends := endsRest
    clean := by simpa using cleanRest }

/-- Extensions, each with its point, written as a list. -/
def extensionList (given : List Text) : Text :=
  join [','] (given.map normaliseExtension)

section

variable {given : List Text} (listable : ∀ ext ∈ given, IsListable ext)
include listable

theorem isEntry_of_mem_map_normaliseExtension : ∀ ext ∈ given.map normaliseExtension, IsEntry ext :=
  List.forall_mem_map.2 fun ext member => (listable ext member).isEntry_normaliseExtension

theorem parseList_extensionList : parseList (extensionList given) = given.map normaliseExtension :=
  parseList_join_of_isEntry (isEntry_of_mem_map_normaliseExtension listable)

theorem extensionList_ne_nil (nonempty : given ≠ []) : extensionList given ≠ [] := by
  rwa [extensionList, Ne, join_eq_nil_iff_of_isEntry (isEntry_of_mem_map_normaliseExtension listable),
    List.map_eq_nil_iff]

end

end Extensions

end TagOrigin
