import TagOrigin.Display.Emoji
import TagOrigin.Proofs.Register
import TagOrigin.Proofs.Text.Runs
import TagOrigin.Proofs.Text.Substitution

/-!
Emoji codes in a text. No emoji holds a colon, a backslash or a control character, so a text has fewer of
them where a known code has been replaced, and it comes back exactly if it holds no known code.
-/
namespace TagOrigin.Display.Emoji

/-- Characters that printing can take from a text: controls, the colons of codes, and backslashes. -/
def isActive (c : Char) : Bool :=
  c.toNat < 0x20 || c == ':' || c == '\\'

section Images

/-- The bytes of such characters. -/
def isActiveByte (b : UInt8) : Bool :=
  b < 0x20 || b == 0x3a || b == 0x5c

theorem furtherNames_clear :
    furtherNames.all fun entry => entry.2.toByteArray.data.toList.all fun b => !isActiveByte b := by
  unfold furtherNames
  -- group by group, as the whole table is too long for one evaluation
  repeat rw [List.all_append]
  decide +kernel

/-- An ASCII character of a string is one of its bytes. -/
theorem mem_data_of_mem_toList {s : String} {c : Char} (member : c ∈ s.toList) (small : c.toNat < 0x80) :
    UInt8.ofNat c.toNat ∈ s.toByteArray.data.toList := by
  have encoded : String.utf8EncodeChar c = [UInt8.ofNat c.toNat] := by
    rw [String.utf8EncodeChar]
    exact if_pos (Nat.le_of_lt_succ small)
  rw [← String.utf8Encode_toList, List.utf8Encode, List.data_toByteArray]
  exact List.mem_flatMap.2 ⟨c, member, encoded ▸ List.mem_singleton_self _⟩

theorem isActiveByte_of_isActive {c : Char} (active : isActive c) :
    c.toNat < 0x80 ∧ isActiveByte (UInt8.ofNat c.toNat) := by
  rw [isActive, Bool.or_eq_true, Bool.or_eq_true, decide_eq_true_eq, beq_iff_eq, beq_iff_eq] at active
  rcases active with (control | rfl) | rfl
  · refine ⟨by omega, ?_⟩
    have small : UInt8.ofNat c.toNat < 0x20 := by
      rw [UInt8.lt_iff_toNat_lt, UInt8.toNat_ofNat_of_lt' (Nat.lt_trans control (by decide))]
      exact control
    simp [isActiveByte, small]
  · decide
  · decide

/-- What a name stands for holds none of these characters. -/
theorem not_isActive_of_named {name image : Text} {c : Char} (known : named? name = some image)
    (member : c ∈ image) : isActive c = false := by
  rw [named?] at known
  split at known
  · next found =>
    obtain rfl := Option.some.inj known
    have common : commonNames.all fun entry => entry.2.all fun c => !isActive c := by decide +kernel
    have clear := List.all_eq_true.1 common _ (Register.mem_of_get? found)
    simpa using List.all_eq_true.1 clear c member
  · obtain ⟨image, found, rfl⟩ := Option.map_eq_some_iff.1 known
    obtain ⟨before, behind, split, -⟩ := List.lookup_eq_some_iff.1 found
    have entry : (String.ofList name, image) ∈ furtherNames := by simp [split]
    have clear := List.all_eq_true.1 furtherNames_clear _ entry
    cases active : isActive c with
    | false => rfl
    | true =>
      obtain ⟨small, byte⟩ := isActiveByte_of_isActive active
      have inside := List.all_eq_true.1 clear _ (mem_data_of_mem_toList member small)
      simp [byte] at inside

end Images

section Codes

variable {t code : Text}

/-- A code as it is written. -/
def codeText (code : Text) : Text := ':' :: code ++ [':']

/-- A code stands for something else. -/
def IsKnown (code : Text) : Prop := (named? (Text.lower (variant code).1)).isSome

instance : DecidablePred IsKnown := fun code =>
  inferInstanceAs (Decidable ((named? (Text.lower (variant code).1)).isSome))

/-- A text without known codes. -/
def IsFree (t : Text) : Prop := ∀ code ∈ Scan.matchesOf readCode t, ¬ IsKnown code

instance : DecidablePred IsFree := fun t =>
  inferInstanceAs (Decidable (∀ code ∈ Scan.matchesOf readCode t, ¬ IsKnown code))

theorem readCode_eq_some_iff {width : Nat} :
    readCode t = some (code, width) ↔
      width = (codeText code).length ∧ (∀ c ∈ code, c ≠ ':' ∧ Text.isBlank c = false) ∧
        ∃ rest, t = codeText code ++ rest := by
  have stops (rest : Text) : Text.Stops (fun c => c ≠ ':' && !Text.isBlank c) (':' :: rest) :=
    Text.stops_cons_iff.2 rfl
  constructor
  · intro reads
    unfold readCode at reads
    split at reads
    · next rest =>
      dsimp only at reads
      split at reads
      · next behind dropped =>
        obtain ⟨rfl, rfl⟩ := Prod.mk.inj (Option.some.inj reads)
        refine ⟨by simp [codeText], ?_, behind, ?_⟩
        · intro c member
          simpa using List.all_eq_true.1 List.all_takeWhile c member
        · rw [codeText, List.cons_append, List.cons_append, List.append_assoc, List.singleton_append,
            ← dropped, List.takeWhile_append_dropWhile]
      · cases reads
    · cases reads
  · rintro ⟨rfl, inside, rest, rfl⟩
    have inner : ∀ c ∈ code, (c ≠ ':' && !Text.isBlank c) = true := by
      intro c member
      simp [inside c member]
    have written : codeText code ++ rest = ':' :: (code ++ ':' :: rest) := by simp [codeText]
    rw [written, readCode, Text.dropWhile_append_of_stops inner (stops rest),
      Text.takeWhile_append_of_stops inner (stops rest)]
    simp [codeText]

theorem writes_codeText : Scan.Writes readCode codeText where
  nonempty _ := List.cons_ne_nil ':' _
  written reads := ⟨(readCode_eq_some_iff.1 reads).1, (readCode_eq_some_iff.1 reads).2.2⟩
  settled reads rest :=
    have ⟨width, inside, _⟩ := readCode_eq_some_iff.1 reads
    readCode_eq_some_iff.2 ⟨width, inside, rest, rfl⟩

theorem resolve_of_not_isKnown (unknown : ¬ IsKnown code) : resolve code = codeText code := by
  have unnamed : named? (Text.lower (variant code).1) = none := by
    simpa [IsKnown] using unknown
  unfold resolve
  simp only [unnamed]
  rfl

/-- What a known code stands for holds none of the characters that printing can take. -/
theorem not_isActive_of_isKnown {c : Char} (known : IsKnown code) (member : c ∈ resolve code) :
    isActive c = false := by
  obtain ⟨image, named⟩ := Option.isSome_iff_exists.1 known
  unfold resolve at member
  simp only [named] at member
  rcases List.mem_append.1 member with inside | selector
  · exact not_isActive_of_named named inside
  · unfold variant at selector
    split at selector
    · obtain rfl := List.mem_singleton.1 selector
      rfl
    · split at selector
      · obtain rfl := List.mem_singleton.1 selector
        rfl
      · cases selector

theorem wanes_resolve (code : Text) : Text.Wanes isActive (codeText code) (resolve code) := by
  by_cases known : IsKnown code
  · right
    have nothing : (resolve code).countP isActive = 0 :=
      List.countP_eq_zero.2 fun c member => by simp [not_isActive_of_isKnown known member]
    have colon : 0 < (codeText code).countP isActive :=
      List.countP_pos_iff.2 ⟨':', List.mem_cons_self, rfl⟩
    rwa [nothing]
  · exact .inl (resolve_of_not_isKnown known)

/-- Exactly the known codes are replaced. -/
theorem resolve_eq_codeText_iff : resolve code = codeText code ↔ ¬ IsKnown code := by
  constructor
  · intro same known
    have colon := not_isActive_of_isKnown (c := ':') known (same ▸ List.mem_cons_self)
    cases colon
  · exact resolve_of_not_isKnown

theorem wanes_replace (t : Text) : Text.Wanes isActive t (replace t) :=
  writes_codeText.wanes_substitute fun code _ => wanes_resolve code

/-- A text comes back exactly if it holds no known code. -/
theorem replace_eq_self_iff : replace t = t ↔ IsFree t := by
  rw [replace, writes_codeText.substitute_eq_self_iff fun code _ => wanes_resolve code]
  simp only [resolve_eq_codeText_iff]
  rfl

/-- Replacing codes brings in no colon, backslash or control. -/
theorem mem_of_mem_replace {c : Char} (active : isActive c) (member : c ∈ replace t) : c ∈ t := by
  rcases writes_codeText.mem_or_mem_of_mem_substitute member with before | ⟨code, found, image⟩
  · exact before
  · by_cases known : IsKnown code
    · rw [not_isActive_of_isKnown known image] at active
      cases active
    · rw [resolve_of_not_isKnown known] at image
      exact (writes_codeText.infix_of_mem_matchesOf found).mem image

end Codes

end TagOrigin.Display.Emoji
