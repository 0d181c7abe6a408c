import TagOrigin.Encoding.Names
import TagOrigin.Proofs.Encoding.LineEnds

/-!
Encodings that extend ASCII. Whatever the bytes are, all of them show the same ASCII characters in the
same order, and between two of these they show other characters or none at the same places. How many
other characters there are depends on the encoding. Making line ends alike keeps this.
-/
namespace TagOrigin

/-- A character beyond ASCII. -/
def IsForeign (c : Char) : Prop := 0x80 ≤ c.toNat

instance (c : Char) : Decidable (IsForeign c) := inferInstanceAs (Decidable (0x80 ≤ c.toNat))

/-- Two texts that differ only in runs of characters beyond ASCII, each a run in both. -/
inductive Alike : Text → Text → Prop where
  | nil : Alike [] []
  | cons (c : Char) {s t : Text} (rest : Alike s t) : Alike (c :: s) (c :: t)
  | foreign {u v s t : Text} (nonempty : u ≠ []) (nonempty' : v ≠ [])
    (inside : ∀ c ∈ u, IsForeign c) (inside' : ∀ c ∈ v, IsForeign c) (rest : Alike s t) :
    Alike (u ++ s) (v ++ t)

namespace Alike

variable {s t : Text}

/-- The same ASCII character stands at the front of both, or at the front of neither. -/
theorem head?_iff (alike : Alike s t) {c : Char} (ascii : ¬ IsForeign c) :
    s.head? = some c ↔ t.head? = some c := by
  cases alike with
  | nil => rfl
  | cons => rfl
  | foreign nonempty nonempty' inside inside' =>
    obtain ⟨a, u, rfl⟩ := List.exists_cons_of_ne_nil nonempty
    obtain ⟨b, v, rfl⟩ := List.exists_cons_of_ne_nil nonempty'
    have first : a ≠ c := fun same => ascii (same ▸ inside a List.mem_cons_self)
    have first' : b ≠ c := fun same => ascii (same ▸ inside' b List.mem_cons_self)
    simp [first, first']

open Encoding

/-- A carriage return and a line feed behind it fall together in both texts. -/
theorem normaliseLineEnds (alike : Alike s t) :
    Alike (normaliseLineEnds s) (normaliseLineEnds t) := by
  induction alike with
  | nil => exact .nil
  | @cons c s t rest ih =>
    by_cases returned : c = '\r'
    · subst returned
      have same := rest.head?_iff (c := '\n') (by decide)
      by_cases feed : s.head? = some '\n'
      · obtain ⟨s, rfl⟩ := List.head?_eq_some_iff.1 feed
        obtain ⟨t, rfl⟩ := List.head?_eq_some_iff.1 (same.1 feed)
        exact ih
      · rw [normaliseLineEnds_return feed, normaliseLineEnds_return (mt same.2 feed)]
        exact ih.cons '\n'
    · rw [normaliseLineEnds_cons_of_ne returned, normaliseLineEnds_cons_of_ne returned]
      exact ih.cons c
  | foreign nonempty nonempty' inside inside' rest ih =>
    have clean : ¬ IsForeign '\r' := by decide
    rw [normaliseLineEnds_append fun member => clean (inside _ member),
      normaliseLineEnds_append fun member => clean (inside' _ member)]
    exact .foreign nonempty nonempty' inside inside' ih

end Alike

namespace Encoding

/-- Every byte as the character of its number. -/
def byteText (bytes : Bytes) : Text := bytes.map latin1Char

theorem isForeign_latin1Char {b : UInt8} (high : 0x80 ≤ b.toNat) : IsForeign (latin1Char b) := by
  have small := b.toNat_lt
  have valid : b.toNat.isValidChar := .inl (by omega)
  rwa [IsForeign, latin1Char, toNat_ofNat valid]

/-- An encoding with a character for every byte, the ASCII ones being those of ASCII. -/
theorem alike_map {f : UInt8 → Char} (ascii : ∀ b, b.toNat < 0x80 → f b = latin1Char b)
    (foreign : ∀ b, 0x80 ≤ b.toNat → IsForeign (f b)) (bytes : Bytes) :
    Alike (byteText bytes) (bytes.map f) := by
  induction bytes with
  | nil => exact .nil
  | cons b bytes ih =>
    rw [byteText, List.map_cons, List.map_cons]
    by_cases low : b.toNat < 0x80
    · rw [ascii b low]
      exact ih.cons _
    · have high : 0x80 ≤ b.toNat := by omega
      exact .foreign (List.cons_ne_nil _ []) (List.cons_ne_nil _ [])
        (by simpa using isForeign_latin1Char high) (by simpa using foreign b high) ih

theorem isForeign_of_mem_byteText {bytes : Bytes} (high : ∀ b ∈ bytes, 0x80 ≤ b.toNat) :
    ∀ c ∈ byteText bytes, IsForeign c := by
  intro c member
  obtain ⟨b, inside, rfl⟩ := List.mem_map.1 member
  exact isForeign_latin1Char (high b inside)

theorem alike_utf8 (bytes : Bytes) : Alike (byteText bytes) (Utf8.decode bytes) := by
  induction bytes using Utf8.pieces_induction with
  | nil => exact .nil
  | more front rest piece nonempty reads kind ih =>
    rw [Utf8.decode_append_of_read nonempty reads, byteText, List.map_append]
    rcases kind with ⟨b, _, rfl, rfl⟩ | ⟨high, foreign⟩
    · exact ih.cons _
    · exact .foreign (by simpa using nonempty) (List.cons_ne_nil _ [])
        (isForeign_of_mem_byteText high) (by simpa [IsForeign] using foreign) ih

theorem windowsRow_foreign : ∀ n ∈ windowsRow, 0x80 ≤ n ∧ n.isValidChar := by decide

theorem isForeign_windowsChar {b : UInt8} (high : 0x80 ≤ b.toNat) : IsForeign (windowsChar b) := by
  rw [windowsChar]
  split
  · next row =>
    simp only [Bool.and_eq_true, decide_eq_true_eq] at row
    have inside : b.toNat - 0x80 < windowsRow.length := by
      simp only [windowsRow, List.length_cons, List.length_nil]
      omega
    rw [List.getD_eq_getElem?_getD, List.getElem?_eq_getElem inside, Option.getD_some]
    obtain ⟨large, valid⟩ := windowsRow_foreign _ (List.getElem_mem inside)
    rwa [IsForeign, toNat_ofNat valid]
  · exact isForeign_latin1Char high

/-- A mark, or the beginning of one, is all that is dropped. -/
theorem exists_append_dropUtf8Mark (bytes : Bytes) :
    ∃ front, bytes = front ++ dropUtf8Mark bytes ∧ ∀ b ∈ front, 0x80 ≤ b.toNat := by
  have marked : ∀ b ∈ utf8Mark, 0x80 ≤ b.toNat := by simp [utf8Mark]
  rw [dropUtf8Mark]
  split
  · next short =>
    simp only [Bool.and_eq_true, List.isPrefixOf_iff_prefix] at short
    exact ⟨bytes, (List.append_nil bytes).symm, fun b member => marked b (short.2.mem member)⟩
  · split
    · next whole =>
      obtain ⟨rest, rfl⟩ := List.isPrefixOf_iff_prefix.1 whole
      exact ⟨utf8Mark, rfl, marked⟩
    · exact ⟨[], rfl, by simp⟩

/-- The encodings in which the lower half of the bytes is ASCII, by name. -/
def asciiNames : List Text :=
  ["utf-8", "utf-8-sig", "latin-1", "ascii", "cp1252"].map String.toList

/-- Under such an encoding all bytes are read. They show the ASCII characters of the bytes, and a run of
others for a run of others; only one such run at the front may be dropped. -/
theorem exists_alike_of_mem_asciiNames [Charts] {name : Text} (known : name ∈ asciiNames) (bytes : Bytes) :
    ∃ encoding t, find? name = some (.text encoding) ∧ encoding.decode bytes = .ok t ∧
      ∃ front rest, bytes = front ++ rest ∧ (∀ b ∈ front, 0x80 ≤ b.toNat) ∧
        Alike (byteText rest) t := by
  have whole (t : Text) (alike : Alike (byteText bytes) t) :
      ∃ front rest, bytes = front ++ rest ∧ (∀ b ∈ front, 0x80 ≤ b.toNat) ∧
        Alike (byteText rest) t := ⟨[], bytes, rfl, by simp, alike⟩
  simp only [asciiNames, List.map_cons, List.map_nil, List.mem_cons, List.not_mem_nil, or_false]
    at known
  rcases known with rfl | rfl | rfl | rfl | rfl
  · exact ⟨.utf8, _, by decide, rfl, whole _ (alike_utf8 bytes)⟩
  · obtain ⟨front, dropped, high⟩ := exists_append_dropUtf8Mark bytes
    exact ⟨.utf8Marked, _, by decide, rfl, front, _, dropped, high, alike_utf8 _⟩
  · exact ⟨.latin1, _, by decide, rfl, whole _ (alike_map (fun _ _ => rfl)
      (fun _ => isForeign_latin1Char) bytes)⟩
  · refine ⟨.ascii, _, by decide, rfl, whole _ (alike_map ?_ ?_ bytes)⟩
    · intro b low
      rw [asciiChar, if_pos low, latin1Char]
    · intro b high
      rw [asciiChar, if_neg (by omega)]
      decide
  · refine ⟨.windows1252, _, by decide, rfl, whole _ (alike_map ?_ ?_ bytes)⟩
    · intro b low
      have outside : ¬ 0x80 ≤ b.toNat := by omega
      simp [windowsChar, outside, latin1Char]
    · intro b high
      exact isForeign_windowsChar high

end Encoding

end TagOrigin
