import Mathlib.Algebra.Group.Nat.Defs
import TagOrigin.Encoding.Codec
import TagOrigin.Proofs.Text.Search

/-!
Reading undoes writing. Under every encoding a character that has been written is read with exactly its
own bytes, whatever follows them, so a whole text is read character by character. A mark in front is
dropped once; a mark that belongs to the text is a character like any other.
-/
namespace TagOrigin.Encoding

theorem toNat_byte {n : Nat} (small : n < 256) : (UInt8.ofNat n).toNat = n :=
  UInt8.toNat_ofNat_of_lt' small

namespace Utf8

section Written

/-- A byte that may follow adds its six bits. -/
theorem follow_cons {following low high value width : Nat} {b : UInt8} (s : Bytes)
    (least : low ≤ b.toNat) (most : b.toNat ≤ high) :
    follow (following + 1) low high value width (b :: s) =
      follow following 0x80 0xbf (value * 64 + (b.toNat - 0x80)) (width + 1) s := by
  simp [follow, least, most]

/-- The bounds of the second of three bytes exclude what two bytes can hold, and surrogates. -/
theorem exists_lead?_of_three (bits next : Nat) (few : bits < 0x10) (least : 0x80 ≤ next)
    (most : next ≤ 0xbf) (long : bits = 0 → 0xa0 ≤ next) (scalar : bits = 0xd → next ≤ 0x9f) :
    ∃ low high, lead? (bits + 0xe0) = some ⟨bits, 2, low, high⟩ ∧ low ≤ next ∧ next ≤ high := by
  unfold lead?
  rw [if_neg (by omega), if_neg (by omega)]
  split
  · have none : bits = 0 := by omega
    subst none
    exact ⟨0xa0, 0xbf, rfl, long rfl, most⟩
  · split
    · have surrogates : bits = 0xd := by omega
      subst surrogates
      exact ⟨0x80, 0x9f, rfl, least, scalar rfl⟩
    · rw [if_pos (by omega), Nat.add_sub_cancel]
      exact ⟨0x80, 0xbf, rfl, least, most⟩

/-- The bounds of the second of four bytes exclude what three bytes can hold, and what is no code
point. -/
theorem exists_lead?_of_four (bits next : Nat) (few : bits ≤ 4) (least : 0x80 ≤ next)
    (most : next ≤ 0xbf) (long : bits = 0 → 0x90 ≤ next) (scalar : bits = 4 → next ≤ 0x8f) :
    ∃ low high, lead? (bits + 0xf0) = some ⟨bits, 3, low, high⟩ ∧ low ≤ next ∧ next ≤ high := by
  unfold lead?
  rw [if_neg (by omega), if_neg (by omega), if_neg (by omega), if_neg (by omega), if_neg (by omega)]
  split
  · have none : bits = 0 := by omega
    subst none
    exact ⟨0x90, 0xbf, rfl, long rfl, most⟩
  · split
    · rw [Nat.add_sub_cancel]
      exact ⟨0x80, 0xbf, rfl, least, most⟩
    · have last : bits = 4 := by omega
      subst last
      exact ⟨0x80, 0x8f, rfl, least, scalar rfl⟩

variable {n : Nat} (rest : Bytes)

theorem read_one (most : n < 0x80) :
    read (.ofNat n :: rest) = some (.character (Char.ofNat n), 1) := by
  rw [read, toNat_byte (by omega), if_pos most]

theorem read_two (least : 0x80 ≤ n) (most : n < 0x800) :
    read (.ofNat (n / 64 % 32 + 192) :: .ofNat (n % 64 + 128) :: rest) =
      some (.character (Char.ofNat n), 2) := by
  have first : (UInt8.ofNat (n / 64 % 32 + 192)).toNat = n / 64 + 0xc0 := by
    rw [toNat_byte] <;> omega
  have second : (UInt8.ofNat (n % 64 + 128)).toNat = n % 64 + 0x80 := toNat_byte (by omega)
  have promised : lead? (n / 64 + 0xc0) = some ⟨n / 64, 1, 0x80, 0xbf⟩ := by
    rw [lead?, if_neg (by omega), if_pos (by omega), Nat.add_sub_cancel]
  have number : n / 64 * 64 + (n % 64 + 0x80 - 0x80) = n := by omega
  rw [read, first, if_neg (by omega), promised]
  simp only
  rw [follow_cons _ (by omega) (by omega), follow, second, number]

theorem read_three (least : 0x800 ≤ n) (most : n < 0x10000) (scalar : n < 0xd800 ∨ 0xdfff < n) :
    read (.ofNat (n / 4096 % 16 + 224) :: .ofNat (n / 64 % 64 + 128) :: .ofNat (n % 64 + 128) ::
      rest) = some (.character (Char.ofNat n), 3) := by
  have first : (UInt8.ofNat (n / 4096 % 16 + 224)).toNat = n / 4096 + 0xe0 := by
    rw [toNat_byte] <;> omega
  have second : (UInt8.ofNat (n / 64 % 64 + 128)).toNat = n / 64 % 64 + 0x80 := toNat_byte (by omega)
  have third : (UInt8.ofNat (n % 64 + 128)).toNat = n % 64 + 0x80 := toNat_byte (by omega)
  obtain ⟨low, high, promised, above, below⟩ :=
    exists_lead?_of_three (n / 4096) (n / 64 % 64 + 0x80)
      (by omega) (by omega) (by omega) (by omega) (by omega)
  have number : (n / 4096 * 64 + (n / 64 % 64 + 0x80 - 0x80)) * 64 + (n % 64 + 0x80 - 0x80) = n := by
    omega
  rw [read, first, if_neg (by omega), promised]
  simp only
  rw [follow_cons _ (by omega) (by omega), follow_cons _ (by omega) (by omega), follow, second, third,
    number]

theorem read_four (least : 0x10000 ≤ n) (most : n < 0x110000) :
    read (.ofNat (n / 262144 % 8 + 240) :: .ofNat (n / 4096 % 64 + 128) ::
      .ofNat (n / 64 % 64 + 128) :: .ofNat (n % 64 + 128) :: rest) =
        some (.character (Char.ofNat n), 4) := by
  have first : (UInt8.ofNat (n / 262144 % 8 + 240)).toNat = n / 262144 + 0xf0 := by
    rw [toNat_byte] <;> omega
  have second : (UInt8.ofNat (n / 4096 % 64 + 128)).toNat = n / 4096 % 64 + 0x80 :=
    toNat_byte (by omega)
  have third : (UInt8.ofNat (n / 64 % 64 + 128)).toNat = n / 64 % 64 + 0x80 := toNat_byte (by omega)
  have fourth : (UInt8.ofNat (n % 64 + 128)).toNat = n % 64 + 0x80 := toNat_byte (by omega)
  obtain ⟨low, high, promised, above, below⟩ :=
    exists_lead?_of_four (n / 262144) (n / 4096 % 64 + 0x80)
      (by omega) (by omega) (by omega) (by omega) (by omega)
  have number : ((n / 262144 * 64 + (n / 4096 % 64 + 0x80 - 0x80)) * 64 +
      (n / 64 % 64 + 0x80 - 0x80)) * 64 + (n % 64 + 0x80 - 0x80) = n := by omega
  rw [read, first, if_neg (by omega), promised]
  simp only
  rw [follow_cons _ (by omega) (by omega), follow_cons _ (by omega) (by omega),
    follow_cons _ (by omega) (by omega), follow, second, third, fourth, number]

/-- A character that has been written is read. -/
theorem read_encodeChar (c : Char) (rest : Bytes) :
    read (String.utf8EncodeChar c ++ rest) =
      some (.character c, (String.utf8EncodeChar c).length) := by
  have valid : c.val.toNat.isValidChar := c.valid
  have same : Char.ofNat c.val.toNat = c := Char.ofNat_toNat c
  unfold Nat.isValidChar at valid
  simp only [String.utf8EncodeChar]
  generalize c.val.toNat = n at valid same ⊢
  subst same
  split
  · exact read_one rest (by omega)
  · split
    · exact read_two rest (by omega) (by omega)
    · split
      · exact read_three rest (by omega) (by omega) (by omega)
      · exact read_four rest (by omega) (by omega)

theorem encodeChar_ne_nil (c : Char) : String.utf8EncodeChar c ≠ [] := by
  simp only [String.utf8EncodeChar]
  repeat' split
  all_goals exact List.cons_ne_nil _ _

end Written

/-- Writing a text and reading it gives the text. -/
theorem decode_encode (t : Text) : decode (encode t) = t := by
  have reads (c : Char) (rest : Bytes) :
      (read (String.utf8EncodeChar c ++ rest)).map (fun found => (found, found.2)) =
        some ((.character c, (String.utf8EncodeChar c).length),
          (String.utf8EncodeChar c).length) := by
    rw [read_encodeChar]
    rfl
  rw [decode, pieces, encode, Scan.matchesOf_flatMap encodeChar_ne_nil reads, List.map_map]
  exact List.map_id t

end Utf8

section ByteOrder

theorem bigEndian_append_singleton (s : Bytes) (b : UInt8) :
    bigEndian (s ++ [b]) = bigEndian s * 256 + b.toNat := by
  simp [bigEndian]

theorem bigEndian_bigEndianBytes {width n : Nat} (fits : n < 256 ^ width) :
    bigEndian (bigEndianBytes width n) = n := by
  induction width generalizing n with
  | zero =>
    rw [Nat.pow_zero, Nat.lt_one_iff] at fits
    subst fits
    rfl
  | succ width ih =>
    have high : n / 256 < 256 ^ width := Nat.div_lt_of_lt_mul (by rwa [Nat.pow_succ'] at fits)
    have low : (UInt8.ofNat n).toNat = n % 256 := UInt8.toNat_ofNat'
    rw [bigEndianBytes, bigEndian_append_singleton, ih high, low]
    omega

theorem length_bigEndianBytes (width n : Nat) : (bigEndianBytes width n).length = width := by
  induction width generalizing n with
  | zero => rfl
  | succ width ih => rw [bigEndianBytes, List.length_append, ih, List.length_singleton]

variable (order : ByteOrder)

theorem ByteOrder.value_bytes (width : Nat) {n : Nat} (fits : n < 256 ^ width) :
    order.value (order.bytes width n) = n := by
  cases order with
  | little => rw [value, bytes, List.reverse_reverse, bigEndian_bigEndianBytes fits]
  | big => exact bigEndian_bigEndianBytes fits

theorem ByteOrder.length_bytes (width n : Nat) : (order.bytes width n).length = width := by
  cases order with
  | little => rw [bytes, List.length_reverse, length_bigEndianBytes]
  | big => exact length_bigEndianBytes width n

theorem ByteOrder.exists_two_bytes (n : Nat) (fits : n < 0x10000) :
    ∃ a b, order.bytes 2 n = [a, b] ∧ order.value [a, b] = n := by
  have value := order.value_bytes 2 fits
  match whole : order.bytes 2 n, order.length_bytes 2 n with
  | [a, b], _ => exact ⟨a, b, rfl, whole ▸ value⟩

theorem ByteOrder.exists_four_bytes (n : Nat) (fits : n < 0x100000000) :
    ∃ a b c d, order.bytes 4 n = [a, b, c, d] ∧ order.value [a, b, c, d] = n := by
  have value := order.value_bytes 4 fits
  match whole : order.bytes 4 n, order.length_bytes 4 n with
  | [a, b, c, d], _ => exact ⟨a, b, c, d, rfl, whole ▸ value⟩

theorem ByteOrder.bytes_ne_nil {width : Nat} (positive : 0 < width) (n : Nat) :
    order.bytes width n ≠ [] := by
  rw [← List.length_pos_iff, order.length_bytes]
  exact positive

theorem scalar_toNat (c : Char) : scalar c.toNat = c := by
  have valid : c.toNat.isValidChar := c.valid
  rw [scalar, if_pos valid, Char.ofNat_toNat]

end ByteOrder

namespace Utf16

variable (order : ByteOrder)

/-- A character that has been written is read. -/
theorem read_encodeChar (c : Char) (rest : Bytes) :
    read order (encodeChar order c ++ rest) = some (c, (encodeChar order c).length) := by
  have valid : c.toNat.isValidChar := c.valid
  unfold Nat.isValidChar at valid
  rw [encodeChar]
  split
  · next basic =>
    obtain ⟨a, b, written, unit⟩ := order.exists_two_bytes c.toNat basic
    have alone : isHighSurrogate c.toNat = false := by
      simp only [isHighSurrogate, Bool.and_eq_false_iff, decide_eq_false_iff_not]
      omega
    simp [written, read, unit, alone, scalar_toNat]
  · next beyond =>
    obtain ⟨high, isHigh⟩ : ∃ n, n = 0xd800 + (c.toNat - 0x10000) / 0x400 := ⟨_, rfl⟩
    obtain ⟨low, isLow⟩ : ∃ n, n = 0xdc00 + (c.toNat - 0x10000) % 0x400 := ⟨_, rfl⟩
    obtain ⟨a, b, written, first⟩ := order.exists_two_bytes high (by omega)
    obtain ⟨d, e, written', second⟩ := order.exists_two_bytes low (by omega)
    have opens : isHighSurrogate high = true := by
      simp only [isHighSurrogate, Bool.and_eq_true, decide_eq_true_eq]
      omega
    have closes : isLowSurrogate low = true := by
      simp only [isLowSurrogate, Bool.and_eq_true, decide_eq_true_eq]
      omega
    have number : 0x10000 + (high - 0xd800) * 0x400 + (low - 0xdc00) = c.toNat := by omega
    simp only [← isHigh, ← isLow, written, written']
    simp [read, first, second, opens, closes, number, scalar_toNat]

theorem encodeChar_ne_nil (c : Char) : encodeChar order c ≠ [] := by
  rw [encodeChar]
  split
  · exact order.bytes_ne_nil (by decide) _
  · exact List.append_ne_nil_of_left_ne_nil (order.bytes_ne_nil (by decide) _) _

/-- Writing a text and reading it gives the text. -/
theorem decode_encode (t : Text) : decode order (encode order t) = t := by
  rw [decode, encode, Scan.matchesOf_flatMap (encodeChar_ne_nil order) (read_encodeChar order)]
  exact List.map_id t

end Utf16

namespace Utf32

variable (order : ByteOrder)

/-- A character that has been written is read. -/
theorem read_bytes (c : Char) (rest : Bytes) :
    read order (order.bytes 4 c.toNat ++ rest) = some (c, (order.bytes 4 c.toNat).length) := by
  have valid : c.toNat.isValidChar := c.valid
  unfold Nat.isValidChar at valid
  obtain ⟨a, b, d, e, written, value⟩ := order.exists_four_bytes c.toNat (by omega)
  simp [written, read, value, scalar_toNat]

/-- Writing a text and reading it gives the text. -/
theorem decode_encode (t : Text) : decode order (encode order t) = t := by
  have nonempty (c : Char) : order.bytes 4 c.toNat ≠ [] := order.bytes_ne_nil (by decide) c.toNat
  rw [decode, encode, Scan.matchesOf_flatMap nonempty (read_bytes order)]
  exact List.map_id t

end Utf32

theorem latin1Char_latin1Byte {c : Char} (small : c.toNat < 0x100) : latin1Char (latin1Byte c) = c := by
  rw [latin1Char, latin1Byte, toNat_byte small, Char.ofNat_toNat]

/-- The byte order mark as a character. -/
def markNumber : Nat := 0xfeff

/-- The bytes in which a text is written under an encoding. Encodings that drop a mark have one in
front, in either order if the mark is to tell the order. -/
inductive Written : Encoding → Text → Bytes → Prop where
  | utf8 (t : Text) : Written .utf8 t (Utf8.encode t)
  | utf8Marked (t : Text) : Written .utf8Marked t (utf8Mark ++ Utf8.encode t)
  | utf16 (order : ByteOrder) (t : Text) :
    Written .utf16 t (order.bytes 2 markNumber ++ Utf16.encode order t)
  | utf16Ordered (order : ByteOrder) (t : Text) :
    Written (.utf16Ordered order) t (Utf16.encode order t)
  | utf32 (order : ByteOrder) (t : Text) :
    Written .utf32 t (order.bytes 4 markNumber ++ Utf32.encode order t)
  | utf32Ordered (order : ByteOrder) (t : Text) :
    Written (.utf32Ordered order) t (Utf32.encode order t)
  | latin1 (t : Text) (small : ∀ c ∈ t, c.toNat < 0x100) : Written .latin1 t (t.map latin1Byte)

theorem dropUtf8Mark_append (bytes : Bytes) : dropUtf8Mark (utf8Mark ++ bytes) = bytes := by
  simp [dropUtf8Mark, utf8Mark]

/-- A mark is dropped, and it tells the order. -/
theorem decode_utf16_mark [Charts] (order : ByteOrder) (bytes : Bytes) :
    decode .utf16 (order.bytes 2 markNumber ++ bytes) = .ok (Utf16.decode order bytes) := by
  cases order <;> rfl

theorem decode_utf32_mark [Charts] (order : ByteOrder) (bytes : Bytes) :
    decode .utf32 (order.bytes 4 markNumber ++ bytes) = .ok (Utf32.decode order bytes) := by
  cases order <;> rfl

/-- A text that has been written under an encoding is read. -/
theorem decode_of_written [Charts] {encoding : Encoding} {t : Text} {bytes : Bytes}
    (written : Written encoding t bytes) : encoding.decode bytes = .ok t := by
  cases written with
  | utf8 => exact congrArg Except.ok (Utf8.decode_encode t)
  | utf8Marked => rw [decode, dropUtf8Mark_append, Utf8.decode_encode]
  | utf16 order => rw [decode_utf16_mark, Utf16.decode_encode]
  | utf16Ordered order => exact congrArg Except.ok (Utf16.decode_encode order t)
  | utf32 order => rw [decode_utf32_mark, Utf32.decode_encode]
  | utf32Ordered order => exact congrArg Except.ok (Utf32.decode_encode order t)
  | latin1 _ small =>
    rw [decode, List.map_map]
    refine congrArg Except.ok ((List.map_congr_left fun c member => ?_).trans (List.map_id t))
    exact latin1Char_latin1Byte (small c member)

end TagOrigin.Encoding
