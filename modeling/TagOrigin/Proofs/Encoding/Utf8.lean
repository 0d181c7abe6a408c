import Mathlib.Tactic.Ring
import TagOrigin.Encoding.Codec
import TagOrigin.Proofs.Text.Search

/-!
Reading of UTF-8, whatever the bytes are. A piece is one ASCII byte or holds no ASCII byte at all, and
a piece of the second kind is read as a character beyond ASCII. So ASCII bytes are never swallowed or
invented, and reading begins anew at each of them, also behind a sequence that was cut off.
-/
namespace TagOrigin.Encoding

theorem toNat_ofNat {n : Nat} (valid : n.isValidChar) : (Char.ofNat n).toNat = n := by
  unfold Char.ofNat
  rw [dif_pos valid]
  exact UInt32.toNat_ofNatLT

namespace Utf8

/-- The character that a piece is read as. -/
def Piece.shown : Piece → Char
  | .character c => c
  | .illFormed _ => replacement

section Following

variable {low high value width : Nat}

/-- The bytes that follow a first byte are none of ASCII, and all of them count for the width. -/
theorem exists_taken_of_follow (following high value width : Nat) (continuing : 0x80 ≤ low)
    (s : Bytes) :
    ∃ taken rest, s = taken ++ rest ∧ (∀ b ∈ taken, 0x80 ≤ b.toNat) ∧
      (follow following low high value width s).2 = width + taken.length := by
  induction following generalizing low high value width s with
  | zero => exact ⟨[], s, rfl, by simp, rfl⟩
  | succ following ih =>
    cases s with
    | nil => exact ⟨[], [], rfl, by simp, rfl⟩
    | cons b s =>
      rw [follow]
      split
      · next inside =>
        simp only [Bool.and_eq_true, decide_eq_true_eq] at inside
        obtain ⟨taken, rest, rfl, foreign, wide⟩ := ih _ _ _ (Nat.le_refl 0x80) s
        refine ⟨b :: taken, rest, rfl, ?_, ?_⟩
        · exact List.forall_mem_cons.2 ⟨by omega, foreign⟩
        · rw [wide, List.length_cons]
          omega
      · exact ⟨[], b :: s, rfl, by simp, rfl⟩

/-- The number that is read has the bits that are given in front, and the first byte that follows
bounds the rest. -/
theorem exists_value_of_follow {following : Nat} {s : Bytes} {c : Char} {total : Nat}
    (reads : follow (following + 1) low high value width s = (.character c, total)) :
    ∃ n, c = Char.ofNat n ∧ (value * 64 + (low - 0x80)) * 64 ^ following ≤ n ∧
      n < (value * 64 + (high - 0x80) + 1) * 64 ^ following := by
  cases s with
  | nil => cases reads
  | cons b s =>
    rw [follow] at reads
    split at reads
    · next inside =>
      simp only [Bool.and_eq_true, decide_eq_true_eq] at inside
      induction following generalizing low high value width s b with
      | zero =>
        simp only [follow, Prod.mk.injEq, Piece.character.injEq] at reads
        exact ⟨_, reads.1.symm, by omega, by omega⟩
      | succ following ih =>
        cases s with
        | nil => cases reads
        | cons d s =>
          rw [follow] at reads
          split at reads
          · next inside' =>
            simp only [Bool.and_eq_true, decide_eq_true_eq] at inside'
            obtain ⟨n, rfl, least, most⟩ := ih d s reads inside'
            refine ⟨n, rfl, le_trans ?_ least, lt_of_lt_of_le most ?_⟩
            · rw [pow_succ', ← mul_assoc]
              exact Nat.mul_le_mul_right _ (by omega)
            · rw [pow_succ', ← mul_assoc]
              exact Nat.mul_le_mul_right _ (by omega)
          · cases reads
    · cases reads

end Following

namespace Lead

/-- The least number that a first byte promises. -/
def least (lead : Lead) : Nat :=
  (lead.bits * 64 + (lead.low - 0x80)) * 64 ^ (lead.following - 1)

/-- The first number that is too large for a first byte. -/
def bound (lead : Lead) : Nat :=
  (lead.bits * 64 + (lead.high - 0x80) + 1) * 64 ^ (lead.following - 1)

/-- All that a first byte promises are characters beyond ASCII. -/
structure IsSound (lead : Lead) : Prop where
  following : 0 < lead.following
  low : 0x80 ≤ lead.low
  foreign : 0x80 ≤ lead.least
  valid : lead.bound ≤ 0xd800 ∨ 0xe000 ≤ lead.least ∧ lead.bound ≤ 0x110000

theorem isSound_of_lead? {b : Nat} {lead : Lead} (promised : lead? b = some lead) :
    lead.IsSound := by
  unfold lead? at promised
  repeat' split at promised
  all_goals simp only [reduceCtorEq, Option.some.injEq] at promised
  all_goals subst promised
  all_goals
    constructor
    · simp
    · simp
    · simp only [least]
      omega
    · simp only [least, bound]
      omega

/-- A character read from several bytes is not ASCII. -/
theorem foreign_of_follow {lead : Lead} {s : Bytes} {c : Char} {total : Nat} (sound : lead.IsSound)
    (reads : follow lead.following lead.low lead.high lead.bits 1 s = (.character c, total)) :
    0x80 ≤ c.toNat := by
  obtain ⟨following, more⟩ := Nat.exists_eq_add_of_lt sound.following
  rw [Nat.zero_add] at more
  rw [more] at reads
  obtain ⟨n, rfl, atLeast, below⟩ := exists_value_of_follow reads
  have foreign := sound.foreign
  have valid := sound.valid
  simp only [least, bound, more, Nat.add_sub_cancel] at foreign valid
  have isValid : n.isValidChar := by
    unfold Nat.isValidChar
    omega
  rw [toNat_ofNat isValid]
  omega

end Lead

/-- A piece is one ASCII byte, which is read as its character, or bytes beyond ASCII alone, which are
read as a character beyond ASCII. -/
theorem read_cases {s : Bytes} (nonempty : s ≠ []) :
    ∃ piece front rest, s = front ++ rest ∧ front ≠ [] ∧ read s = some (piece, front.length) ∧
      ((∃ b : UInt8, b.toNat < 0x80 ∧ front = [b] ∧ piece = .character (Char.ofNat b.toNat)) ∨
        (∀ b ∈ front, 0x80 ≤ b.toNat) ∧ 0x80 ≤ piece.shown.toNat) := by
  obtain ⟨b, s, rfl⟩ := List.exists_cons_of_ne_nil nonempty
  by_cases ascii : b.toNat < 0x80
  · refine ⟨.character (Char.ofNat b.toNat), [b], s, rfl, by simp, ?_, .inl ⟨b, ascii, rfl, rfl⟩⟩
    simp [read, ascii]
  · cases promised : lead? b.toNat with
    | none =>
      refine ⟨.illFormed .invalidStart, [b], s, rfl, by simp, ?_, .inr ⟨by simp; omega, by decide⟩⟩
      simp [read, ascii, promised]
    | some lead =>
      have sound := Lead.isSound_of_lead? promised
      obtain ⟨taken, rest, rfl, foreign, wide⟩ :=
        exists_taken_of_follow lead.following lead.high lead.bits 1 sound.low s
      cases followed : follow lead.following lead.low lead.high lead.bits 1 (taken ++ rest) with
      | mk piece total =>
        rw [followed] at wide
        have width : total = taken.length + 1 := by omega
        refine ⟨piece, b :: taken, rest, rfl, by simp, ?_, .inr ⟨?_, ?_⟩⟩
        · simp only [read, ascii, promised, if_false, followed, List.length_cons,
            width]
        · exact List.forall_mem_cons.2 ⟨by omega, foreign⟩
        · cases piece with
          | character c => exact Lead.foreign_of_follow sound followed
          | illFormed reason => exact (by decide : 0x80 ≤ replacement.toNat)

section Decoding

@[simp] theorem decode_nil : decode [] = [] := rfl

/-- A piece at the front is read, and then the rest. -/
theorem decode_append_of_read {front rest : Bytes} {piece : Piece} (nonempty : front ≠ [])
    (reads : read (front ++ rest) = some (piece, front.length)) :
    decode (front ++ rest) = piece.shown :: decode rest := by
  have found : (read (front ++ rest)).map (fun found => (found, found.2)) =
      some ((piece, front.length), front.length) := by
    rw [reads]
    rfl
  rw [decode, pieces, Scan.matchesOf_append_of_some nonempty found]
  cases piece <;> rfl

/-- What holds of no bytes, and of a piece in front of any bytes of which it holds, holds of all. -/
theorem pieces_induction {motive : Bytes → Prop} (nil : motive [])
    (more : ∀ front rest piece, front ≠ [] → read (front ++ rest) = some (piece, front.length) →
      ((∃ b : UInt8, b.toNat < 0x80 ∧ front = [b] ∧ piece = .character (Char.ofNat b.toNat)) ∨
        (∀ b ∈ front, 0x80 ≤ b.toNat) ∧ 0x80 ≤ piece.shown.toNat) →
      motive rest → motive (front ++ rest))
    (s : Bytes) : motive s := by
  by_cases empty : s = []
  · exact empty ▸ nil
  · obtain ⟨piece, front, rest, rfl, nonempty, reads, kind⟩ := read_cases empty
    have shorter : rest.length < (front ++ rest).length := by
      have := List.length_pos_iff.2 nonempty
      rw [List.length_append]
      omega
    exact more front rest piece nonempty reads kind (pieces_induction nil more rest)
termination_by s.length

/-- An ASCII character comes from its own byte. -/
theorem byte_mem_of_mem_decode {c : Char} (ascii : c.toNat < 0x80) {s : Bytes} (member : c ∈ decode s) :
    UInt8.ofNat c.toNat ∈ s := by
  induction s using pieces_induction with
  | nil => cases member
  | more front rest piece nonempty reads kind ih =>
    rw [decode_append_of_read nonempty reads] at member
    rcases List.mem_cons.1 member with rfl | later
    · rcases kind with ⟨b, small, rfl, rfl⟩ | ⟨_, foreign⟩
      · have valid : b.toNat.isValidChar := .inl (by omega)
        simp [Piece.shown, toNat_ofNat valid]
      · omega
    · exact List.mem_append_right front (ih later)

end Decoding

/-- What begins with an ASCII byte, or is empty, goes on with no character before it. -/
def Starts (s : Bytes) : Prop := ∀ b, s.head? = some b → b.toNat < 0x80

section Boundaries

variable {rest : Bytes}

theorem exists_follow_append (starts : Starts rest) (following : Nat) {low : Nat}
    (continuing : 0x80 ≤ low) (high value width : Nat) (s : Bytes) :
    ∃ piece, follow following low high value width (s ++ rest) =
        (piece, (follow following low high value width s).2) ∧
      piece.shown = (follow following low high value width s).1.shown := by
  induction following generalizing low high value width s with
  | zero => exact ⟨_, rfl, rfl⟩
  | succ following ih =>
    cases s with
    | nil =>
      cases rest with
      | nil => exact ⟨_, rfl, rfl⟩
      | cons b rest =>
        have ascii : b.toNat < 0x80 := starts b rfl
        refine ⟨.illFormed .invalidContinuation, ?_, rfl⟩
        have outside : ¬ low ≤ b.toNat := by omega
        simp [follow, outside]
    | cons b s =>
      rw [List.cons_append, follow, follow]
      split
      · exact ih (Nat.le_refl 0x80) _ _ _ s
      · exact ⟨_, rfl, rfl⟩

/-- A piece is read alike with and without what begins with an ASCII byte behind it. -/
theorem exists_read_append (starts : Starts rest) {s : Bytes} {piece : Piece} {width : Nat}
    (reads : read s = some (piece, width)) :
    ∃ other, read (s ++ rest) = some (other, width) ∧ other.shown = piece.shown := by
  cases s with
  | nil => cases reads
  | cons b s =>
    rw [List.cons_append]
    rw [read] at reads ⊢
    split at reads
    · next ascii =>
      rw [if_pos ascii]
      exact ⟨piece, reads, rfl⟩
    · next foreign =>
      rw [if_neg foreign]
      split at reads
      · exact ⟨piece, reads, rfl⟩
      · next lead promised =>
        obtain ⟨other, follows, same⟩ := exists_follow_append starts lead.following
          (Lead.isSound_of_lead? promised).low lead.high lead.bits 1 s
        have read := Option.some.inj reads
        rw [read] at follows same
        exact ⟨other, congrArg some follows, same⟩

/-- Reading begins anew at an ASCII byte, whatever stands before it. -/
theorem decode_append (starts : Starts rest) (s : Bytes) :
    decode (s ++ rest) = decode s ++ decode rest := by
  induction s using pieces_induction with
  | nil => rfl
  | more front behind piece nonempty reads kind ih =>
    obtain ⟨other, reads', same⟩ := exists_read_append starts reads
    rw [List.append_assoc] at reads' ⊢
    rw [decode_append_of_read nonempty reads', decode_append_of_read nonempty reads, ih, same]
    rfl

/-- An ASCII byte is read as its character between any bytes. -/
theorem decode_append_ascii (s : Bytes) {b : UInt8} (ascii : b.toNat < 0x80) (rest : Bytes) :
    decode (s ++ b :: rest) = decode s ++ Char.ofNat b.toNat :: decode rest := by
  have starts : Starts (b :: rest) := by
    intro first same
    exact Option.some.inj same ▸ ascii
  have reads : read ([b] ++ rest) = some (.character (Char.ofNat b.toNat), [b].length) := by
    simp [read, ascii]
  rw [decode_append starts]
  exact congrArg (decode s ++ ·) (decode_append_of_read (List.cons_ne_nil b []) reads)

end Boundaries

end Utf8

end TagOrigin.Encoding
