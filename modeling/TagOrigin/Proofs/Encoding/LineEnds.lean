import TagOrigin.Proofs.Encoding.Utf8

/-!
Line ends. Making every line end a line feed is replacing pairs first and carriage returns then. Pieces
that hold no line end are joined by any of the three conventions to texts that become equal, and reading
UTF-8 keeps the pieces apart: a sequence that a line end cuts off does not reach over it.
-/
namespace TagOrigin.Encoding

section Normalising

theorem normaliseLineEnds_cons_of_ne {c : Char} (other : c ≠ '\r') (t : Text) :
    normaliseLineEnds (c :: t) = c :: normaliseLineEnds t := by
  rw [normaliseLineEnds, if_neg other]
  intro rest same
  exact absurd same other

theorem normaliseLineEnds_return {t : Text} (alone : t.head? ≠ some '\n') :
    normaliseLineEnds ('\r' :: t) = '\n' :: normaliseLineEnds t := by
  rw [normaliseLineEnds, if_pos rfl]
  rintro rest - rfl
  exact alone rfl

theorem normaliseLineEnds_pair (t : Text) :
    normaliseLineEnds ('\r' :: '\n' :: t) = '\n' :: normaliseLineEnds t := rfl

theorem normaliseLineEnds_append {u : Text} (clean : '\r' ∉ u) (t : Text) :
    normaliseLineEnds (u ++ t) = u ++ normaliseLineEnds t := by
  induction u with
  | nil => rfl
  | cons c u ih =>
    simp only [List.mem_cons, not_or] at clean
    rw [List.cons_append, normaliseLineEnds_cons_of_ne (Ne.symm clean.1), ih clean.2,
      List.cons_append]

theorem normaliseLineEnds_eq_self {t : Text} (clean : '\r' ∉ t) : normaliseLineEnds t = t := by
  simpa [normaliseLineEnds] using normaliseLineEnds_append clean []

/-- The pairs are replaced first, then the carriage returns that are left. -/
theorem normaliseLineEnds_eq_replace (t : Text) :
    normaliseLineEnds t = Scan.replace ['\r'] ['\n'] (Scan.replace ['\r', '\n'] ['\n'] t) := by
  rw [Scan.replace_singleton]
  fun_induction normaliseLineEnds t with
  | case1 => rfl
  | case2 rest ih =>
    have pair : Scan.replace ['\r', '\n'] ['\n'] ('\r' :: '\n' :: rest) =
        ['\n'] ++ Scan.replace ['\r', '\n'] ['\n'] rest :=
      Scan.replace_append (List.cons_ne_nil '\r' ['\n']) rest
    rw [pair, List.flatMap_append, ih]
    rfl
  | case3 c rest noPair ih =>
    have absent : Text.after? ['\r', '\n'] (c :: rest) = none := by
      by_contra found
      obtain ⟨behind, occurs⟩ := Option.ne_none_iff_exists'.1 found
      have whole := Text.after?_eq_some_iff.1 occurs
      simp only [List.cons_append, List.nil_append, List.cons.injEq] at whole
      exact noPair behind whole.1 whole.2
    rw [Scan.replace_cons_of_none absent, List.flatMap_cons, ih]
    split <;> rfl

end Normalising

/-- The conventions for ending a line. -/
inductive LineEnd where
  | lineFeed
  | pair
  | carriageReturn
  deriving DecidableEq, Repr

namespace LineEnd

def bytes : LineEnd → Bytes
  | .lineFeed => [0x0a]
  | .pair => [0x0d, 0x0a]
  | .carriageReturn => [0x0d]

def text : LineEnd → Text
  | .lineFeed => ['\n']
  | .pair => ['\r', '\n']
  | .carriageReturn => ['\r']

/-- A line end is read as such between any bytes. -/
theorem decode_append (ending : LineEnd) (s rest : Bytes) :
    Utf8.decode (s ++ ending.bytes ++ rest) = Utf8.decode s ++ ending.text ++ Utf8.decode rest := by
  cases ending with
  | lineFeed =>
    have fed := Utf8.decode_append_ascii s (b := 0x0a) (by decide) rest
    simpa [bytes, text] using fed
  | carriageReturn =>
    have returned := Utf8.decode_append_ascii s (b := 0x0d) (by decide) rest
    simpa [bytes, text] using returned
  | pair =>
    have returned := Utf8.decode_append_ascii s (b := 0x0d) (by decide) (0x0a :: rest)
    have fed := Utf8.decode_append_ascii [] (b := 0x0a) (by decide) rest
    simp only [List.nil_append] at fed
    rw [fed] at returned
    simpa [bytes, text] using returned

/-- Joined bytes are read piece by piece. -/
theorem decode_join (ending : LineEnd) (segments : List Bytes) :
    Utf8.decode (ending.bytes.intercalate segments) =
      Text.join ending.text (segments.map Utf8.decode) := by
  rw [Text.join]
  induction segments with
  | nil => rfl
  | cons segment segments ih =>
    cases segments with
    | nil => simp
    | cons next segments =>
      simp only [List.map_cons, List.intercalate_cons_cons] at ih ⊢
      rw [decode_append, ih]

/-- What is joined by carriage returns does not begin with a line feed. -/
theorem head?_join_carriageReturn {piece : Text} (pieces : List Text) (clean : '\n' ∉ piece) :
    (Text.join ['\r'] (piece :: pieces)).head? ≠ some '\n' := by
  intro feed
  cases piece with
  | nil =>
    cases pieces with
    | nil => simp [Text.join] at feed
    | cons next pieces => simp [Text.join, List.intercalate_cons_cons] at feed
  | cons c piece =>
    cases pieces with
    | nil => simp_all [Text.join]
    | cons next pieces => simp_all [Text.join, List.intercalate_cons_cons]

/-- A line end becomes a line feed before every text that is not taken for its second half. -/
theorem normaliseLineEnds_text_append (ending : LineEnd) {t : Text}
    (alone : ending = .carriageReturn → t.head? ≠ some '\n') :
    normaliseLineEnds (ending.text ++ t) = '\n' :: normaliseLineEnds t := by
  cases ending with
  | lineFeed => exact normaliseLineEnds_cons_of_ne (by decide) t
  | pair => exact normaliseLineEnds_pair t
  | carriageReturn => exact normaliseLineEnds_return (alone rfl)

/-- Pieces without line ends are joined by line feeds in the end, whatever they were joined by. -/
theorem normaliseLineEnds_join (ending : LineEnd) {pieces : List Text}
    (clean : ∀ piece ∈ pieces, '\n' ∉ piece ∧ '\r' ∉ piece) :
    normaliseLineEnds (Text.join ending.text pieces) = Text.join ['\n'] pieces := by
  induction pieces with
  | nil => rfl
  | cons piece pieces ih =>
    obtain ⟨here, later⟩ := List.forall_mem_cons.1 clean
    cases pieces with
    | nil => simpa [Text.join] using normaliseLineEnds_eq_self here.2
    | cons next pieces =>
      have alone : ending = .carriageReturn →
          (Text.join ending.text (next :: pieces)).head? ≠ some '\n' := by
        rintro rfl
        exact head?_join_carriageReturn pieces (List.forall_mem_cons.1 later).1.1
      have joined (sep : Text) : Text.join sep (piece :: next :: pieces) =
          piece ++ (sep ++ Text.join sep (next :: pieces)) := by
        rw [Text.join, List.intercalate_cons_cons, List.append_assoc]
        rfl
      rw [joined, joined, normaliseLineEnds_append here.2, normaliseLineEnds_text_append ending alone,
        ih later]
      rfl

end LineEnd

end TagOrigin.Encoding
