import Mathlib.Data.List.TakeWhile
import TagOrigin.Encoding.Names

/-!
What can be read under an encoding. Most encodings read every byte sequence. The two that are to tell
their byte order by a mark refuse bytes that have room for the mark and do not begin with it, one refuses
bytes beyond ASCII behind the last hyphen, two refuse everything, and so does a name that stands for a
conversion.
-/
namespace TagOrigin.Encoding

/-- The marks by which an encoding tells its byte order. -/
def marks : Encoding → List Bytes
  | .utf16 => [[0xff, 0xfe], [0xfe, 0xff]]
  | .utf32 => [[0xff, 0xfe, 0x00, 0x00], [0x00, 0x00, 0xfe, 0xff]]
  | _ => []

/-- The bits of a mark. -/
def markBits : Encoding → Nat
  | .utf16 => 16
  | .utf32 => 32
  | _ => 0

/-- An encoding needs a mark, and the bytes have room for it but begin with none. -/
structure LacksMark (encoding : Encoding) (bytes : Bytes) : Prop where
  needed : encoding.marks ≠ []
  room : encoding.markBits ≤ 8 * bytes.length
  absent : ∀ mark ∈ encoding.marks, ¬ mark <+: bytes

section Decoding

variable {encoding : Encoding}

theorem not_lacksMark_of_marks_eq_nil (unmarked : encoding.marks = []) (bytes : Bytes) :
    ¬ encoding.LacksMark bytes :=
  fun lacks => lacks.needed unmarked

/-- What is shorter than a mark has no place for one. -/
theorem not_lacksMark_of_short {bytes : Bytes} (short : 8 * bytes.length < encoding.markBits) :
    ¬ encoding.LacksMark bytes :=
  fun lacks => Nat.not_le_of_lt short lacks.room

theorem not_lacksMark_of_marked {mark bytes : Bytes} (known : mark ∈ encoding.marks)
    (marked : mark <+: bytes) : ¬ encoding.LacksMark bytes :=
  fun lacks => lacks.absent mark known marked

/-- Why bytes cannot be read under an encoding. -/
inductive Rejects (encoding : Encoding) (bytes : Bytes) : Fault → Prop where
  | unmarked : encoding.LacksMark bytes → Rejects encoding bytes (.unmarked encoding.markBits)
  | notAscii {before behind : Bytes} {byte : UInt8} : encoding = .punycode →
      behindHyphen bytes = before ++ byte :: behind → (∀ b ∈ before, isAsciiByte b = true) →
      isAsciiByte byte = false → Rejects encoding bytes (.notAscii byte before.length)
  | noReplacement : encoding = .hostNames → Rejects encoding bytes .noReplacement
  | undefined : encoding = .undefined → Rejects encoding bytes .undefined

/-- An encoding that reads every byte sequence. -/
structure IsTolerant (encoding : Encoding) : Prop where
  unmarked : encoding.marks = []
  foreign : encoding ≠ .punycode
  replaces : encoding ≠ .hostNames
  defined : encoding ≠ .undefined

theorem IsTolerant.not_rejects (tolerant : encoding.IsTolerant) (bytes : Bytes) (fault : Fault) :
    ¬ encoding.Rejects bytes fault := by
  rintro (lacks | ⟨same, -⟩ | same | same)
  · exact not_lacksMark_of_marks_eq_nil tolerant.unmarked bytes lacks
  · exact tolerant.foreign same
  · exact tolerant.replaces same
  · exact tolerant.defined same

/-- Of the encodings that need a mark, only the lack of one is a reason. -/
theorem not_rejects_of_marked {bytes : Bytes} (needed : encoding.marks ≠ [])
    (marked : ¬ encoding.LacksMark bytes) (fault : Fault) : ¬ encoding.Rejects bytes fault := by
  rintro (lacks | ⟨rfl, -⟩ | rfl | rfl)
  · exact marked lacks
  all_goals exact needed rfl

/-- Bytes are read or rejected. -/
theorem decode_cases [Charts] (encoding : Encoding) (bytes : Bytes) :
    (∃ t, encoding.decode bytes = .ok t ∧ ∀ fault, ¬ encoding.Rejects bytes fault) ∨
      ∃ fault, encoding.decode bytes = .error fault ∧ encoding.Rejects bytes fault := by
  fun_cases decode encoding bytes
  case case8 rest =>
    exact .inl ⟨_, rfl, not_rejects_of_marked nofun
      (not_lacksMark_of_marked (by decide) (List.prefix_append [0xff, 0xfe] rest))⟩
  case case9 rest =>
    exact .inl ⟨_, rfl, not_rejects_of_marked nofun
      (not_lacksMark_of_marked (by decide) (List.prefix_append [0xfe, 0xff] rest))⟩
  case case10 a b rest notLittle notBig =>
    refine .inr ⟨_, rfl, .unmarked ⟨nofun, ?_, ?_⟩⟩
    · simp only [markBits, List.length_cons]
      omega
    · simpa [marks, eq_comm] using ⟨notLittle, notBig⟩
  case case11 tooShort =>
    refine .inl ⟨_, rfl, not_rejects_of_marked nofun (not_lacksMark_of_short ?_)⟩
    match bytes, tooShort with
    | [], _ => decide
    | [_], _ => simp [markBits]
    | a :: b :: rest, tooShort => exact (tooShort a b rest rfl).elim
  case case12 rest =>
    exact .inl ⟨_, rfl, not_rejects_of_marked nofun
      (not_lacksMark_of_marked (by decide) (List.prefix_append [0xff, 0xfe, 0x00, 0x00] rest))⟩
  case case13 rest =>
    exact .inl ⟨_, rfl, not_rejects_of_marked nofun
      (not_lacksMark_of_marked (by decide) (List.prefix_append [0x00, 0x00, 0xfe, 0xff] rest))⟩
  case case14 a b c d rest notLittle notBig =>
    refine .inr ⟨_, rfl, .unmarked ⟨nofun, ?_, ?_⟩⟩
    · simp only [markBits, List.length_cons]
      omega
    · simpa [marks, eq_comm] using ⟨notLittle, notBig⟩
  case case15 tooShort =>
    refine .inl ⟨_, rfl, not_rejects_of_marked nofun (not_lacksMark_of_short ?_)⟩
    match bytes, tooShort with
    | [], _ => decide
    | [_], _ => simp [markBits]
    | [_, _], _ => simp [markBits]
    | [_, _, _], _ => simp [markBits]
    | a :: b :: c :: d :: rest, tooShort => exact (tooShort a b c d rest rfl).elim
  case case18 ascii =>
    refine .inl ⟨_, rfl, ?_⟩
    rintro fault (lacks | ⟨-, split, -, foreign⟩ | same | same)
    · exact not_lacksMark_of_marks_eq_nil rfl bytes lacks
    · have inside := List.dropWhile_eq_nil_iff.1 ascii _ (split ▸ List.mem_append_right _ List.mem_cons_self)
      rw [foreign] at inside
      cases inside
    · cases same
    · cases same
  case case19 byte rest foreign =>
    have split : behindHyphen bytes =
        (behindHyphen bytes).takeWhile isAsciiByte ++ byte :: rest := by
      rw [← foreign, List.takeWhile_append_dropWhile]
    have stops := List.head?_dropWhile_not isAsciiByte (behindHyphen bytes)
    rw [foreign] at stops
    exact .inr ⟨_, rfl, .notAscii rfl split (fun b => List.all_eq_true.1 List.all_takeWhile b)
      (by simpa using stops)⟩
  case case20 => exact .inr ⟨_, rfl, .noReplacement rfl⟩
  case case21 => exact .inr ⟨_, rfl, .undefined rfl⟩
  -- the other encodings read everything
  all_goals
    refine .inl ⟨_, rfl, IsTolerant.not_rejects ?_ bytes⟩
    exact ⟨rfl, nofun, nofun, nofun⟩

end Decoding

/-- Reads bytes under the name of an encoding. -/
def readNamed [Charts] (name : Text) (bytes : Bytes) : Except Fault Text :=
  match forReading name with
  | .ok encoding => encoding.decode bytes
  | .error fault => .error fault

/-- Why bytes cannot be read under a name that is known. -/
inductive Refuses (name : Text) (bytes : Bytes) : Fault → Prop where
  | conversion : find? name = some .conversion → Refuses name bytes (.notText name)
  | text {encoding : Encoding} {fault : Fault} : find? name = some (.text encoding) →
      encoding.Rejects bytes fault → Refuses name bytes fault

theorem IsTolerant.not_refuses {name : Text} {encoding : Encoding} (tolerant : encoding.IsTolerant)
    (known : find? name = some (.text encoding)) (bytes : Bytes) (fault : Fault) :
    ¬ Refuses name bytes fault := by
  rintro (conversion | ⟨other, rejects⟩)
  · cases known.symm.trans conversion
  · cases known.symm.trans other
    exact tolerant.not_rejects bytes fault rejects

/-- Under a known name bytes are read or refused. -/
theorem readNamed_cases [Charts] {name : Text} {codec : Codec} (known : find? name = some codec)
    (bytes : Bytes) :
    (∃ t, readNamed name bytes = .ok t ∧ ∀ fault, ¬ Refuses name bytes fault) ∨
      ∃ fault, readNamed name bytes = .error fault ∧ Refuses name bytes fault := by
  cases codec with
  | conversion =>
    have unfit : forReading name = .error (.notText name) := by rw [forReading, known]
    exact .inr ⟨.notText name, by rw [readNamed, unfit], .conversion known⟩
  | text encoding =>
    have found : forReading name = .ok encoding := by rw [forReading, known]
    rw [readNamed, found]
    rcases encoding.decode_cases bytes with ⟨t, read, accepted⟩ | ⟨fault, refused, rejects⟩
    · refine .inl ⟨t, read, ?_⟩
      rintro fault (conversion | ⟨other, rejects⟩)
      · cases known.symm.trans conversion
      · cases known.symm.trans other
        exact accepted fault rejects
    · exact .inr ⟨fault, refused, .text known rejects⟩

end TagOrigin.Encoding
