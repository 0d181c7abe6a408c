import TagOrigin.Text.Scan

/-!
UTF-8. A byte sequence is cut from left to right into well-formed sequences of one character and
ill-formed ones, where an ill-formed one is as long as it could still have become a character. The
lenient reader shows a replacement character for each ill-formed sequence, the strict reader fails
at the first.
-/
namespace TagOrigin.Encoding

abbrev Bytes := List UInt8

/-- Stands for what could not be read. -/
def replacement : Char := Char.ofNat 0xfffd

namespace Utf8

/-- Why a sequence is ill-formed. -/
inductive Reason where
  | invalidStart
  | invalidContinuation
  | unexpectedEnd
  deriving DecidableEq, Repr

/-- A piece of a byte sequence. -/
inductive Piece where
  | character (c : Char)
  | illFormed (reason : Reason)
  deriving DecidableEq, Repr

/-- What a first byte of several promises: its bits of the code point, how many bytes follow, and
the bounds of the first of them. The bounds exclude overlong forms, surrogates and values beyond
the last code point. -/
structure Lead where
  bits : Nat
  following : Nat
  low : Nat
  high : Nat
  deriving DecidableEq, Repr

/-- The promise of a first byte. -/
def lead? (b : Nat) : Option Lead :=
  if b < 0xc2 then none
  else if b < 0xe0 then some ⟨b - 0xc0, 1, 0x80, 0xbf⟩
  else if b = 0xe0 then some ⟨0, 2, 0xa0, 0xbf⟩
  else if b = 0xed then some ⟨b - 0xe0, 2, 0x80, 0x9f⟩
  else if b < 0xf0 then some ⟨b - 0xe0, 2, 0x80, 0xbf⟩
  else if b = 0xf0 then some ⟨0, 3, 0x90, 0xbf⟩
  else if b < 0xf4 then some ⟨b - 0xf0, 3, 0x80, 0xbf⟩
  else if b = 0xf4 then some ⟨b - 0xf0, 3, 0x80, 0x8f⟩
  else none

/-- Reads the bytes that still have to follow, the next one between `low` and `high`. `value` holds
the bits read so far and `width` counts the bytes. -/
def follow : (following low high value width : Nat) → Bytes → Piece × Nat
  | 0, _, _, value, width, _ => (.character (Char.ofNat value), width)
  | _ + 1, _, _, _, width, [] => (.illFormed .unexpectedEnd, width)
  | following + 1, low, high, value, width, b :: rest =>
    if low ≤ b.toNat && b.toNat ≤ high then
      follow following 0x80 0xbf (value * 64 + (b.toNat - 0x80)) (width + 1) rest
    else (.illFormed .invalidContinuation, width)

/-- Reads the piece at the front, with its width. -/
def read : Bytes → Option (Piece × Nat)
  | [] => none
  | b :: rest =>
    if b.toNat < 0x80 then some (.character (Char.ofNat b.toNat), 1)
    else
      match lead? b.toNat with
      | none => some (.illFormed .invalidStart, 1)
      | some lead => some (follow lead.following lead.low lead.high lead.bits 1 rest)

/-- The pieces of a byte sequence, each with its width. -/
def pieces (bytes : Bytes) : List (Piece × Nat) :=
  Scan.matchesOf (fun s => (read s).map fun (piece, width) => ((piece, width), width)) bytes

/-- Reads every byte sequence, with one replacement per ill-formed piece. -/
def decode (bytes : Bytes) : Text :=
  (pieces bytes).map fun
    | (.character c, _) => c
    | (.illFormed _, _) => replacement

/-- The first ill-formed piece of a byte sequence. -/
structure Fault where
  position : Nat
  bytes : Bytes
  reason : Reason
  deriving DecidableEq, Repr

def Reason.message : Reason → Text
  | .invalidStart => "invalid start byte".toList
  | .invalidContinuation => "invalid continuation byte".toList
  | .unexpectedEnd => "unexpected end of data".toList

/-- A single byte is shown, of several only the positions are. -/
def Fault.message (fault : Fault) : Text :=
  let place := match fault.bytes with
    | [b] =>
      let digits := Nat.toDigits 16 b.toNat
      "byte 0x".toList ++ List.replicate (2 - digits.length) '0' ++ digits ++
        " in position ".toList ++ Text.ofNat fault.position
    | bytes =>
      "bytes in position ".toList ++ Text.ofNat fault.position ++ "-".toList ++
        Text.ofNat (fault.position + bytes.length - 1)
  "'utf-8' codec can't decode ".toList ++ place ++ ": ".toList ++ fault.reason.message

/-- The characters of pieces that begin at `position` of `bytes`, or the first ill-formed one. -/
def strict (bytes : Bytes) : Nat → List (Piece × Nat) → Except Fault Text
  | _, [] => .ok []
  | position, (.character c, width) :: rest =>
    (strict bytes (position + width) rest).map (c :: ·)
  | position, (.illFormed reason, width) :: _ =>
    .error { position, bytes := (bytes.drop position).take width, reason }

/-- Reads a byte sequence that is well-formed as a whole. -/
def decodeStrict (bytes : Bytes) : Except Fault Text :=
  strict bytes 0 (pieces bytes)

/-- Writes a text. -/
def encode (t : Text) : Bytes :=
  t.flatMap String.utf8EncodeChar

end Utf8

end TagOrigin.Encoding
