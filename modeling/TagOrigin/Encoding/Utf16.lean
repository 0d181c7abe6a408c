import TagOrigin.Encoding.Utf8

/-!
UTF-16 and UTF-32 in both byte orders. A lone surrogate, a value beyond the last code point and an
incomplete rest are each read as one replacement character.
-/
namespace TagOrigin.Encoding

inductive ByteOrder where
  | little
  | big
  deriving DecidableEq, Repr

/-- The number that bytes spell, the most significant byte first. -/
def bigEndian (bytes : Bytes) : Nat :=
  bytes.foldl (fun value b => value * 256 + b.toNat) 0

/-- The number that bytes spell in an order. -/
def ByteOrder.value (order : ByteOrder) (bytes : Bytes) : Nat :=
  match order with
  | .little => bigEndian bytes.reverse
  | .big => bigEndian bytes

/-- A number of `width` bytes, the most significant byte first. -/
def bigEndianBytes : Nat → Nat → Bytes
  | 0, _ => []
  | width + 1, n => bigEndianBytes width (n / 256) ++ [UInt8.ofNat n]

/-- A number of `width` bytes in an order. -/
def ByteOrder.bytes (order : ByteOrder) (width n : Nat) : Bytes :=
  match order with
  | .little => (bigEndianBytes width n).reverse
  | .big => bigEndianBytes width n

/-- The character of a code point, if it is a scalar value. -/
def scalar (n : Nat) : Char :=
  if n.isValidChar then Char.ofNat n else replacement

namespace Utf16

def isHighSurrogate (n : Nat) : Bool := 0xd800 ≤ n && n < 0xdc00

def isLowSurrogate (n : Nat) : Bool := 0xdc00 ≤ n && n < 0xe000

/-- Reads one character. A high surrogate with less than a unit behind it takes the whole rest. -/
def read (order : ByteOrder) : Bytes → Option (Char × Nat)
  | [] => none
  | [_] => some (replacement, 1)
  | a :: b :: rest =>
    let unit := order.value [a, b]
    if isHighSurrogate unit then
      match rest with
      | c :: d :: _ =>
        let second := order.value [c, d]
        if isLowSurrogate second then
          some (scalar (0x10000 + (unit - 0xd800) * 0x400 + (second - 0xdc00)), 4)
        else some (replacement, 2)
      | short => some (replacement, 2 + short.length)
    else some (scalar unit, 2)

def decode (order : ByteOrder) (bytes : Bytes) : Text :=
  Scan.matchesOf (read order) bytes

/-- Writes one character, as a pair of surrogates beyond the basic plane. -/
def encodeChar (order : ByteOrder) (c : Char) : Bytes :=
  if c.toNat < 0x10000 then order.bytes 2 c.toNat
  else
    let n := c.toNat - 0x10000
    order.bytes 2 (0xd800 + n / 0x400) ++ order.bytes 2 (0xdc00 + n % 0x400)

def encode (order : ByteOrder) (t : Text) : Bytes :=
  t.flatMap (encodeChar order)

end Utf16

namespace Utf32

/-- Reads one character of four bytes. -/
def read (order : ByteOrder) : Bytes → Option (Char × Nat)
  | [] => none
  | a :: b :: c :: d :: _ => some (scalar (order.value [a, b, c, d]), 4)
  | short => some (replacement, short.length)

def decode (order : ByteOrder) (bytes : Bytes) : Text :=
  Scan.matchesOf (read order) bytes

def encode (order : ByteOrder) (t : Text) : Bytes :=
  t.flatMap fun c => order.bytes 4 c.toNat

end Utf32

end TagOrigin.Encoding
