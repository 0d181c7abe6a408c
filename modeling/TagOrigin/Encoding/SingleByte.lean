import TagOrigin.Encoding.Utf8

/-!
Encodings with one byte per character. A byte without a character is read as a replacement.
-/
namespace TagOrigin.Encoding

/-- The first 256 code points. -/
def latin1Char (b : UInt8) : Char :=
  Char.ofNat b.toNat

/-- The byte of one of the first 256 code points. -/
def latin1Byte (c : Char) : UInt8 :=
  UInt8.ofNat c.toNat

/-- Only the lower half has characters. -/
def asciiChar (b : UInt8) : Char :=
  if b.toNat < 0x80 then Char.ofNat b.toNat else replacement

/-- The characters that the Windows code page 1252 has from byte 80 to byte 9F; five are unused. -/
def windowsRow : List Nat := [
  0x20ac, 0xfffd, 0x201a, 0x0192, 0x201e, 0x2026, 0x2020, 0x2021,
  0x02c6, 0x2030, 0x0160, 0x2039, 0x0152, 0xfffd, 0x017d, 0xfffd,
  0xfffd, 0x2018, 0x2019, 0x201c, 0x201d, 0x2022, 0x2013, 0x2014,
  0x02dc, 0x2122, 0x0161, 0x203a, 0x0153, 0xfffd, 0x017e, 0x0178]

/-- Code page 1252: the first 256 code points but for one row. -/
def windowsChar (b : UInt8) : Char :=
  if 0x80 ≤ b.toNat && b.toNat < 0xa0 then
    Char.ofNat (windowsRow.getD (b.toNat - 0x80) 0xfffd)
  else Char.ofNat b.toNat

/-- A code page: the characters of the lower and of the upper half of all bytes. -/
structure Page where
  lower : Text
  upper : Text
  deriving DecidableEq, Repr

/-- A page whose lower half is ASCII. -/
def Page.ofUpper (upper : Text) : Page :=
  { lower := (List.range 0x80).map Char.ofNat, upper }

/-- The character of a byte. -/
def Page.char (page : Page) (b : UInt8) : Char :=
  if b.toNat < 0x80 then page.lower.getD b.toNat replacement
  else page.upper.getD (b.toNat - 0x80) replacement

end TagOrigin.Encoding
