import TagOrigin.Encoding.SingleByte
import TagOrigin.Encoding.Utf16

/-!
Encodings. Under most of them every byte sequence is read, with replacements for what is no character.
Two need a byte order mark, one wants ASCII at the end, and two refuse to replace anything.
-/
namespace TagOrigin

namespace Encoding

/-- Encodings whose characters are not spelled out here: those with thousands of characters of their own,
and those that write characters by their numbers or names. -/
inductive Chart where
  | big5
  | big5hkscs
  | cp932
  | cp949
  | cp950
  | eucJis2004
  | eucJisx0213
  | eucJp
  | eucKr
  | gb18030
  | gb2312
  | gbk
  | hz
  | iso2022Jp
  | iso2022Jp1
  | iso2022Jp2
  | iso2022Jp2004
  | iso2022Jp3
  | iso2022JpExt
  | iso2022Kr
  | johab
  | shiftJis
  | shiftJis2004
  | shiftJisx0213
  | utf7
  | unicodeEscape
  | rawUnicodeEscape
  | punycode
  deriving DecidableEq, Repr

/-- How byte sequences are read under these encodings. What is no character is replaced, so each of them is
read as some text. Texts have no surrogates here either. -/
class Charts where
  read : Chart → Bytes → Text

/-- Charts that know no more than ASCII, for programs that bring none of their own. -/
instance (priority := low) Charts.asciiOnly : Charts where
  read _ bytes := bytes.map asciiChar

end Encoding

/-- The encodings in which texts are read. -/
inductive Encoding where
  | utf8
  /-- UTF-8 with an optional byte order mark, which is dropped. -/
  | utf8Marked
  | latin1
  | ascii
  | windows1252
  /-- UTF-16 whose order is told by its byte order mark, which is dropped. -/
  | utf16
  | utf16Ordered (order : Encoding.ByteOrder)
  | utf32
  | utf32Ordered (order : Encoding.ByteOrder)
  | codePage (page : Encoding.Page)
  | charted (chart : Encoding.Chart)
  /-- ASCII, with further characters as letters and digits behind the last hyphen. -/
  | punycode
  /-- Names of hosts, of which nothing can be replaced. -/
  | hostNames
  /-- The encoding that refuses everything. -/
  | undefined
  deriving DecidableEq, Repr

namespace Encoding

/-- Why a text cannot be read under an encoding. -/
inductive Fault where
  | unknown (name : Text)
  | notText (name : Text)
  /-- No byte order mark although whole units of `bits` bits follow. -/
  | unmarked (bits : Nat)
  /-- A byte beyond ASCII where replacing is not possible. -/
  | notAscii (byte : UInt8) (position : Nat)
  /-- What is no character would have to be replaced. -/
  | noReplacement
  | undefined
  deriving DecidableEq, Repr

def Fault.message : Fault → Text
  | .unknown name => "unknown encoding: ".toList ++ name
  | .notText name =>
    ['\''] ++ name ++
      "' is not a text encoding; use codecs.open() to handle arbitrary codecs".toList
  | .unmarked bits =>
    "UTF-".toList ++ Text.ofNat bits ++ " stream does not start with BOM".toList
  | .notAscii byte position =>
    "'ascii' codec can't decode byte 0x".toList ++ Nat.toDigits 16 byte.toNat ++
      " in position ".toList ++ Text.ofNat position ++ ": ordinal not in range(128)".toList
  | .noReplacement => "Unsupported error handling replace".toList
  | .undefined => "undefined encoding".toList

/-- The byte order mark in UTF-8. -/
def utf8Mark : Bytes := [0xef, 0xbb, 0xbf]

/-- Drops one mark at the front. An incomplete mark alone is nothing at all. -/
def dropUtf8Mark (bytes : Bytes) : Bytes :=
  if bytes.length < 3 && bytes.isPrefixOf utf8Mark then []
  else if utf8Mark.isPrefixOf bytes then bytes.drop 3
  else bytes

/-- The hyphen that sets off the further characters. -/
def hyphen : UInt8 := 0x2d

/-- The bytes behind the last hyphen, or all of them. -/
def behindHyphen (bytes : Bytes) : Bytes :=
  (bytes.reverse.takeWhile (· ≠ hyphen)).reverse

/-- Whether a byte is a character of ASCII. -/
def isAsciiByte (b : UInt8) : Bool :=
  b.toNat < 0x80

/-- Reads a byte sequence. -/
def decode [Charts] (encoding : Encoding) (bytes : Bytes) : Except Fault Text :=
  match encoding with
  | .utf8 => .ok (Utf8.decode bytes)
  | .utf8Marked => .ok (Utf8.decode (dropUtf8Mark bytes))
  | .latin1 => .ok (bytes.map latin1Char)
  | .ascii => .ok (bytes.map asciiChar)
  | .windows1252 => .ok (bytes.map windowsChar)
  | .utf16Ordered order => .ok (Utf16.decode order bytes)
  | .utf32Ordered order => .ok (Utf32.decode order bytes)
  | .utf16 =>
    match bytes with
    | 0xff :: 0xfe :: rest => .ok (Utf16.decode .little rest)
    | 0xfe :: 0xff :: rest => .ok (Utf16.decode .big rest)
    | _ :: _ :: _ => .error (.unmarked 16)
    | short => .ok (Utf16.decode .little short)
  | .utf32 =>
    match bytes with
    | 0xff :: 0xfe :: 0x00 :: 0x00 :: rest => .ok (Utf32.decode .little rest)
    | 0x00 :: 0x00 :: 0xfe :: 0xff :: rest => .ok (Utf32.decode .big rest)
    | _ :: _ :: _ :: _ :: _ => .error (.unmarked 32)
    | short => .ok (Utf32.decode .little short)
  | .codePage page => .ok (bytes.map page.char)
  | .charted chart => .ok (Charts.read chart bytes)
  | .punycode =>
    match (behindHyphen bytes).dropWhile isAsciiByte with
    | [] => .ok (Charts.read .punycode bytes)
    | byte :: _ => .error (.notAscii byte ((behindHyphen bytes).takeWhile isAsciiByte).length)
  | .hostNames => .error .noReplacement
  | .undefined => .error .undefined

/-- Every line end becomes a line feed: the pair of carriage return and line feed as well as a
carriage return alone. -/
def normaliseLineEnds : Text → Text
  | [] => []
  | '\r' :: '\n' :: rest => '\n' :: normaliseLineEnds rest
  | c :: rest => (if c = '\r' then '\n' else c) :: normaliseLineEnds rest

end Encoding

end TagOrigin
