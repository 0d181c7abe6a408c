import TagOrigin.Display.Argument.Fault

/-!
Words of the arguments of an action. A text is divided into numbers, quoted texts, words, signs and
brackets; white space and comments only part them. A text that ends too early has a last token that
says so.
-/
namespace TagOrigin.Display.Argument

/-- What arguments are made of. -/
inductive Token where
  | number (isImaginary : Bool)
  /-- A quoted text, or a template in which values are filled in. -/
  | text (isTemplate : Bool)
  | bytes (isAscii : Bool)
  | word (w : Text)
  | sign (s : Text)
  | opening (c : Char)
  | closing (c : Char)
  | lineEnd
  /-- White space at the front of a further line. -/
  | indent
  /-- The end of a text that is not complete. -/
  | stop (fault : Fault)
  deriving DecidableEq, Repr

/-- Ranges of punctuation and symbols beyond ASCII. Other characters beyond ASCII count as letters. -/
def symbolRanges : List (Nat × Nat) :=
  [(0x80, 0xa9), (0xab, 0xb4), (0xb6, 0xb6), (0xb8, 0xb9), (0xbb, 0xbf), (0xd7, 0xd7), (0xf7, 0xf7),
    (0x2000, 0x203e), (0x2041, 0x2053), (0x2055, 0x2070), (0x207a, 0x207e), (0x208a, 0x208e),
    (0x20a0, 0x20cf), (0x2190, 0x245f), (0x249c, 0x24b5), (0x2500, 0x2bff), (0x3000, 0x3004),
    (0x3008, 0x3020), (0xe000, 0xf8ff), (0xfeff, 0xfeff), (0xff01, 0xff0f), (0xff1a, 0xff20),
    (0xff3b, 0xff3e), (0xff40, 0xff40), (0xff5b, 0xff65), (0x1f000, 0x1faff)]

def isSymbol (c : Char) : Bool :=
  Text.inRanges symbolRanges c.toNat

/-- Characters of words. -/
def isWordChar (c : Char) : Bool :=
  c.isAlphanum || c == '_' || 0x80 ≤ c.toNat

/-- Whether a word may stand right behind a number. Three of these need not even end there. -/
def followsNumber (word : Text) : Bool :=
  (["and", "else", "for", "or", "not"].map String.toList).contains word ||
    (["if", "in", "is"].map String.toList).any (·.isPrefixOf word)

/-- Digits in groups that single underscores part. Gives what follows; `none` if an underscore stands
without a digit behind it. -/
def skipDigits (isDigit : Char → Bool) (t : Text) : Option Text :=
  let run := t.takeWhile fun c => isDigit c || c == '_'
  let broken := run.getLast? = some '_' || (run.zip run.tail).contains ('_', '_')
  if broken then none else some (t.drop run.length)

/-- Checks that no ASCII word begins right behind a number, save one that is an operator. -/
def checkNumberEnd (kind : Text) (t : Text) : Except Fault Text :=
  match t with
  | [] => .ok []
  | c :: _ =>
    if !isWordChar c || 0x80 ≤ c.toNat || followsNumber (t.takeWhile isWordChar) then .ok t
    else .error (.malformedNumber kind)

/-- Skips a number with a base, behind its two first characters. -/
def skipBased (kind : Text) (isDigit : Char → Bool) (t : Text) : Except Fault Text :=
  let body := if t.head? = some '_' then t.drop 1 else t
  match body with
  | c :: _ =>
    if !isDigit c then
      if c.isDigit then .error (.wrongDigit c kind) else .error (.malformedNumber kind)
    else
      match skipDigits isDigit body with
      | none => .error (.malformedNumber kind)
      | some (d :: rest) =>
        if d.isDigit then .error (.wrongDigit d kind) else checkNumberEnd kind (d :: rest)
      | some [] => .ok []
  | [] => .error (.malformedNumber kind)

/-- Skips the exponent of a decimal number, if there is one. -/
def skipExponent (t : Text) : Option Text :=
  match t with
  | e :: rest =>
    if e = 'e' || e = 'E' then
      let digits := match rest with
        | s :: more => if s = '+' || s = '-' then more else rest
        | [] => []
      if (digits.head?.any Char.isDigit) then skipDigits Char.isDigit digits else some t
    else some t
  | [] => some []

/-- Skips the fraction and the exponent of a decimal number, and the mark of an imaginary one. -/
def skipDecimalTail (t : Text) : Except Fault Text :=
  let fraction := match t with
    | '.' :: rest =>
      if rest.head?.any Char.isDigit then skipDigits Char.isDigit rest else some rest
    | _ => some t
  match fraction.bind skipExponent with
  | none => .error (.malformedNumber "decimal".toList)
  | some (c :: rest) =>
    if c = 'j' || c = 'J' then checkNumberEnd "imaginary".toList rest
    else checkNumberEnd "decimal".toList (c :: rest)
  | some [] => .ok []

/-- Whether a whole number with a leading zero may stand before a text: it is zero, or it has a fraction
or an exponent. -/
def allowsZeros (digits behind : Text) : Bool :=
  digits.all (fun c => c == '0' || c == '_') ||
    behind.head?.any fun c => c == '.' || c == 'e' || c == 'E' || c == 'j' || c == 'J'

/-- Skips the number at the front of a text. -/
def skipNumber (t : Text) : Except Fault Text :=
  match t with
  | '0' :: c :: rest =>
    if c = 'x' || c = 'X' then
      skipBased "hexadecimal".toList
        (fun d => d.isDigit || ('a' ≤ d && d ≤ 'f') || ('A' ≤ d && d ≤ 'F')) rest
    else if c = 'o' || c = 'O' then skipBased "octal".toList (fun d => '0' ≤ d && d ≤ '7') rest
    else if c = 'b' || c = 'B' then skipBased "binary".toList (fun d => d == '0' || d == '1') rest
    else
      match skipDigits Char.isDigit t with
      | none => .error (.malformedNumber "decimal".toList)
      | some behind =>
        if allowsZeros (t.take (t.length - behind.length)) behind then skipDecimalTail behind
        else .error .leadingZeros
  | '.' :: _ => skipDecimalTail t
  | _ =>
    match skipDigits Char.isDigit t with
    | none => .error (.malformedNumber "decimal".toList)
    | some behind => skipDecimalTail behind

/-- Skips a quoted text on one line, behind its quote. -/
def skipShort (quote : Char) : Text → Option Text
  | [] => none
  | '\\' :: _ :: rest => skipShort quote rest
  | c :: rest => if c = quote then some rest else if c = '\n' then none else skipShort quote rest

/-- Skips a quoted text over lines, behind its three quotes. -/
def skipLong (quote : Char) : Text → Option Text
  | [] => none
  | '\\' :: _ :: rest => skipLong quote rest
  | c :: rest =>
    if c = quote && [quote, quote].isPrefixOf rest then some (rest.drop 2) else skipLong quote rest

/-- The number of lines that begin in a text. -/
def lineEnds (t : Text) : Nat := t.count '\n'

/-- Skips a quoted text at the front of a text. `line` is the number of its first line. -/
def skipQuoted (line : Nat) (quote : Char) (rest : Text) : Except Fault Text :=
  if [quote, quote].isPrefixOf rest then
    match skipLong quote (rest.drop 2) with
    | some behind => .ok behind
    | none => .error (.unterminated true (line + lineEnds rest))
  else
    match skipShort quote rest with
    | some behind => .ok behind
    | none => .error (.unterminated false line)

/-- The words that may stand before a quote, in small letters. -/
def quoteMarks : List Text :=
  ["r", "b", "u", "f", "br", "rb", "fr", "rf"].map String.toList

/-- The signs of more than one character, the longer ones first. -/
def longSigns : List Text :=
  ["**=", "//=", ">>=", "<<=", "...", "**", "//", ">>", "<<", "<=", ">=", "==", "!=", "->", "+=",
    "-=", "*=", "/=", "%=", "&=", "|=", "^=", "@=", ":="].map String.toList

def isQuote (c : Char) : Bool := c == '"' || c == '\''

/-- Reads the token at the front of a text, apart from white space, brackets and line ends. -/
def readToken (line : Nat) (c : Char) (rest : Text) : Except Fault (Token × Text) :=
  if c.isDigit || (c = '.' && rest.head?.any Char.isDigit) then
    (skipNumber (c :: rest)).map fun behind =>
      let last := (c :: rest)[rest.length - behind.length]?
      (.number (last = some 'j' || last = some 'J'), behind)
  else if isQuote c then (skipQuoted line c rest).map fun behind => (.text false, behind)
  else if isWordChar c then
    let word := (c :: rest).takeWhile isWordChar
    let behind := (c :: rest).drop word.length
    let mark := word.map Char.toLower
    match behind with
    | q :: more =>
      if isQuote q && quoteMarks.contains mark then
        (skipQuoted line q more).map fun behind =>
          let held := more.take (more.length - behind.length)
          (if mark.contains 'b' then .bytes (held.all (·.toNat < 0x80)) else .text (mark.contains 'f'),
            behind)
      else
        match word.find? isSymbol with
        | some c => .error (.strayCharacter c)
        | none => .ok (.word word, behind)
    | [] =>
      match word.find? isSymbol with
      | some c => .error (.strayCharacter c)
      | none => .ok (.word word, [])
  else if c.toNat < 0x20 || c.toNat = 0x7f then .error (.strayCharacter c)
  else
    match longSigns.find? (·.isPrefixOf (c :: rest)) with
    | some sign => .ok (.sign sign, (c :: rest).drop sign.length)
    | none => .ok (.sign [c], rest)

/-- The bracket that closes another. -/
def partner (c : Char) : Char :=
  if c = '(' then ')' else if c = '\x7b' then '\x7d' else ']'

/-- Divides arguments into tokens. `brackets` are the open ones with their lines, `line` is the number of
the present line, and `fresh` says whether no token stands on it yet. -/
def tokens (brackets : List (Char × Nat)) (line : Nat) (fresh : Bool) (fuel : Nat) (t : Text) :
    Except Fault (List Token) :=
  match fuel, t with
  | 0, _ => .ok []
  | _, [] =>
    match brackets with
    | [] => .ok []
    | (b, _) :: _ => .ok [.stop (.unclosed b)]
  | fuel + 1, c :: rest =>
    if c = ' ' || c = '\t' || c = Char.ofNat 0x0c then
      let behind := rest.dropWhile fun c => c == ' ' || c == '\t'
      let counts := fresh && 1 < line && brackets = [] &&
        !(behind.head?.any fun c => c == '#' || c == '\n') && behind ≠ []
      let mark := if counts then [Token.indent] else []
      (tokens brackets line fresh fuel behind).map (mark ++ ·)
    else if c = '\n' then
      let mark := if fresh || brackets ≠ [] then [] else [Token.lineEnd]
      (tokens brackets (line + 1) true fuel rest).map (mark ++ ·)
    else if c = '#' then tokens brackets line fresh fuel (rest.dropWhile (· ≠ '\n'))
    else if c = '\\' then
      match rest with
      | '\n' :: [] =>
        match brackets with
        | [] => .ok [.stop .unexpectedEnd]
        | (b, _) :: _ => .ok [.stop (.unclosed b)]
      | '\n' :: rest => tokens brackets (line + 1) false fuel rest
      | _ => .ok [.stop .continuation]
    else if c = '(' || c = '\x7b' || c = '[' then
      (tokens ((c, line) :: brackets) line false fuel rest).map (.opening c :: ·)
    else if c = ')' || c = '\x7d' || c = ']' then
      match brackets with
      | [] => .error (.unmatched c)
      | (b, opened) :: outer =>
        if partner b = c then (tokens outer line false fuel rest).map (.closing c :: ·)
        else .error (.mismatched c b (if opened = line then none else some opened))
    else
      match readToken line c rest with
      | .error fault => .error fault
      | .ok (token, behind) =>
        let passed := lineEnds ((c :: rest).take (rest.length + 1 - behind.length))
        (tokens brackets (line + passed) false fuel behind).map (token :: ·)

end TagOrigin.Display.Argument
