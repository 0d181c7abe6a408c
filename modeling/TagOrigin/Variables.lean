import TagOrigin.Register
import TagOrigin.Text.Scan

/-!
Variables files. A file is a sequence of bindings `KEY=VALUE`, one a line, with an optional `export`
before the key and an optional comment behind the value. A value may stand in quotes, and then it
may span lines. A line that is no binding is skipped from where it fails. References to other
variables inside values are replaced when the file is evaluated.
-/
namespace TagOrigin.Variables

/-- A key with its value. A key without an equals sign has no value. -/
structure Binding where
  key : Text
  value : Option Text
  deriving DecidableEq, Repr

/-- White space within a line. -/
def isGap (c : Char) : Bool :=
  Text.isBlank c && c != '\n' && c != '\r'

def skipGaps (t : Text) : Text :=
  t.dropWhile isGap

/-- Skips the word `export` if white space follows it on the line. -/
def skipExport (t : Text) : Text :=
  match Text.after? "export".toList t with
  | some (c :: rest) => if isGap c then skipGaps rest else t
  | _ => t

/-- Reads a key. A comment has no key; a failure gives the text from the failing point on. -/
def readKey (t : Text) : Except Text (Option Text × Text) :=
  match t with
  | '#' :: _ => .ok (none, t)
  | '\'' :: rest =>
    match Text.run? (· ≠ '\'') rest with
    | some (key, '\'' :: rest) => .ok (some key, rest)
    | _ => .error t
  | _ =>
    match Text.run? (fun c => c != '=' && c != '#' && !Text.isBlank c) t with
    | some (key, rest) => .ok (some key, rest)
    | none => .error t

/-- Reads up to the next quote that no backslash covers. -/
def readQuoted (quote : Char) : Text → Option (Text × Text)
  | [] => none
  | '\\' :: c :: rest => (readQuoted quote rest).map fun (value, rest) => ('\\' :: c :: value, rest)
  | c :: rest =>
    if c = quote then some ([], rest)
    else (readQuoted quote rest).map fun (value, rest) => (c :: value, rest)

/-- What a character behind a backslash means in single quotes. -/
def singleEscape : Char → Option Char
  | '\\' => some '\\'
  | '\'' => some '\''
  | _ => none

/-- What a character behind a backslash means in double quotes. -/
def doubleEscape : Char → Option Char
  | '\\' => some '\\'
  | '\'' => some '\''
  | '"' => some '"'
  | 'a' => some (Char.ofNat 0x07)
  | 'b' => some (Char.ofNat 0x08)
  | 'f' => some (Char.ofNat 0x0c)
  | 'n' => some '\n'
  | 'r' => some '\r'
  | 't' => some '\t'
  | 'v' => some (Char.ofNat 0x0b)
  | _ => none

/-- Decodes the escapes that have a meaning and keeps the others. -/
def decodeEscapes (meaning : Char → Option Char) : Text → Text
  | [] => []
  | '\\' :: c :: rest =>
    match meaning c with
    | some d => d :: decodeEscapes meaning rest
    | none => '\\' :: decodeEscapes meaning (c :: rest)
  | c :: rest => c :: decodeEscapes meaning rest

/-- Cuts a line at the first white space that a comment follows. -/
def cutComment : Text → Text
  | [] => []
  | c :: rest =>
    if Text.isBlank c && (rest.dropWhile Text.isBlank).head? = some '#' then []
    else c :: cutComment rest

/-- Reads a value. An unclosed quote fails at the quote. -/
def readValue (t : Text) : Except Text (Text × Text) :=
  match t with
  | '\'' :: rest =>
    match readQuoted '\'' rest with
    | some (value, rest) => .ok (decodeEscapes singleEscape value, rest)
    | none => .error t
  | '"' :: rest =>
    match readQuoted '"' rest with
    | some (value, rest) => .ok (decodeEscapes doubleEscape value, rest)
    | none => .error t
  | _ =>
    let line := t.takeWhile fun c => c != '\n' && c != '\r'
    .ok (Text.stripRight (cutComment line), t.drop line.length)

/-- Reads what stands behind a key: an equals sign and a value, or nothing. An equals sign with
white space and a comment behind it gives the empty value. -/
def readAssignment (t : Text) : Except Text (Option Text × Text) :=
  match skipGaps t with
  | '=' :: rest =>
    let behind := skipGaps rest
    if behind.length < rest.length && behind.head? = some '#' then .ok (some [], behind)
    else (readValue behind).map fun (value, rest) => (some value, rest)
  | rest => .ok (none, rest)

/-- Reads an optional comment and the end of the line. -/
def readLineEnd (t : Text) : Except Text Text :=
  let behind := match skipGaps t with
    | '#' :: comment => comment.dropWhile fun c => c != '\n' && c != '\r'
    | _ => t
  match skipGaps behind with
  | [] => .ok []
  | '\n' :: rest => .ok rest
  | _ => .error behind

/-- Reads one binding or comment with the end of its line. -/
def readStatement (t : Text) : Except Text (Option Binding × Text) := do
  let (key, t) ← readKey (skipExport t)
  let (value, t) ← readAssignment t
  let t ← readLineEnd t
  return (key.map fun key => { key, value }, t)

/-- What follows the line at the front of a text. -/
def skipLine (t : Text) : Text :=
  (t.dropWhile (· ≠ '\n')).drop 1

/-- Reads the statement that begins at a character other than white space. -/
def readAt (t : Text) : Option (Option Binding × Nat) :=
  match t with
  | [] => none
  | c :: _ =>
    if Text.isBlank c then none
    else
      match readStatement t with
      | .ok (binding, rest) => some (binding, t.length - rest.length)
      | .error rest => some (none, t.length - (skipLine rest).length)

/-- The bindings of a variables file, in order. -/
def readBindings (t : Text) : List Binding :=
  (Scan.matchesOf readAt t).filterMap id

/-- A reference to a variable, with what stands in for it when it is not set. -/
structure Reference where
  name : Text
  default : Text
  deriving DecidableEq, Repr

/-- Reads a reference: a name in braces behind a dollar sign, or a name, `:-` and a default. -/
def Reference.read : Text → Option (Reference × Nat)
  | '$' :: '\x7b' :: rest =>
    let name := rest.takeWhile fun c => c != '\x7d' && c != ':'
    match rest.drop name.length with
    | '\x7d' :: _ => some (⟨name, []⟩, name.length + 3)
    | ':' :: '-' :: behind =>
      let default := behind.takeWhile (· ≠ '\x7d')
      match behind.drop default.length with
      | '\x7d' :: _ => some (⟨name, default⟩, name.length + default.length + 5)
      | _ => none
    | _ => none
  | _ => none

/-- Replaces the references of a value. -/
def expand (lookup : Text → Option Text) (value : Text) : Text :=
  Scan.substitute Reference.read (fun r => (lookup r.name).getD r.default) value

/-- Evaluates the bindings of a file in order. A reference sees the variables that are set, then
the bindings before it; a key without value counts as empty. The last binding of a key counts. -/
def evaluate (isSet : Text → Option Text) (bindings : List Binding) : Register (Option Text) :=
  bindings.foldl (fun values binding =>
    let lookup := fun name =>
      match isSet name with
      | some value => some value
      | none => (values.get? name).map fun value => value.getD []
    values.put binding.key (binding.value.map (expand lookup))) []

end TagOrigin.Variables
