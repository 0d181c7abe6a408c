import TagOrigin.Text.Scan

/-!
Expressions: what the text of an anchored expression means. An expression is a sequence of items,
each an atom with a number of times. The text uses the start and end marks, the group
`(?:.*/)`, the class `[^/]`, the point, escaped characters, and the repeat marks `*` and `?`;
everything else stands for itself. A `?` behind a repeat mark is its lazy mark, which does not
change what a whole text matches. The only faults are repeat marks without something to repeat.
-/
namespace TagOrigin.Glob

/-- What one step of an expression matches. -/
inductive Atom where
  | char (c : Char)
  /-- The point: any character but a line feed. -/
  | anyChar
  /-- Any character but a slash, line feeds included. -/
  | nonSlash
  /-- Characters other than line feeds up to and including a slash. -/
  | directories
  deriving DecidableEq, Repr

/-- How often an atom may stand. -/
inductive Times where
  | once
  | optional
  | many
  deriving DecidableEq, Repr

structure Item where
  atom : Atom
  times : Times
  deriving DecidableEq, Repr

abbrev Expression := List Item

/-- Lexical units of an expression text. -/
inductive Lexeme where
  | start
  | finish
  | atom (a : Atom)
  | star
  | query
  deriving DecidableEq, Repr

/-- Reads the lexical unit at the front of an expression text, with its width. -/
def Lexeme.read : Text → Option (Lexeme × Nat)
  | [] => none
  | '^' :: _ => some (.start, 1)
  | '.' :: _ => some (.atom .anyChar, 1)
  | '*' :: _ => some (.star, 1)
  | '?' :: _ => some (.query, 1)
  | '\\' :: 'Z' :: _ => some (.finish, 2)
  | '\\' :: c :: _ => some (.atom (.char c), 2)
  | '[' :: '^' :: '/' :: ']' :: _ => some (.atom .nonSlash, 4)
  | '(' :: '?' :: ':' :: '.' :: '*' :: '/' :: ')' :: _ => some (.atom .directories, 7)
  | c :: _ => some (.atom (.char c), 1)

/-- The lexical units of an expression text, each with its width. -/
def lexemes (source : Text) : List (Lexeme × Nat) :=
  Scan.matchesOf (fun t => (Lexeme.read t).map fun (unit, width) => ((unit, width), width)) source

/-- Why an expression text is refused. -/
inductive Cause where
  | nothingToRepeat
  | multipleRepeat
  deriving DecidableEq, Repr

/-- A refused expression text, with the position of the repeat mark at fault. -/
structure Fault where
  cause : Cause
  position : Nat
  source : Text
  deriving DecidableEq, Repr

def Cause.message : Cause → Text
  | .nothingToRepeat => "nothing to repeat".toList
  | .multipleRepeat => "multiple repeat".toList

/-- The position counts from zero. For a source of several lines the line, from one, and the
distance from the last line feed before the position follow. -/
def Fault.message (fault : Fault) : Text :=
  let before := fault.source.take fault.position
  let place := fault.cause.message ++ " at position ".toList ++ Text.ofNat fault.position
  if fault.source.contains '\n' then
    place ++ " (line ".toList ++ Text.ofNat (before.count '\n' + 1) ++ ", column ".toList ++
      Text.ofNat ((before.reverse.takeWhile (· ≠ '\n')).length + 1) ++ [')']
  else place

/-- What stands before the unit being read, as far as repeat marks care. -/
inductive Prior where
  | start
  | atom (a : Atom)
  /-- An item that may still take a lazy mark. -/
  | repeated (item : Item)
  /-- An item whose lazy mark has been taken. -/
  | settled (item : Item)
  deriving DecidableEq, Repr

/-- The item that is complete once no repeat mark follows. -/
def Prior.items : Prior → List Item
  | .start => []
  | .atom a => [⟨a, .once⟩]
  | .repeated item => [item]
  | .settled item => [item]

/-- What a star makes of the item before it. -/
def Prior.star : Prior → Except Cause Prior
  | .start => .error .nothingToRepeat
  | .atom a => .ok (.repeated ⟨a, .many⟩)
  | .repeated _ => .error .multipleRepeat
  | .settled _ => .error .multipleRepeat

/-- What a question mark makes of the item before it. -/
def Prior.query : Prior → Except Cause Prior
  | .start => .error .nothingToRepeat
  | .atom a => .ok (.repeated ⟨a, .optional⟩)
  | .repeated item => .ok (.settled item)
  | .settled _ => .error .multipleRepeat

/-- The items of a sequence of lexical units that begins at `position`. -/
def parse : Nat → Prior → List (Lexeme × Nat) → Except (Cause × Nat) Expression
  | _, prior, [] => .ok prior.items
  | position, prior, (unit, width) :: rest =>
    let next := position + width
    match unit with
    | .start => parse next .start rest
    | .finish => (parse next .start rest).map (prior.items ++ ·)
    | .atom a => (parse next (.atom a) rest).map (prior.items ++ ·)
    | .star =>
      match prior.star with
      | .ok prior => parse next prior rest
      | .error cause => .error (cause, position)
    | .query =>
      match prior.query with
      | .ok prior => parse next prior rest
      | .error cause => .error (cause, position)

/-- Reads an expression text. -/
def Expression.read (source : Text) : Except Fault Expression :=
  match parse 0 .start (lexemes source) with
  | .ok expression => .ok expression
  | .error (cause, position) => .error { cause, position, source }

end TagOrigin.Glob
