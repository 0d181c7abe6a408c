import TagOrigin.Text

/-!
Left-to-right search for non-overlapping matches. A reader looks at a position and answers what it
read and how wide that is; the scan takes the first position that reads, skips the width of the
match and goes on behind it. Every search in this library is an instance of `tokens`.
-/
namespace TagOrigin.Scan

/-- One step of a scan: an element that starts no match, or a match. -/
inductive Token (α β : Type) where
  | other (element : α)
  | found (item : β)
  deriving DecidableEq, Repr

/-- The tokens of a sequence of which the first `skip` elements belong to an earlier match. -/
def tokens {α β : Type} (read : List α → Option (β × Nat)) : Nat → List α → List (Token α β)
  | _, [] => []
  | skip + 1, _ :: rest => tokens read skip rest
  | 0, a :: rest =>
    match read (a :: rest) with
    | none => .other a :: tokens read 0 rest
    | some (item, width) => .found item :: tokens read (width - 1) rest

/-- Skipping inside a scan is dropping before it. -/
theorem tokens_eq_drop {α β : Type} (read : List α → Option (β × Nat)) (skip : Nat) (s : List α) :
    tokens read skip s = tokens read 0 (s.drop skip) := by
  induction s generalizing skip with
  | nil => cases skip <;> simp [tokens]
  | cons a rest ih =>
    cases skip with
    | zero => simp
    | succ skip => simpa [tokens] using ih skip

/-- The match of a token, if it is one. -/
def Token.found? {α β : Type} : Token α β → Option β
  | .other _ => none
  | .found item => some item

/-- All matches of a reader, from left to right. -/
def matchesOf {α β : Type} (read : List α → Option (β × Nat)) (s : List α) : List β :=
  (tokens read 0 s).filterMap Token.found?

/-- Replaces every match of a reader by the characters chosen for it. -/
def substitute {β : Type} (read : Text → Option (β × Nat)) (choose : β → Text) (t : Text) : Text :=
  (tokens read 0 t).flatMap fun
    | .other c => [c]
    | .found item => choose item

/-- Reads a fixed word. -/
def word (w : Text) (t : Text) : Option (Unit × Nat) :=
  (Text.after? w t).map fun _ => ((), w.length)

/-- Replaces every occurrence of a non-empty word. -/
def replace (old new : Text) (t : Text) : Text :=
  substitute (word old) (fun _ => new) t

end TagOrigin.Scan
