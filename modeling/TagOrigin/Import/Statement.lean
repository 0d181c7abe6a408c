import TagOrigin.Text.Scan

/-!
Import statements. A statement is kept with every part of its spelling, so that `Statement.text`
gives back exactly the characters it was read from. Two shapes are read: one name, or a braced list
of specifiers. No other form of import is a statement here.
-/
namespace TagOrigin.Import

/-- What stands between the keyword and `from`. -/
inductive Shape where
  | single
  | grouped
  deriving DecidableEq, Repr

/-- An import statement with its spelling: white space, quotes and the optional final semicolon. -/
structure Statement where
  shape : Shape
  /-- The name of a single import, or the characters between the braces. -/
  subject : Text
  module : Text
  beforeSubject : Text
  beforeFrom : Text
  beforeModule : Text
  openQuote : Char
  closeQuote : Char
  terminated : Bool
  deriving DecidableEq, Repr

/-- Characters of a name: ASCII letters, digits, underscore and dollar. -/
def isNameChar (c : Char) : Bool :=
  c.isAlphanum || c == '_' || c == '$'

/-- The two quotes. A module may be opened by one and closed by the other. -/
def isQuote (c : Char) : Bool :=
  c == '"' || c == '\''

def keyword : Text := "import".toList

def fromWord : Text := "from".toList

/-- A subject as it is written: bare, or in braces. -/
def Shape.write : Shape → Text → Text
  | .single, subject => subject
  | .grouped, subject => '\x7b' :: subject ++ ['\x7d']

/-- The statement as it is written. -/
def Statement.text (s : Statement) : Text :=
  keyword ++ s.beforeSubject ++ s.shape.write s.subject ++ s.beforeFrom ++ fromWord ++
    s.beforeModule ++ s.openQuote :: s.module ++
    s.closeQuote :: (if s.terminated then [';'] else [])

/-- Reads a non-empty run of characters up to a closing one, which is left out. -/
def readUntil (closing : Char) (t : Text) : Option (Text × Text) :=
  match t.dropWhile (· ≠ closing), t.takeWhile (· ≠ closing) with
  | _ :: rest, c :: taken => some (c :: taken, rest)
  | _, _ => none

/-- Reads a subject of the given shape. -/
def readSubject (shape : Shape) (t : Text) : Option (Text × Text) :=
  match shape with
  | .single => Text.run? isNameChar t
  | .grouped => (Text.after? ['\x7b'] t).bind (readUntil '\x7d')

/-- Reads one quote. -/
def readQuote : Text → Option (Char × Text)
  | [] => none
  | c :: t => if isQuote c then some (c, t) else none

/-- Reads an optional semicolon. -/
def readSemicolon : Text → Bool × Text
  | [] => (false, [])
  | c :: t => if c = ';' then (true, t) else (false, c :: t)

/-- Reads a statement of the given shape at the front of a text. Every run is as long as possible,
and a semicolon right behind the closing quote belongs to the statement. -/
def Statement.read (shape : Shape) (t : Text) : Option (Statement × Text) := do
  let t ← Text.after? keyword t
  let (beforeSubject, t) ← Text.run? Text.isBlank t
  let (subject, t) ← readSubject shape t
  let (beforeFrom, t) ← Text.run? Text.isBlank t
  let t ← Text.after? fromWord t
  let (beforeModule, t) ← Text.run? Text.isBlank t
  let (openQuote, t) ← readQuote t
  let (module, t) ← Text.run? (fun c => !isQuote c) t
  let (closeQuote, t) ← readQuote t
  let (terminated, t) := readSemicolon t
  return ({ shape, subject, module, beforeSubject, beforeFrom, beforeModule, openQuote, closeQuote,
            terminated }, t)

theorem readUntil_eq_some {closing : Char} {t taken rest : Text}
    (h : readUntil closing t = some (taken, rest)) : t = taken ++ closing :: rest := by
  unfold readUntil at h
  have whole := List.takeWhile_append_dropWhile (p := (· ≠ closing)) (l := t)
  have stop := List.head?_dropWhile_not (· ≠ closing) t
  cases behind : t.dropWhile (· ≠ closing) with
  | nil =>
    rw [behind] at h
    cases h
  | cons c tail =>
    cases front : t.takeWhile (· ≠ closing) with
    | nil =>
      rw [behind, front] at h
      cases h
    | cons a more =>
      rw [behind, front] at h whole
      rw [behind] at stop
      obtain ⟨rfl, rfl⟩ := Prod.mk.inj (Option.some.inj h)
      have same : c = closing := by simpa using stop
      rw [← whole, same]

theorem readSubject_eq_some {shape : Shape} {t subject rest : Text}
    (h : readSubject shape t = some (subject, rest)) : t = shape.write subject ++ rest := by
  cases shape with
  | single => exact (Text.run?_eq_some h).1
  | grouped =>
    obtain ⟨inner, opened, closed⟩ := Option.bind_eq_some_iff.1 h
    rw [Text.after?_eq_some_iff.1 opened, readUntil_eq_some closed]
    simp [Shape.write]

theorem readQuote_eq_some {t rest : Text} {quote : Char} (h : readQuote t = some (quote, rest)) :
    t = quote :: rest := by
  cases t with
  | nil => cases h
  | cons c t =>
    simp only [readQuote, Option.ite_none_right_eq_some] at h
    obtain ⟨rfl, rfl⟩ := Prod.mk.inj (Option.some.inj h.2)
    rfl

theorem readSemicolon_eq (t : Text) :
    t = (if (readSemicolon t).1 then [';'] else []) ++ (readSemicolon t).2 := by
  cases t with
  | nil => rfl
  | cons c t => by_cases h : c = ';' <;> simp [readSemicolon, h]

/-- A statement is written with exactly the characters it was read from. -/
theorem Statement.eq_text_append_of_read {shape : Shape} {t rest : Text} {s : Statement}
    (h : Statement.read shape t = some (s, rest)) : t = s.text ++ rest := by
  unfold Statement.read at h
  simp only [Option.bind_eq_bind, Option.bind_eq_some_iff, Prod.exists] at h
  obtain ⟨t₁, h₁, gap₁, t₂, h₂, subject, t₃, h₃, gap₂, t₄, h₄, t₅, h₅, gap₃, t₆, h₆, first, t₇, h₇,
    module, t₈, h₈, second, t₉, h₉, last⟩ := h
  obtain ⟨rfl, rfl⟩ := Prod.mk.inj (Option.some.inj last)
  have e₁ := Text.after?_eq_some_iff.1 h₁
  have e₂ := (Text.run?_eq_some h₂).1
  have e₃ := readSubject_eq_some h₃
  have e₄ := (Text.run?_eq_some h₄).1
  have e₅ := Text.after?_eq_some_iff.1 h₅
  have e₆ := (Text.run?_eq_some h₆).1
  have e₇ := readQuote_eq_some h₇
  have e₈ := (Text.run?_eq_some h₈).1
  have e₉ := readQuote_eq_some h₉
  have e := readSemicolon_eq t₉
  rw [e₁, e₂, e₃, e₄, e₅, e₆, e₇, e₈, e₉]
  conv => lhs; rw [e]
  simp only [Statement.text, List.append_assoc, List.cons_append]

/-- All statements of one shape in a text, from left to right and without overlap. -/
def statements (shape : Shape) (t : Text) : List Statement :=
  Scan.matchesOf (fun t => (Statement.read shape t).map fun (s, _) => (s, s.text.length)) t

end TagOrigin.Import
