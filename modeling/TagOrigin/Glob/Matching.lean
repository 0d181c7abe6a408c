import TagOrigin.Glob.Expression

/-!
Whole-text matching. For a text of `n` characters a row holds `n + 1` answers: its `i`-th entry says
whether the items read so far, from the end of the expression, match the text from position `i` to
its end. Each item turns the row of the items behind it into its own row in one sweep, so matching
costs the product of the two lengths.
-/
namespace TagOrigin.Glob

/-- The characters that a one-character atom matches. -/
def Atom.admits : Atom → Char → Bool
  | .char a, c => c == a
  | .anyChar, c => c != '\n'
  | .nonSlash, c => c != '/'
  | .directories, _ => false

/-- The row of the empty expression: only the end of the text matches. -/
def emptyRow : Text → List Bool
  | [] => [true]
  | _ :: t => false :: emptyRow t

/-- One character of a class, then what `row` says. -/
def onceRow (p : Char → Bool) : Text → List Bool → List Bool
  | [], _ => [false]
  | c :: t, row => (p c && row.tail.headD false) :: onceRow p t row.tail

/-- A run of characters of a class, then what `row` says. -/
def manyRow (p : Char → Bool) : Text → List Bool → List Bool
  | [], row => [row.headD false]
  | c :: t, row =>
    let later := manyRow p t row.tail
    (row.headD false || (p c && later.headD false)) :: later

/-- Directories: characters other than line feeds, a slash, then what `row` says. -/
def directoriesRow : Text → List Bool → List Bool
  | [], _ => [false]
  | c :: t, row =>
    let later := directoriesRow t row.tail
    ((c == '/' && row.tail.headD false) || (c != '\n' && later.headD false)) :: later

/-- One occurrence of an atom, then what `row` says. -/
def Atom.row (a : Atom) (t : Text) (row : List Bool) : List Bool :=
  match a with
  | .directories => directoriesRow t row
  | a => onceRow a.admits t row

/-- An item, then what `row` says. Directories in sequence are directories again. -/
def Item.row (item : Item) (t : Text) (row : List Bool) : List Bool :=
  match item.times, item.atom with
  | .once, a => a.row t row
  | .optional, a => List.zipWith (· || ·) row (a.row t row)
  | .many, .directories => List.zipWith (· || ·) row (directoriesRow t row)
  | .many, a => manyRow a.admits t row

/-- The row of an expression. -/
def Expression.row (expression : Expression) (t : Text) : List Bool :=
  expression.foldr (fun item row => item.row t row) (emptyRow t)

/-- Whether the whole text matches the expression. -/
def Expression.accepts (expression : Expression) (t : Text) : Bool :=
  (Expression.row expression t).headD false

end TagOrigin.Glob
