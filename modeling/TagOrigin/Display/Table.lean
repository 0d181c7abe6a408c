import TagOrigin.Display.Console

/-!
Tables of two columns under a title. A column is as wide as its longest line. When the table would
be wider than the screen, the wider column gives way and lines are wrapped at words; a word that fits
no line is cut. The lines of the box depend on what can be shown. All texts that are put in a table have
been escaped and keep their glyphs, so they hold no tags and no styles have to be looked up.
-/
namespace TagOrigin.Display

/-- The title, the heads and the cells are markup. -/
structure Table where
  title : Text
  heads : Text × Text
  rows : List (Text × Text)
  deriving DecidableEq, Repr

/-- A horizontal line of a box: its left end, its stroke, its crossing and its right end. -/
structure Rule where
  left : Char
  stroke : Char
  cross : Char
  right : Char
  deriving DecidableEq, Repr

/-- The characters of a box. -/
structure Box where
  top : Rule
  headSide : Char
  below : Rule
  side : Char
  bottom : Rule
  deriving DecidableEq, Repr

/-- Heavy lines around the heads, light ones around the rows. -/
def Box.heavyHead : Box :=
  ⟨⟨'┏', '━', '┳', '┓'⟩, '┃', ⟨'┡', '━', '╇', '┩'⟩, '│', ⟨'└', '─', '┴', '┘'⟩⟩

/-- Light lines everywhere. -/
def Box.square : Box :=
  ⟨⟨'┌', '─', '┬', '┐'⟩, '│', ⟨'├', '─', '┼', '┤'⟩, '│', ⟨'└', '─', '┴', '┘'⟩⟩

/-- Lines in ASCII. -/
def Box.ascii : Box :=
  ⟨⟨'+', '-', '-', '+'⟩, '|', ⟨'|', '-', '+', '|'⟩, '|', ⟨'+', '-', '-', '+'⟩⟩

namespace Console

/-- The box that a console can show. -/
def box (console : Console) : Box :=
  if console.showsGlyphs then .heavyHead
  else if "utf".toList.isPrefixOf console.encoding then .square
  else .ascii

/-- The columns of the screen. Two are left free where glyphs are replaced. -/
def width (console : Console) : Nat :=
  if console.showsGlyphs then 80 else 78

end Console

/-- Characters that end a line when lines are measured. -/
def endsLine (c : Char) : Bool :=
  let n := c.toNat
  (0x0a ≤ n && n ≤ 0x0d) || (0x1c ≤ n && n ≤ 0x1e) || n == 0x85 || n == 0x2028 || n == 0x2029

/-- The columns of the longest line. -/
def measure (t : Text) : Nat :=
  ((t.splitBy fun a b => !endsLine a && !endsLine b).map Text.cells).foldr max 0

/-- The words of a line, each with the white space behind it. White space at the front belongs to
the first word. A line of white space has no words. -/
def words (line : Text) : List Text :=
  let front := line.takeWhile Text.isBlank
  match (line.dropWhile Text.isBlank).splitBy fun a b => !(Text.isBlank a && !Text.isBlank b) with
  | [] => []
  | first :: rest => (front ++ first) :: rest

/-- Cuts clusters into pieces of at most `width` columns. `line` is the piece begun, which takes `used`
columns. -/
def chop (width : Nat) (line : Text) (used : Nat) : List Text.Cluster → List Text
  | [] => if used = 0 then [] else [line]
  | cluster :: rest =>
    if width < used + cluster.width then
      line :: chop width cluster.chars cluster.width rest
    else chop width (line ++ cluster.chars) (used + cluster.width) rest

/-- Puts words on lines of `width` columns. `line` is the line begun, of which `used` columns
count. With `fold` a word longer than a line is cut. -/
def fill (fold : Bool) (width : Nat) (line : Text) (used : Nat) : List Text → List Text
  | [] => [line]
  | word :: rest =>
    let length := Text.cells (Text.stripRight word)
    let done := if line = [] then [] else [line]
    if used + length ≤ width then fill fold width (line ++ word) (used + Text.cells word) rest
    else if width < length then
      let pieces := if fold then chop width [] 0 (Text.clusters word) else [word]
      let last := pieces.getLastD []
      done ++ pieces.dropLast ++ fill fold width last (Text.cells last) rest
    else if used ≠ 0 && line ≠ [] then
      line :: fill fold width word (Text.cells word) rest
    else fill fold width (line ++ word) used rest

/-- Removes white space at the end as far as the line is longer than `width`. -/
def trimExcess (width : Nat) (line : Text) : Text :=
  let blanks := (line.reverse.takeWhile Text.isBlank).length
  line.take (line.length - min blanks (line.length - width))

/-- The clusters at the front that fit in `width` columns. A space stands for half a wide one. -/
def takeColumns (width : Nat) : List Text.Cluster → Text
  | [] => []
  | cluster :: rest =>
    if width = 0 then []
    else if cluster.width ≤ width then
      cluster.chars ++ takeColumns (width - cluster.width) rest
    else [' ']

/-- Cuts a line to `width` columns. -/
def cutTo (width : Nat) (line : Text) : Text :=
  takeColumns width (Text.clusters line)

/-- A line of exactly `width` columns: cut, or filled up with spaces. -/
def fit (fold : Bool) (width : Nat) (line : Text) : Text :=
  let cut :=
    if Text.cells line ≤ width then line
    else if fold then cutTo width line
    else cutTo (width - 1) line ++ ['…']
  cut ++ List.replicate (width - Text.cells cut) ' '

/-- The lines of a cell. -/
def cellLines (fold : Bool) (width : Nat) (t : Text) : List Text :=
  (Text.lines (expandTabs t)).flatMap fun line =>
    let wrapped := match words line with
      | [] => [line]
      | words => fill fold width [] 0 words
    wrapped.map fun line => fit fold width (trimExcess width line)

/-- A horizontal line of the box over columns of given widths. -/
def Rule.draw (rule : Rule) (left right : Nat) : Text :=
  [rule.left] ++ List.replicate (left + 2) rule.stroke ++ [rule.cross] ++
    List.replicate (right + 2) rule.stroke ++ [rule.right, '\n']

/-- The lines of a row. The shorter cell is filled up with blank lines. -/
def drawRow (side : Char) (left right : Nat) (row : Text × Text) : Text :=
  let first := cellLines false left row.1
  let second := cellLines true right row.2
  (List.range (max first.length second.length)).flatMap fun i =>
    [side, ' '] ++ first.getD i (List.replicate left ' ') ++ [' ', side, ' '] ++
      second.getD i (List.replicate right ' ') ++ [' ', side, '\n']

/-- What the two cells of a row show. -/
def showRow (row : Text × Text) : Except Markup.Fault (Text × Text) := do
  let first ← Markup.render row.1
  let second ← Markup.render row.2
  return (first, second)

/-- Half of a number, rounded to the even neighbour. -/
def halfToEven (n : Nat) : Nat :=
  if n % 4 = 3 then n / 2 + 1 else n / 2

/-- The widths of two columns that want more than `limit` columns together. The wider one gives way until
both are equal, then both do. -/
def shareColumns (limit left right : Nat) : Nat × Nat :=
  let excess := left + right - limit
  let fromLeft := min excess (left - right)
  let fromRight := min excess (right - left)
  let excess := excess - fromLeft - fromRight
  let half := halfToEven excess
  (left - fromLeft - half, right - fromRight - (excess - half))

/-- The characters that printing a table writes. Glyphs in its texts are not replaced. -/
def Table.draw (table : Table) (console : Console) : Except Markup.Fault Text := do
  let title ← Markup.render table.title
  let heads ← showRow table.heads
  let rows ← table.rows.mapM showRow
  let left := ((heads :: rows).map fun row => measure row.1).foldr max 0
  let wanted := ((heads :: rows).map fun row => measure row.2).foldr max 0
  let (left, right) := shareColumns (console.width - 7) left wanted
  let box := console.box
  return expandTabs title ++ ['\n'] ++ box.top.draw left right ++
    drawRow box.headSide left right heads ++ box.below.draw left right ++
    rows.flatMap (drawRow box.side left right) ++ box.bottom.draw left right

end TagOrigin.Display
