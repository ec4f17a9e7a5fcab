import TermAudit.Console.Wrap
import TermAudit.Number.Rounding

/-!
# `TermAudit.Console.Table`: tables for the console

A `ConsoleTable` has a title and columns. `ConsoleTable.laidOut` finds the widths of the columns and
cuts the texts into lines: a column is as wide as its widest line, unless the console has no room
for it, in which case the widest columns give way. `TableLayout.drawn` draws the frame. The segments
of a line are drawn one by one, so a line takes as many cells as they do (`TableLayout.drawnCell`).
-/

set_option autoImplicit false

namespace TermAudit

/-- A column of a table: a width that it has at least, its heading and its cells. -/
structure ConsoleColumn (α : Type) where
  minimum : Nat
  heading : α
  cells : List α
deriving DecidableEq

/-- A table with a title above it; a ruled one has lines between its rows. Its texts are markup first,
then styled texts, and lines in the end. -/
structure ConsoleTable (α : Type) where
  title : α
  columns : List (ConsoleColumn α)
  isRuled : Bool
deriving DecidableEq

/-- A table in lines: the widths of its columns, and the lines of its texts. It is all that drawing
needs. -/
structure TableLayout where
  widths : List Nat
  lines : ConsoleTable (List Styled)
deriving DecidableEq

namespace ConsoleColumn

variable {α β ε : Type}

/-- The heading and the cells. -/
def texts (c : ConsoleColumn α) : List α :=
  c.heading :: c.cells

/-- Changes every text of a column, from top to bottom. -/
def mapM (f : α → Except ε β) (c : ConsoleColumn α) : Except ε (ConsoleColumn β) := do
  return ⟨c.minimum, ← f c.heading, ← c.cells.mapM f⟩

/-- Changes every text of a column. -/
def map (f : α → β) (c : ConsoleColumn α) : ConsoleColumn β :=
  ⟨c.minimum, f c.heading, c.cells.map f⟩

/-- The cells that a width leaves between the frame and the text. -/
def padding : Nat := 2

/-- The least width of a column. -/
def least (c : ConsoleColumn α) : Nat :=
  c.minimum + padding

/-- The width that a column would like to have, within a limit. -/
def preferred (limit : Nat) (c : ConsoleColumn Styled) : Nat :=
  let width (s : Styled) : Nat := min s.text.widestLine limit + padding
  max c.least (min limit ((c.texts.map width).foldl max 0))

end ConsoleColumn

namespace ConsoleTable

variable {α β ε : Type}

/-- The table of rows, given the headings and least widths of its columns. A row that is too short
goes on with empty cells. -/
def ofRows (title : Text) (columns : List (Text × Nat)) (rows : List (List Text))
    (isRuled : Bool) : ConsoleTable Text :=
  let column (c : (Text × Nat) × Nat) : ConsoleColumn Text :=
    ⟨c.1.2, c.1.1, rows.map fun row => row.getD c.2 []⟩
  ⟨title, columns.zipIdx.map column, isRuled⟩

/-- The number of cells that the frame takes. -/
def frame (t : ConsoleTable α) : Nat :=
  t.columns.length + 1

/-- All texts: the columns one after the other, and then the title. -/
def texts (t : ConsoleTable α) : List α :=
  t.columns.flatMap ConsoleColumn.texts ++ [t.title]

/-- Changes every text, the columns one after the other, and then the title. -/
def mapM (f : α → Except ε β) (t : ConsoleTable α) : Except ε (ConsoleTable β) := do
  let columns ← t.columns.mapM (ConsoleColumn.mapM f)
  return ⟨← f t.title, columns, t.isRuled⟩

/-- Changes every text. -/
def map (f : α → β) (t : ConsoleTable α) : ConsoleTable β :=
  ⟨f t.title, t.columns.map (ConsoleColumn.map f), t.isRuled⟩

/-- Takes an excess off the `count` columns of the greatest width, in equal shares and off each one
no more than `share`. -/
def reduceWidest (widest share : Nat) : Nat → Nat → List Nat → List Nat
  | _, _, [] => []
  | excess, count, w :: rest =>
    if w = widest then
      let taken := min share (roundToEven excess count)
      (w - taken) :: reduceWidest widest share (excess - taken) (count - 1) rest
    else w :: reduceWidest widest share excess count rest

/-- Narrows columns until they fit into a limit. In each of the steps the widest columns give way, down to
the next width below theirs, so columns that are narrow already are the last to change. -/
def narrowed (limit : Nat) : Nat → List Nat → List Nat
  | 0, widths => widths
  | steps + 1, widths =>
    if widths.foldr (· + ·) 0 ≤ limit then widths
    else
      let widest := widths.foldl max 0
      let next := (widths.filter (· != widest)).foldl max 0
      let excess := widths.foldr (· + ·) 0 - limit
      narrowed limit steps
        (reduceWidest widest (min excess (widest - next)) excess (widths.count widest) widths)

/-- The widths of the columns on a console of a width. -/
def widths (consoleWidth : Nat) (t : ConsoleTable Styled) : List Nat :=
  let limit := consoleWidth - t.frame
  let preferred := t.columns.map (ConsoleColumn.preferred limit)
  List.zipWith max (t.columns.map ConsoleColumn.least) (narrowed limit (preferred.foldr (· + ·) 0) preferred)

/-- A column in lines, given its width. -/
def columnLines (c : ConsoleColumn Styled) (width : Nat) : ConsoleColumn (List Styled) :=
  c.map (Styled.wrapped .ellipsis .left (width - ConsoleColumn.padding))

/-- The table in lines, on a console of a width. -/
def laidOut (consoleWidth : Nat) (t : ConsoleTable Styled) : TableLayout :=
  let widths := t.widths consoleWidth
  ⟨widths,
   ⟨Styled.wrapped .fold .center (widths.foldr (· + ·) 0 + t.frame) t.title,
    List.zipWith columnLines t.columns widths, t.isRuled⟩⟩

end ConsoleTable

namespace TableLayout

/-- As many of the texts as there is room for; the last one of them is cut off or filled up to
the end of the room. -/
def cutOff : Nat → List Text → List Text
  | _, [] => []
  | room, t :: rest =>
    if t.cells < room then t :: cutOff (room - t.cells) rest else [t.cropped room]

/-- Texts side by side on a number of cells: they are cut off, or spaces follow them. -/
def sideBySide (width : Nat) (ts : List Text) : List Text :=
  let total := (ts.map Text.cells).foldr (· + ·) 0
  if total < width then ts ++ [Text.spaces (width - total)]
  else if width < total then cutOff width ts
  else ts

/-- A line of a cell, with a space on both sides. -/
def drawnCell (width : Nat) (line : Styled) : Text :=
  let margin := Text.spaces 1
  let inside := sideBySide (width - ConsoleColumn.padding) line.segments
  (sideBySide width ([margin] ++ inside ++ [margin])).flatten

/-- The lines of a row: each cell gives its lines one after the other, and nothing below them. The row is
as high as its highest cell. -/
def rowLines (t : TableLayout) (cells : List (List Styled)) : List (List Text) :=
  let height := (cells.map List.length).foldl max 1
  (List.range height).map fun i =>
    List.zipWith (fun width lines => drawnCell width (lines.getD i ⟨[], []⟩)) t.widths cells

/-- The lines of the headings. -/
def headingLines (t : TableLayout) : List (List Text) :=
  t.rowLines (t.lines.columns.map ConsoleColumn.heading)

/-- The lines of each row. -/
def bodyLines (t : TableLayout) : List (List (List Text)) :=
  let count := (t.lines.columns.map fun c => c.cells.length).foldl max 0
  (List.range count).map fun i => t.rowLines (t.lines.columns.map fun c => c.cells.getD i [])

/-- The number of cells from one side of the frame to the other. -/
def width (t : TableLayout) : Nat :=
  t.widths.foldr (· + ·) 0 + t.lines.frame

/-- The strokes of a line of the frame: on the left, between columns, on the right, and along. -/
structure Rule where
  left : Char
  between : Char
  right : Char
  along : Char

/-- A line of the frame. -/
def drawnRule (t : TableLayout) (r : Rule) : Text :=
  let strokes := t.widths.map fun w => List.replicate w (CodePoint.ofChar r.along)
  CodePoint.ofChar r.left :: Text.joinWith [CodePoint.ofChar r.between] strokes
    ++ [CodePoint.ofChar r.right]

/-- A line of cells between bars. -/
def drawnLine (bar : Char) (cells : List Text) : Text :=
  [CodePoint.ofChar bar] ++ Text.joinWith [CodePoint.ofChar bar] cells ++ [CodePoint.ofChar bar]

/-- A line of the title in the middle above the table. -/
def drawnTitle (t : TableLayout) (line : Styled) : Text :=
  let room := t.width - line.text.cells
  Text.spaces (room / 2) ++ line.text ++ Text.spaces (room - room / 2)

/-- The table as it is drawn, line by line. -/
def drawn (t : TableLayout) : List Text :=
  let rows := t.bodyLines.map fun lines => lines.map (drawnLine '│')
  let betweenRows := if t.lines.isRuled then [t.drawnRule ⟨'├', '┼', '┤', '─'⟩] else []
  t.lines.title.map t.drawnTitle
    ++ [t.drawnRule ⟨'┏', '┳', '┓', '━'⟩]
    ++ t.headingLines.map (drawnLine '┃')
    ++ [t.drawnRule ⟨'┡', '╇', '┩', '━'⟩]
    ++ betweenRows.intercalate rows
    ++ [t.drawnRule ⟨'└', '┴', '┘', '─'⟩]

end TableLayout

end TermAudit
