import EnumTables.Console.Markup
import EnumTables.Console.Wrap
import EnumTables.Table.Basic

/-!
# Tables on the console

A table is drawn with a title in the middle above it, a heavy frame around the column headings and a
light one around the rows.  A heading is the column's name above its type.
-/

namespace EnumTables.Console

open Text

/-- The marks of a horizontal rule: its two ends, its crossings and the line itself. -/
structure Rule where
  left : Char
  line : Char
  crossing : Char
  right : Char

/-- The rule above the headings. -/
def topRule : Rule := ⟨'┏', '━', '┳', '┓'⟩

/-- The rule between the headings and the rows. -/
def headRule : Rule := ⟨'┡', '━', '╇', '┩'⟩

/-- The rule below the rows. -/
def bottomRule : Rule := ⟨'└', '─', '┴', '┘'⟩

/-- A rule over columns of the given widths. -/
def Rule.draw (r : Rule) (widths : List Nat) : List Char :=
  let segments := widths.map fun w ↦ List.replicate (w + 2) r.line
  r.left :: ([r.crossing].intercalate segments ++ [r.right])

/-- One line of cells between vertical bars, each cell with a blank on both sides. -/
def drawLine (bar : Char) (cells : List (List Char)) : List Char :=
  let cells := cells.map fun cell ↦ ' ' :: (cell ++ [' '])
  bar :: ([bar].intercalate cells ++ [bar])

/-- The lines of a cell in a column of the given width. -/
def cellLines (w : Nat) (cell : List Char) : List (List Char) := layout .left .ellipsis w cell

/-- A row of cells, as many lines as the highest of them has. -/
def drawRow (bar : Char) (widths : List Nat) (cells : List (List Char)) : List (List Char) :=
  let columns := (widths.zip cells).map fun (w, cell) ↦ (w, cellLines w cell)
  let height := (columns.map fun (_, ls) ↦ ls.length).foldl max 1
  (List.range height).map fun i ↦
    drawLine bar (columns.map fun (w, ls) ↦ ls.getD i (List.replicate w ' '))

/-- Characters at which a text is taken apart to be measured. -/
def endsMeasure (c : Char) : Bool :=
  c = '\n' || c = '\r' || c = '\x0B' || c = '\x0C' || c = '\x1C' || c = '\x1D' || c = '\x1E' ||
    c = '\u0085' || c = '\u2028' || c = '\u2029'

/-- The columns that a text with several lines takes. -/
def textWidth (cs : List Char) : Nat := ((cs.splitOnP endsMeasure).map width).foldl max 0

/-- The widths of columns that hold all the cells of the rows. -/
def columnWidths (count : Nat) (rows : List (List (List Char))) : List Nat :=
  (List.range count).map fun i ↦
    (rows.map fun row ↦ textWidth (row.getD i [])).foldl max 0

/-- A text as a cell of a table: escaped and rendered. -/
def cellText (s : String) : Except Markup.Error (List Char) :=
  (Markup.render (Markup.escape s)).map String.toList

/-- The heading of a column. -/
def heading (f : Field) : Except Markup.Error (List Char) :=
  (Markup.render s!"{f.name}\n[muted]{f.type.name}[/]").map String.toList

/-- The lines of a table, its title above it. -/
def drawTable (t : EnumTable) : Except Markup.Error (List (List Char)) := do
  let title ← cellText s!"{t.tableId} ({t.rowCount} rows)"
  let headings ← t.fields.mapM heading
  let rows ← t.rows.mapM fun row ↦
    t.fields.mapM fun f ↦ cellText ((row.get? f.name).getD "")
  let widths := columnWidths t.fields.length (headings :: rows)
  let total := widths.foldl (fun n w ↦ n + w + 3) 1
  return layout .centre .fold total title ++ [topRule.draw widths] ++ drawRow '┃' widths headings ++
    [headRule.draw widths] ++ rows.flatMap (drawRow '│' widths) ++ [bottomRule.draw widths]

end EnumTables.Console
