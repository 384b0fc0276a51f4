import DesignMetrics.Report.Cell
import DesignMetrics.Report.Markup
import DesignMetrics.Report.Export
import DesignMetrics.Report.Text

/-!
# Tables

The factors in a table that is as wide as its content, and the classes in one that is as wide as a
line.
-/

namespace DesignMetrics.Report

open Factor (FactorError Score)
open Markup (MarkupError)

/-- On which side of a column its cells stand. -/
inductive Side where
  | left
  | right
deriving DecidableEq, Repr

/-- A column and the cells that its text may take. -/
structure Column where
  title : String
  side : Side
  width : Nat

namespace Column

/-- The cells between the two bars of a column. -/
def outerWidth (c : Column) : Nat := c.width + 2

/-- A line of text on its side of the column. -/
def place (c : Column) (cs : List Char) : List Char :=
  match c.side with
  | .left => Cell.leftAligned c.width cs
  | .right => Cell.rightAligned c.width cs

/-- A line of text with a blank on either side. -/
def cell (c : Column) (cs : List Char) : List Char := ' ' :: c.place cs ++ [' ']

/-- A line without text. -/
def blank (c : Column) : List Char := List.replicate c.outerWidth ' '

end Column

/-- A table whose rows hold the lines of each of their cells, from bar to bar. -/
structure Table where
  title : String
  columns : List Column
  rows : List (List (List (List Char)))

namespace Table

/-- A line across the table. -/
def rule (t : Table) (left fill cross right : Char) : List Char :=
  left :: [cross].intercalate (t.columns.map fun c => List.replicate c.outerWidth fill) ++
    [right]

/-- One line of a row: the cells between bars. -/
def bars (bar : Char) (cells : List (List Char)) : List Char :=
  bar :: cells.flatMap (· ++ [bar])

def headerLine (t : Table) : List Char :=
  let bold := Style.bold.shown
  bars '┃' (t.columns.map fun c => bold [' '] ++ bold (c.place c.title.toList) ++ bold [' '])

/-- The lines of a row. Cells with fewer lines than others are blank below. -/
def rowLines (t : Table) (row : List (List (List Char))) : List (List Char) :=
  let height := (row.map List.length).foldl max 1
  (List.range height).map fun i =>
    bars '│' (t.columns.zipWith (fun c lines => lines.getD i c.blank) row)

def lines (t : Table) : List (List Char) :=
  let width := t.columns.foldl (fun width c => width + c.outerWidth + 1) 1
  [Style.italic.shown (Cell.centred width t.title.toList), t.rule '┏' '━' '┳' '┓', t.headerLine,
    t.rule '┡' '━' '╇' '┩'] ++
    t.rows.flatMap t.rowLines ++ [t.rule '└' '─' '┴' '┘']

/-- The text of a table; every line ends with a line feed. -/
def toText (t : Table) : String :=
  String.ofList (t.lines.flatMap (· ++ ['\n']))

end Table

/-! ## The factors -/

/-- The cells of the factors: name, value with three places, and both sums. -/
def factorCells (factors : Factors Score) : List (List String) :=
  factors.named.map fun (name, s) =>
    [name.toUpper, s.value.toFixed 3, toString s.ratio.numerator, toString s.ratio.denominator]

/-- The table of the factors. Its columns are as wide as what they hold. -/
def factorTable (factors : Factors Score) : Table :=
  let rows := factorCells factors
  let column (i : Nat) (title : String) (side : Side) : Column :=
    { title, side, width := (rows.map fun row => (row.getD i "").length).foldl max title.length }
  let columns := [column 0 "metric" .left, column 1 "value" .right, column 2 "numerator" .right,
    column 3 "denominator" .right]
  { title := "Project metrics"
    columns
    rows := rows.map fun row => columns.zipWith (fun c text => [c.cell text.toList]) row }

/-! ## The classes -/

/-- The cells that a name or a path may take. -/
def nameWidth : Nat := 28

def depthColumn : Column := ⟨"dit", .right, 6⟩

def childrenColumn : Column := ⟨"noc", .right, 5⟩

/-- The columns of the classes, which fill a line of eighty cells. -/
def classColumns : List Column :=
  [⟨"class", .left, nameWidth⟩, ⟨"file_path", .left, nameWidth⟩, depthColumn, childrenColumn]

/-- Why there is no table of the classes. -/
inductive TableError where
  | factors (e : FactorError)
  | markup (e : MarkupError)
  /-- A line that cannot be cut to the width of its column. -/
  | width (e : Cell.CutError)

/-- The name and the path of a class, read as texts with style tags. -/
def labels (e : ClassEntry) :
    Except MarkupError (StyledText (List Char) × StyledText (List Char)) :=
  return (← Markup.read e.info.name.toList, ← Markup.read e.info.file.toList)

/-- The lines of a name or a path. Styles are looked up for what is left of them in its lines. -/
def labelLines (t : StyledText (List Char)) : Except TableError (List (List Char)) := do
  let lines ← (Cell.fold nameWidth t).mapError .width
  let lines ← (lines.mapM Markup.resolve).mapError .markup
  (lines.mapM (Cell.shownLine nameWidth)).mapError .width

/-- The cells of a class, given its name and its path. -/
def classCells (e : ClassEntry) (name path : StyledText (List Char)) :
    Except TableError (List (List (List Char))) :=
  return [← labelLines name, ← labelLines path, [depthColumn.cell (depthText e.depth).toList],
    [childrenColumn.cell (toString e.childCount).toList]]

/-- The table of the classes. All tags are read before any style is looked up. -/
def classTable (entries : List ClassEntry) : Except TableError Table := do
  let labelled ← (entries.mapM fun e => return (e, ← labels e)).mapError .markup
  let rows ← labelled.mapM fun (e, name, path) => classCells e name path
  return { title := "Classes", columns := classColumns, rows }

/-- Both tables of an analysis. -/
def tables (a : Analysis) : Except TableError String :=
  match Export.ofAnalysis a with
  | .error e => .error (.factors e)
  | .ok x => return (factorTable x.factors).toText ++ (← classTable x.classes).toText

end DesignMetrics.Report
