import DesignMetrics.Report.StyledText
import DesignMetrics.Text.Cluster

/-!
# Cells of tables

Text in a column of a set width, counted in cells of the terminal.
-/

namespace DesignMetrics.Report.Cell

open Text (Cluster cells clusters isBlank)

/-! ## Widths -/

/-- The clusters that fit. One that fits by half gives way to a blank. -/
def takeCells : (width : Nat) → List Cluster → List Char
  | 0, _ => []
  | _, [] => []
  | width, k :: rest =>
    if k.width ≤ width then k.chars ++ takeCells (width - k.width) rest else [' ']

/-- Why a text cannot be cut: what joins at its start makes its clusters smaller than it is. -/
inductive CutError where
  /-- The clusters take some cells, but fewer than are wanted. -/
  | tooSmall
  /-- The clusters take no cells. -/
  | noCells
deriving DecidableEq, Repr

def CutError.message : CutError → String
  | .tooSmall => "list index out of range"
  | .noCells => "division by zero"

/-- The start of a text that is longer than `width` cells. -/
def cut (width : Nat) (cs : List Char) : Except CutError (List Char) :=
  let found := clusters cs
  let size := (found.map Cluster.width).foldl (· + ·) 0
  if size = 0 then .error .noCells
  else if size < width then .error .tooSmall
  else .ok (takeCells width found)

/-- A text of `width` cells: blanks are added at the end, or characters left out there. -/
def fit (width : Nat) (cs : List Char) : Except CutError (List Char) :=
  if width < cells cs then cut width cs
  else .ok (cs ++ List.replicate (width - cells cs) ' ')

/-- A text with blanks up to a width. -/
def leftAligned (width : Nat) (cs : List Char) : List Char :=
  cs ++ List.replicate (width - cells cs) ' '

/-- A text that ends at the right. One that is too long is cut and marked. -/
def rightAligned (width : Nat) (cs : List Char) : List Char :=
  if cells cs ≤ width then List.replicate (width - cells cs) ' ' ++ cs
  else takeCells (width - 1) (clusters cs) ++ ['…']

/-- A text in the middle of a line; a blank left over goes to the right. -/
def centred (width : Nat) (cs : List Char) : List Char :=
  let free := width - cells cs
  List.replicate (free / 2) ' ' ++ cs ++ List.replicate (free - free / 2) ' '

/-! ## Tabs -/

/-- A part that may end with a tab, which becomes a blank and further ones up to the next multiple
of eight cells. -/
def widenTab {σ : Type} (column : Nat) (t : StyledText σ) : StyledText σ :=
  if t.chars.getLast? = some '\t' then
    let chars := t.chars.dropLast ++ [' ']
    { t with chars }.extend ((8 - (column + cells chars) % 8) % 8)
  else t

/-- Parts with blanks for tabs; the first of them begins at a column. -/
def widenTabs {σ : Type} (column : Nat) : List (StyledText σ) → StyledText σ
  | [] => ⟨[], []⟩
  | t :: rest =>
    let t := widenTab column t
    t.append (widenTabs (column + cells t.chars) rest)

/-- The positions after tabs. -/
def tabStops (start : Nat) : List Char → List Nat
  | [] => []
  | c :: rest =>
    let later := tabStops (start + 1) rest
    if c = '\t' then (start + 1) :: later else later

/-- A text with blanks for tabs. -/
def expandTabs {σ : Type} (t : StyledText σ) : StyledText σ :=
  match tabStops 0 t.chars with
  | [] => t
  | stops => widenTabs 0 (t.cutAt stops)

/-! ## Lines -/

/-- The words of a text, each with the blanks after it. Blanks in front belong to the first word,
and a text of blanks has no word. -/
def words : List Char → List (List Char)
  | [] => []
  | c :: rest =>
    match words rest with
    | [] => if isBlank c then [] else [c :: rest]
    | word :: later =>
      if isBlank c || !word.head?.any isBlank then (c :: word) :: later
      else (c :: word.takeWhile isBlank) :: word.dropWhile isBlank :: later

/-- Cuts a word before each cluster that does not fit; `line` is what stands on the line, and
`used` its cells. -/
def chopFrom (width : Nat) (line : List Char) (used : Nat) : List Cluster → List (List Char)
  | [] => if used = 0 then [] else [line]
  | k :: rest =>
    if width < used + k.width then line :: chopFrom width k.chars k.width rest
    else chopFrom width (line ++ k.chars) (used + k.width) rest

/-- The lines of a word that may be cut anywhere. -/
def chop (width : Nat) (cs : List Char) : List (List Char) :=
  chopFrom width [] 0 (clusters cs)

/-- The positions at which pieces begin, the first of them at `start`. -/
def startsFrom (start : Nat) : List (List Char) → List Nat
  | [] => []
  | piece :: rest => start :: startsFrom (start + piece.length) rest

/-- Where lines begin when words are written one after the other; `used` cells of the line are
taken, and the next word is at `start`. A word goes on the line if it fits, to the next line if it
fits there, and else over several lines. Blanks at the end of a word may stick out. -/
def breaksFrom (width used start : Nat) : List (List Char) → List Nat
  | [] => []
  | word :: rest =>
    let size := cells (Text.trimEnd word)
    let next := start + word.length
    if used + size ≤ width then breaksFrom width (used + cells word) next rest
    else if width < size then
      let pieces := chop width word
      startsFrom start pieces ++ breaksFrom width (cells (pieces.getLastD [])) next rest
    else start :: breaksFrom width (cells word) next rest

/-- Where the lines of a text after the first begin. -/
def breaks (width : Nat) (cs : List Char) : List Nat :=
  (breaksFrom width 0 0 (words cs)).filter (· ≠ 0)

/-- Removes blanks at the end as far as a line is too long for them. -/
def dropExcess {σ : Type} (width : Nat) (t : StyledText σ) : StyledText σ :=
  let size := t.chars.length
  let blanks := size - (Text.trimEnd t.chars).length
  let excess := min blanks (size - width)
  if excess = 0 then t else t.take (size - excess)

/-- A line of `width` cells. -/
def fitLine {σ : Type} (width : Nat) (t : StyledText σ) : Except CutError (StyledText σ) := do
  let chars ← fit width t.chars
  return if chars.length < t.chars.length then { t.take chars.length with chars }
    else { t with chars }

/-- The lines of a cell, filled from the left and folded where they are too long. -/
def fold {σ : Type} (width : Nat) (t : StyledText σ) : Except CutError (List (StyledText σ)) := do
  let folded ← t.lines.mapM fun line => do
    let line := expandTabs line
    (line.cutAt (breaks width line.chars)).mapM fun part => fitLine width (dropExcess width part)
  return folded.flatten

/-! ## Segments -/

/-- The segments that fit in `width` cells; the last one is cut to fit. -/
def takeSegments : (width : Nat) → List Segment → Except CutError (List Segment)
  | _, [] => .ok []
  | width, s :: rest => do
    let size := cells s.chars
    if size < width then return s :: (← takeSegments (width - size) rest)
    return [{ s with chars := ← fit width s.chars }]

/-- Segments of `width` cells. Each is measured alone, so a joiner at its start or a mark may count
for something else than in the whole text. -/
def fitSegments (width : Nat) (ss : List Segment) : Except CutError (List Segment) :=
  let size := (ss.map fun s => cells s.chars).foldl (· + ·) 0
  if width < size then takeSegments width ss
  else .ok (ss ++ [⟨List.replicate (width - size) ' ', {}⟩])

/-- A line of a cell and a blank on either side. What is cut may take other cells than it should,
so the line is fitted before the blanks are there and twice with them. -/
def fitCell (width : Nat) (line : List Segment) : Except CutError (List Segment) := do
  let line ← fitSegments width line
  let cell ← fitSegments (width + 2) ([⟨[' '], {}⟩] ++ line ++ [⟨[' '], {}⟩])
  fitSegments (width + 2) cell

/-- A line of a cell as it is shown. -/
def shownLine (width : Nat) (line : StyledText Style) : Except CutError (List Char) := do
  return (← fitCell width line.segments).flatMap Segment.shown

end DesignMetrics.Report.Cell
