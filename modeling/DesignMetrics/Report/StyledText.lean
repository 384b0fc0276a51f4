import DesignMetrics.Report.Style.Basic
import DesignMetrics.Sorting

/-!
# Styled texts

A text and the styles of its parts. Cutting it cuts the styles along.
-/

namespace DesignMetrics.Report

/-- A style of the positions from `start` up to `stop`. -/
structure Span (σ : Type) where
  start : Nat
  stop : Nat
  style : σ
deriving DecidableEq, Repr

/-- A text with styles. Where spans overlap, a later one lies over the earlier ones. -/
structure StyledText (σ : Type) where
  chars : List Char
  spans : List (Span σ) := []
deriving DecidableEq, Repr

namespace StyledText

variable {σ τ : Type}

/-! ## Cutting and joining -/

/-- The text from one position up to another, with the styles that some of it has. -/
def part (t : StyledText σ) (start stop : Nat) : StyledText σ :=
  { chars := (t.chars.drop start).take (stop - start)
    spans := t.spans.filterMap fun s =>
      let first := max s.start start
      let last := min s.stop stop
      if first < last then some ⟨first - start, last - start, s.style⟩ else none }

/-- The parts from one position to the next, the first of them at `start`. -/
def partsFrom (t : StyledText σ) (start : Nat) : List Nat → List (StyledText σ)
  | [] => [t.part start t.chars.length]
  | stop :: rest => t.part start stop :: t.partsFrom stop rest

/-- The parts between ascending positions. A text that is not cut stays as it is. -/
def cutAt (t : StyledText σ) : List Nat → List (StyledText σ)
  | [] => [t]
  | stops => t.partsFrom 0 stops

/-- The text up to a position. A style of nothing stays where it is. -/
def take (t : StyledText σ) (stop : Nat) : StyledText σ :=
  { chars := t.chars.take stop
    spans := (t.spans.filter (·.start < stop)).map fun s => { s with stop := min s.stop stop } }

/-- The lines of a text, given as pieces of which the first is at `start`. -/
def linesFrom (t : StyledText σ) (start : Nat) : List (List Char) → List (StyledText σ)
  | [] => []
  | line :: lines =>
    t.part start (start + line.length) :: t.linesFrom (start + line.length + 1) lines

/-- The lines of a text. A single line stays as it is. -/
def lines (t : StyledText σ) : List (StyledText σ) :=
  if t.chars.contains '\n' then t.linesFrom 0 (Text.splitOn '\n' t.chars) else [t]

/-- Blanks at the end, in the styles of what they follow. -/
def extend (t : StyledText σ) (blanks : Nat) : StyledText σ :=
  { chars := t.chars ++ List.replicate blanks ' '
    spans := t.spans.map fun s =>
      if t.chars.length ≤ s.stop then { s with stop := s.stop + blanks } else s }

/-- One text after the other. -/
def append (t u : StyledText σ) : StyledText σ :=
  let size := t.chars.length
  { chars := t.chars ++ u.chars
    spans := t.spans ++ u.spans.map fun s => ⟨s.start + size, s.stop + size, s.style⟩ }

/-- Styles found for what stands for them. -/
def mapStyles {ε : Type} (t : StyledText σ) (f : σ → Except ε τ) : Except ε (StyledText τ) := do
  let spans ← t.spans.mapM fun s => return ⟨s.start, s.stop, ← f s.style⟩
  return { chars := t.chars, spans }

end StyledText

/-! ## Segments -/

/-- Text that is shown in one style. -/
structure Segment where
  chars : List Char
  style : Style := {}
deriving DecidableEq, Repr

def Segment.shown (s : Segment) : List Char := s.style.shown s.chars

namespace StyledText

/-- The style at a position. -/
def styleAt (t : StyledText Style) (position : Nat) : Style :=
  (t.spans.filter fun s => s.start ≤ position && position < s.stop).foldl
    (fun lower s => s.style.onto lower) {}

/-- The segments between ascending positions, the first of them at `start`. -/
def segmentsFrom (t : StyledText Style) (start : Nat) : List Nat → List Segment
  | [] => []
  | stop :: rest =>
    if start < stop then
      ⟨(t.chars.drop start).take (stop - start), t.styleAt start⟩ :: t.segmentsFrom stop rest
    else t.segmentsFrom start rest

/-- The segments of a text. A new one begins where any span begins or ends. -/
def segments (t : StyledText Style) : List Segment :=
  let edges := t.spans.map Span.start ++ t.spans.map Span.stop ++ [t.chars.length]
  t.segmentsFrom 0 (sortBy (fun a b => decide (a ≤ b)) edges)

end StyledText
end DesignMetrics.Report
