import DesignMetrics.Report.Style.Palette
import DesignMetrics.Text.Digit
import DesignMetrics.Text.Lowercase
import DesignMetrics.Text.Trim

/-!
# Colors

The colors of a terminal: how they are written in styles, and the codes that switch them on.
-/

namespace DesignMetrics.Report

/-- A color as a terminal shows it. -/
inductive Shade where
  /-- The color of a terminal that has not been told otherwise. -/
  | usual
  | palette (number : Nat)
  | mixed (red green blue : Nat)
deriving DecidableEq, Repr

/-- A color and the name it was called by. -/
structure Color where
  name : List Char
  shade : Shade
deriving DecidableEq, Repr

/-- Why a text is no color: it means nothing, or a part of a mixed color is left out. -/
inductive ColorError where
  | unknown
  | emptyPart
deriving DecidableEq, Repr

namespace Color

/-- The value of a number in decimal digits of any script. -/
def numberOf (digits : List Char) : Nat :=
  digits.foldl (fun n c => 10 * n + (Text.digitValue? c).getD 0) 0

def isSmallHexDigit (c : Char) : Bool :=
  c.isDigit || ('a' ≤ c && c ≤ 'f')

def hexNumber (digits : List Char) : Nat :=
  digits.foldl
    (fun n c => 16 * n + if c.isDigit then c.toNat - '0'.toNat else c.toNat - 'a'.toNat + 10) 0

/-- What stands between the parentheses of a text that begins with `head`. -/
def argument? (head : String) (cs : List Char) : Option (List Char) :=
  if (head.toList ++ ['(']).isPrefixOf cs ∧ cs.getLast? = some ')' then
    some (cs.drop (head.length + 1)).dropLast
  else none

/-- Six hexadecimal digits after `#`, two for each part. -/
def hexShade? : List Char → Option Shade
  | ['#', a, b, c, d, e, f] =>
    if [a, b, c, d, e, f].all isSmallHexDigit then
      some (.mixed (hexNumber [a, b]) (hexNumber [c, d]) (hexNumber [e, f]))
    else none
  | _ => none

/-- A place in the palette, with up to three digits. -/
def paletteShade? (cs : List Char) : Option Shade := do
  let digits ← argument? "color" cs
  if digits ≠ [] ∧ digits.length ≤ 3 ∧ digits.all Char.isDigit ∧ numberOf digits ≤ 255 then
    some (.palette (numberOf digits))
  else none

/-- Three parts between commas. Two commas alone are enough to be taken for a mixed color, so a
part that is left out is an error of its own. -/
def mixedShade (cs : List Char) : Except ColorError Shade :=
  match argument? "rgb" cs with
  | none => .error .unknown
  | some parts =>
    if !parts.all fun c => c = ',' || (Text.digitValue? c).isSome then .error .unknown
    else
      match Text.splitOn ',' parts with
      | [red, green, blue] =>
        if [red, green, blue].contains [] then .error .emptyPart
        else if [red, green, blue].all (numberOf · ≤ 255) then
          .ok (.mixed (numberOf red) (numberOf green) (numberOf blue))
        else .error .unknown
      | _ => .error .unknown

/-- Reads a color. Capitals do not count. -/
def ofText (cs : List Char) : Except ColorError Color :=
  let name := Text.lowercase cs
  if name = "default".toList then .ok ⟨name, .usual⟩
  else
    match paletteNames.lookup (String.ofList name) with
    | some number => .ok ⟨name, .palette number⟩
    | none =>
      match (hexShade? name).or (paletteShade? name) with
      | some shade => .ok ⟨name, shade⟩
      | none => (mixedShade name).map (⟨name, ·⟩)

end Color

namespace Shade

/-- The codes of a color; `base` is 30 for letters and 40 for what is behind them. The first
sixteen colors of the palette have codes of their own. -/
def codes (base : Nat) : Shade → List Nat
  | .usual => [base + 9]
  | .palette number =>
    if number < 8 then [base + number]
    else if number < 16 then [base + 52 + number]
    else [base + 8, 5, number]
  | .mixed red green blue => [base + 8, 2, red, green, blue]

end Shade
end DesignMetrics.Report
