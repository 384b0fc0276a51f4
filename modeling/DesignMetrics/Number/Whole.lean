import DesignMetrics.Text.Digit
import DesignMetrics.Text.Trim

/-!
# Reading whole numbers

The forms in which a whole number may be given: a sign, digits of any script, single `_` between
them, and blanks around.
-/

namespace DesignMetrics.Number

/-- A number of more digits than this is refused. -/
def maxDigits : Nat := 4300

/-- Blanks around a number: of the ASCII characters only tabs, line ends and the space. -/
def isOuterBlank (c : Char) : Bool :=
  if c.toNat < 128 then c = ' ' || (9 ≤ c.toNat && c.toNat ≤ 13) else Text.isBlank c

/-- Reads digits of any script after the ones that `value` was read from. One `_` may stand between
two digits. -/
def digitsFrom? (value : Nat) : (afterDigit : Bool) → List Char → Option Nat
  | afterDigit, [] => if afterDigit then some value else none
  | afterDigit, c :: rest =>
    if c = '_' then if afterDigit then digitsFrom? value false rest else none
    else
      match Text.digitValue? c with
      | some d => digitsFrom? (10 * value + d) true rest
      | none => none

/-- Reads a whole number without a sign. -/
def natural? (cs : List Char) : Option Nat :=
  if cs.countP (· != '_') ≤ maxDigits then digitsFrom? 0 false cs else none

/-- Reads a whole number, with or without a sign and blanks around it. -/
def whole? (cs : List Char) : Option Int :=
  match Text.dropTrailing isOuterBlank (cs.dropWhile isOuterBlank) with
  | '-' :: rest => (natural? rest).map fun n => -(n : Int)
  | '+' :: rest => (natural? rest).map Int.ofNat
  | rest => (natural? rest).map Int.ofNat

end DesignMetrics.Number
