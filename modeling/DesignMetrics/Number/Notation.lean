import DesignMetrics.Number.Shortest

/-!
# Notation of numbers

How a binary number is written: with the digits that tell it from all others, or with a set count
of places.
-/

namespace DesignMetrics.Number

/-- The decimal digits of a natural number. -/
def digitsOf (n : Nat) : List Char :=
  Nat.toDigits 10 n

/-- The digits with zeros in front up to a width. -/
def padded (width n : Nat) : List Char :=
  let ds := digitsOf n
  List.replicate (width - ds.length) '0' ++ ds

/-- Positional notation of `0.ds * 10 ^ point`, with at least one digit on either side of the
point. -/
def positional (ds : List Char) (point : Int) : List Char :=
  if point ≤ 0 then '0' :: '.' :: List.replicate (-point).toNat '0' ++ ds
  else
    let whole := ds.take point.toNat ++ List.replicate (point.toNat - ds.length) '0'
    let part := ds.drop point.toNat
    whole ++ '.' :: (if part.isEmpty then ['0'] else part)

/-- Scientific notation: one digit before the point, a signed exponent of at least two digits. -/
def scientific (ds : List Char) (exponent : Int) : List Char :=
  let mantissa :=
    match ds with
    | d :: rest@(_ :: _) => d :: '.' :: rest
    | ds => ds
  mantissa ++ 'e' :: (if exponent < 0 then '-' else '+') :: padded 2 exponent.natAbs

namespace Binary64

/-- The fewest digits that read back as the number, positional from `0.0001` to below
`10 ^ 16`. -/
def toText (x : Binary64) : String :=
  let sign := if x.negative then ['-'] else []
  if x.significand = 0 then String.ofList (sign ++ ['0', '.', '0'])
  else
    let d := shortest x
    let ds := digitsOf d.digits
    let point := d.exponent + ds.length
    let plain := -4 < point ∧ point ≤ 16
    String.ofList (sign ++ if plain then positional ds point else scientific ds (point - 1))

/-- The number with a set count of places after the point, rounded from its exact value, a half
going to the even neighbour. -/
def toFixed (places : Nat) (x : Binary64) : String :=
  let units := roundInUnits (x.significand * Nat.pow 10 places) 1 (-x.exponent)
  let ds := padded (places + 1) units
  let sign := if x.negative then ['-'] else []
  let (whole, part) := ds.splitAt (ds.length - places)
  String.ofList (sign ++ whole ++ '.' :: part)

end Binary64
end DesignMetrics.Number
