import DesignMetrics.Text.LetterCase

/-!
# Lower case

Small letters for capitals, one or two for each. Only sigma looks at its neighbours.
-/

namespace DesignMetrics.Text

/-- A letter that has a case and is seen by its neighbours. -/
def isCased (c : Char) : Bool :=
  casedRanges.contains c.toNat

/-- A character that is passed over when the neighbours of a letter are looked at. -/
def isCaseIgnorable (c : Char) : Bool :=
  caseIgnorableRanges.contains c.toNat

/-- Whether a code point is one of the capitals of the range. -/
def CaseRange.contains (r : CaseRange) (n : Nat) : Bool :=
  r.first ≤ n && n ≤ r.last && (n - r.first) % r.step == 0

/-- The small letter of a character, or the character itself. One capital has a small letter of
two characters: the dotted capital I. -/
def smallLetter (c : Char) : List Char :=
  if c.toNat < 128 then [c.toLower]
  else if c == '\u0130' then ['i', '\u0307']
  else
    match caseRanges.find? (·.contains c.toNat) with
    | some r => [Char.ofNat (c.toNat + r.shift).toNat]
    | none => [c]

/-- A capital sigma ends its word: a cased letter stands before it and none after it. Characters
of `caseIgnorableRanges` are passed over on both sides; `before` is read backwards. -/
def endsWord (before after : List Char) : Bool :=
  let sees (cs : List Char) := ((cs.dropWhile isCaseIgnorable).head?.map isCased).getD false
  sees before && !sees after

/-- Lower case of a text, the final form of sigma included; `before` holds the text to its left,
read backwards. -/
def lowercaseAfter (before : List Char) : List Char → List Char
  | [] => []
  | c :: rest =>
    let small :=
      if c == 'Σ' then [if endsWord before rest then 'ς' else 'σ'] else smallLetter c
    small ++ lowercaseAfter (c :: before) rest

/-- Lower case of a text. -/
def lowercase (cs : List Char) : List Char :=
  lowercaseAfter [] cs

end DesignMetrics.Text
