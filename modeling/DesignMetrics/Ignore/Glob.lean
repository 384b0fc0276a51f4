/-!
# File name patterns

Patterns for a single name, with `*`, `?` and characters between brackets.
-/

namespace DesignMetrics.Ignore

/-- A part of a file name pattern. -/
inductive GlobItem where
  /-- Any number of characters other than `/`. -/
  | many
  /-- One character other than `/`. -/
  | one
  | literal (c : Char)
  /-- One character inside, or outside, the given closed ranges. -/
  | oneOf (negated : Bool) (ranges : List (Char × Char))
deriving DecidableEq, Repr

/-- Why a file name pattern means nothing. -/
inductive GlobError where
  | unclosedBracket
  | danglingEscape
deriving DecidableEq, Repr

/-- The ranges between brackets: `a-z` is a range, and any other character stands for itself. -/
def rangesOf : List Char → List (Char × Char)
  | [] => []
  | first :: '-' :: last :: rest => (first, last) :: rangesOf rest
  | c :: rest => (c, c) :: rangesOf rest

/-- Reads a bracket whose `[` was read before, and counts its characters. `!` or `^` in front
negates it, and it holds at least one character, so a `]` in the first place does not close it. -/
def bracket? (cs : List Char) : Option (GlobItem × Nat) :=
  let (negated, body) : Bool × List Char :=
    match cs with
    | '!' :: rest => (true, rest)
    | '^' :: rest => (true, rest)
    | _ => (false, cs)
  match body with
  | [] => none
  | first :: rest =>
    if rest.contains ']' then
      let content := first :: rest.takeWhile (· != ']')
      some (.oneOf negated (rangesOf content), (if negated then 1 else 0) + content.length + 1)
    else none

/-- Reads a pattern without `/`. The first `skip` characters belong to a bracket read before. -/
def globFrom : (skip : Nat) → List Char → Except GlobError (List GlobItem)
  | _, [] => .ok []
  | skip + 1, _ :: cs => globFrom skip cs
  | 0, '\\' :: cs =>
    match cs with
    | [] => .error .danglingEscape
    | c :: cs => return .literal c :: (← globFrom 0 cs)
  | 0, '[' :: cs =>
    match bracket? cs with
    | none => .error .unclosedBracket
    | some (item, size) => return item :: (← globFrom size cs)
  | 0, c :: cs =>
    let item : GlobItem := if c = '*' then .many else if c = '?' then .one else .literal c
    return item :: (← globFrom 0 cs)

/-- The items of a file name pattern. -/
def glob (cs : List Char) : Except GlobError (List GlobItem) :=
  globFrom 0 cs

namespace GlobItem

/-- Whether no range ends before it begins. -/
def rangesOrdered : GlobItem → Bool
  | .oneOf _ ranges => ranges.all fun (first, last) => first ≤ last
  | _ => true

/-- Whether the item admits the character. Items other than `many` stand for one character. -/
def admits : GlobItem → Char → Bool
  | .many, c => c != '/'
  | .one, c => c != '/'
  | .literal l, c => c == l
  | .oneOf negated ranges, c => negated != ranges.any fun (first, last) => first ≤ c && c ≤ last

end GlobItem
end DesignMetrics.Ignore
