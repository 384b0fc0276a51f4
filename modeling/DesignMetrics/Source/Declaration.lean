import DesignMetrics.Source.Lead
import DesignMetrics.Source.Occurrence

/-!
# Class declarations

Class headers, and the spans of text that belong to them. A body reaches up to the next header,
since braces are not counted.
-/

namespace DesignMetrics.Source

/-- Words that may stand before `class`. -/
def classModifiers : List String :=
  ["open", "data", "sealed", "abstract", "final", "inner"]

/-- What a class header says. -/
structure Header where
  name : String
  parent : Option String
deriving DecidableEq, Repr

/-- A parent type is written with words and angle brackets. -/
def isTypePart : Token → Bool
  | .word _ => true
  | .mark c => c = '<' || c = '>'
  | .blank _ => false

def skipBlank : List Token → List Token
  | .blank _ :: rest => rest
  | ts => ts

/-- Passes over a group of arguments, which ends at the first `)`. A group that is never closed
is not passed over. -/
def skipArguments (ts : List Token) : List Token :=
  match ts with
  | .mark '(' :: rest =>
    match rest.dropWhile (· != .mark ')') with
    | _ :: rest => rest
    | [] => ts
  | _ => ts

/-- The clause after a class name: a colon, the parent type and its arguments. -/
def parentClause? (ts : List Token) : Option (String × List Token) :=
  match skipBlank ts with
  | .mark ':' :: rest =>
    let rest := skipBlank rest
    match rest.takeWhile isTypePart with
    | [] => none
    | parts => some (String.ofList (textOf parts), skipArguments (rest.dropWhile isTypePart))
  | _ => none

/-- A class header: modifiers, `class`, the name, and a parent clause if there is one. -/
def header? (ts : List Token) : Option (Header × List Token) :=
  match namedBy? ["class"] (skipLeads classModifiers ts) with
  | none => none
  | some (name, rest) =>
    match parentClause? rest with
    | some (parent, rest) => some (⟨name, some parent⟩, rest)
    | none => some (⟨name, none⟩, rest)

/-- A class as it stands in a text: the span from `start` to `stop` holds its header and, after
it, its body. Offsets count characters. -/
structure Declaration where
  name : String
  parent : Option String
  body : String
  start : Nat
  stop : Nat
deriving DecidableEq, Repr

/-- Gives headers that follow one another their offsets, the first of which is `start`. -/
def declarationsFrom (start : Nat) : List (Occurrence Header) → List Declaration
  | [] => []
  | o :: later =>
    let body := textOf o.gap
    let stop := start + (textOf o.source).length + body.length
    ⟨o.value.name, o.value.parent, String.ofList body, start, stop⟩ :: declarationsFrom stop later

/-- The class declarations of a text. Each one reaches up to the next. -/
def declarations (text : String) : List Declaration :=
  let (before, found) := occurrences header? (tokens text.toList)
  declarationsFrom (textOf before).length found

end DesignMetrics.Source
