import DesignMetrics.Source.Token

/-!
# Leading keywords

What the readers of headers share: keywords that stand in front of a declared name.
-/

namespace DesignMetrics.Source

/-- The first word and what follows the white space after it. Every keyword of a header is a word
that white space sets off from the next one. -/
def lead? : List Token → Option (String × List Token)
  | .word letters :: .blank _ :: rest => some (String.ofList letters, rest)
  | _ => none

/-- Passes over as many of the given keywords as stand in front. -/
def skipLeads (keywords : List String) : List Token → List Token
  | .word letters :: .blank spaces :: rest =>
    if String.ofList letters ∈ keywords then skipLeads keywords rest
    else .word letters :: .blank spaces :: rest
  | ts => ts

/-- The given keyword and a word after it, which is a declared name. -/
def namedBy? (keywords : List String) (ts : List Token) : Option (String × List Token) :=
  match lead? ts with
  | some (keyword, .word letters :: rest) =>
    if keyword ∈ keywords then some (String.ofList letters, rest) else none
  | _ => none

end DesignMetrics.Source
