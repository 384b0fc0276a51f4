import DesignMetrics.Source.Token

/-!
# Occurrences

Sources are not parsed. A reader is tried at each token in turn, and what it does not read is
passed over.
-/

namespace DesignMetrics.Source

/-- A place where a reader found something: the value read, the tokens it was read from, and the
tokens from there to the next such place. -/
structure Occurrence (α : Type) where
  value : α
  source : List Token
  gap : List Token

/-- Finds from left to right, without overlap, all places where `read?` succeeds. It gives back
the unread rest. The first `skip` tokens belong to the place found last. The result starts with the
tokens in front of the first place. -/
def occurrencesFrom {α : Type} (read? : List Token → Option (α × List Token)) :
    (skip : Nat) → List Token → List Token × List (Occurrence α)
  | _, [] => ([], [])
  | skip + 1, _ :: ts => occurrencesFrom read? skip ts
  | 0, t :: ts =>
    match read? (t :: ts) with
    | some (value, rest) =>
      let size := (t :: ts).length - rest.length
      let (gap, later) := occurrencesFrom read? (size - 1) ts
      ([], ⟨value, (t :: ts).take size, gap⟩ :: later)
    | none =>
      let (gap, later) := occurrencesFrom read? 0 ts
      (t :: gap, later)

/-- The places where `read?` succeeds, with the tokens in front of the first. -/
def occurrences {α : Type} (read? : List Token → Option (α × List Token)) (ts : List Token) :
    List Token × List (Occurrence α) :=
  occurrencesFrom read? 0 ts

/-- The values that `read?` finds. -/
def readAll {α : Type} (read? : List Token → Option (α × List Token)) (ts : List Token) :
    List α :=
  (occurrences read? ts).2.map Occurrence.value

end DesignMetrics.Source
