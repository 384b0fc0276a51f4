/-!
# Sorting by insertion

The sort recurses on the list alone, so that sorted values can be computed in proofs.
-/

namespace DesignMetrics

variable {α : Type}

/-- Puts an element in front of the first one that it does not exceed. -/
def insertBy (le : α → α → Bool) (a : α) : List α → List α
  | [] => [a]
  | b :: bs => if le a b then a :: b :: bs else b :: insertBy le a bs

/-- Sorts by insertion; equal elements keep their order. -/
def sortBy (le : α → α → Bool) (as : List α) : List α :=
  as.foldr (insertBy le) []

end DesignMetrics
