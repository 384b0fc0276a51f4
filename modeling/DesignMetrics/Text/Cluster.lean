import DesignMetrics.Text.Width

/-!
# Clusters

Characters that are shown together: a joiner and what it joins, a picture selector, and marks
belong to the character before them.
-/

namespace DesignMetrics.Text

/-- The zero width joiner: the character after it is shown as a part of what comes before. -/
def joiner : Char := '\u200d'

/-- The selector that shows the character before it as a picture. -/
def pictureSelector : Char := '\ufe0f'

/-- Characters that are never cut apart, and the cells that they take together. -/
structure Cluster where
  chars : List Char
  width : Nat
deriving DecidableEq, Repr

/-- The cluster with further characters. -/
def Cluster.extend (k : Cluster) (cs : List Char) (width : Nat) : Cluster :=
  ⟨k.chars ++ cs, k.width + width⟩

/-- The clusters of a text, given the cluster before it; `base` is the character in it that took
cells last, as long as no selector has followed it. -/
def clustersAfter (k : Cluster) (base : Option Char) : List Char → List Cluster
  | [] => [k]
  | c :: rest =>
    if c = joiner then
      match rest with
      | [] => [k.extend [c] 0]
      | d :: rest => clustersAfter (k.extend [c, d] 0) base rest
    else if c = pictureSelector then
      clustersAfter (k.extend [c] (if base.any widens then 1 else 0)) none rest
    else if charCells c = 0 then clustersAfter (k.extend [c] 0) base rest
    else k :: clustersAfter ⟨[c], charCells c⟩ (some c) rest

/-- The clusters of a text. What joins or selects has nothing to do so at its start. -/
def clusters : List Char → List Cluster
  | [] => []
  | c :: rest =>
    clustersAfter ⟨[c], charCells c⟩ (if charCells c = 0 then none else some c) rest

/-- The number of terminal cells of a text. A character after a joiner at the start takes none. -/
def cells : List Char → Nat
  | [] => 0
  | c :: rest =>
    if c = joiner then
      match rest with
      | [] => 0
      | _ :: rest => cells rest
    else ((clusters (c :: rest)).map Cluster.width).foldl (· + ·) 0

end DesignMetrics.Text
