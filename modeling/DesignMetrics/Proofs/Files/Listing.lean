import DesignMetrics.Proofs.Files.Walk
import DesignMetrics.Proofs.OrderedMap
import Mathlib.Data.String.Basic

/-!
# The order in which files are listed

The names in a directory are sorted by their code points whenever they are asked for. The order in
which a tree lists its entries therefore decides nothing: walks end in the same places, directories
show the same names in the same order, and files are read in the same way.
-/

namespace DesignMetrics

namespace Files.Tree

/-- Nothing stands at a place twice, and no name has a slash in it. -/
structure Proper (t : Tree) : Prop where
  nodup : (t.entries.map Prod.fst).Nodup
  no_slash : ∀ e ∈ t.entries, ∀ name ∈ e.1.getLast?, '/' ∉ name.toList

instance (t : Tree) : Decidable t.Proper :=
  decidable_of_iff
    ((t.entries.map Prod.fst).Nodup ∧ ∀ e ∈ t.entries, ∀ name ∈ e.1.getLast?, '/' ∉ name.toList)
    ⟨fun h => ⟨h.1, h.2⟩, fun h => ⟨h.nodup, h.no_slash⟩⟩

/-- The same entries, listed in one order and in another one. -/
structure Rearranged (t t' : Tree) : Prop where
  nodup : (t.entries.map Prod.fst).Nodup
  perm : t'.entries.Perm t.entries

variable {t t' : Tree} {l : Location} {name : String} {p : Path}

/-! ## Names in a directory -/

/-- The names in a directory are sorted. -/
theorem namesIn_sorted (l : Location) : (t.namesIn l).Pairwise (· ≤ ·) := by
  have hsorted : (t.namesIn l).Pairwise fun a b => decide (a ≤ b) = true := by
    refine pairwise_sortBy ?_ ?_ _
    · intro a b
      simpa only [decide_eq_true_eq] using le_total a b
    · intro a b c
      simpa only [decide_eq_true_eq] using le_trans
  simpa only [decide_eq_true_eq] using hsorted

/-- Names stand in the order of their code points, each once. -/
theorem pairwise_namesIn (hnodup : (t.entries.map Prod.fst).Nodup) (l : Location) :
    (t.namesIn l).Pairwise (· < ·) :=
  (namesIn_sorted l).imp₂ (fun _ _ => lt_of_le_of_ne) (nodup_namesIn hnodup l)

/-- No name in a directory has a slash in it. -/
theorem Proper.no_slash_of_mem_namesIn (h : t.Proper) (hname : name ∈ t.namesIn l) :
    '/' ∉ name.toList := by
  rw [mem_namesIn, Option.isSome_iff_exists] at hname
  obtain ⟨n, hn⟩ := hname
  refine h.no_slash _ (mem_entries_of_node? (by simp) hn) name ?_
  rw [List.getLast?_concat]
  rfl

namespace Rearranged

variable (h : t.Rearranged t')
include h

/-- At every location stands the same. -/
theorem node?_eq (l : Location) : t'.node? l = t.node? l := by
  rw [node?, node?, ← OrderedMap.lookup_eq_of_perm h.nodup h.perm.symm]

/-- A directory shows the same names in the same order, since they are sorted. -/
theorem namesIn_eq (l : Location) : t'.namesIn l = t.namesIn l := by
  refine sortBy_eq_of_perm ?_ ?_ ?_ (h.perm.filterMap _)
  · intro a b
    simpa only [decide_eq_true_eq] using le_total a b
  · intro a b c
    simpa only [decide_eq_true_eq] using le_trans
  · intro a b
    simpa only [decide_eq_true_eq] using le_antisymm

theorem linksIn_eq (l : Location) : t'.linksIn l = t.linksIn l := by
  simp only [linksIn, h.namesIn_eq, h.node?_eq]

/-- The same directories lie below a location, in some order. -/
theorem directoriesBelow_perm (l : Location) :
    (t'.directoriesBelow l).Perm (t.directoriesBelow l) :=
  (h.perm.filterMap _).cons []

/-! ## Walks -/

theorem stepAlong_eq (purpose : Purpose) (follow : Location → List String → Except Obstacle Place)
    (here : Location) (names : List String) :
    t'.stepAlong purpose follow here names = t.stepAlong purpose follow here names := by
  induction names generalizing here with
  | nil => rfl
  | cons name names ih => simp only [stepAlong, h.node?_eq, ih]

/-- A walk ends at the same place, however many links it may follow. -/
theorem walkWithin_eq (purpose : Purpose) (links : Nat) :
    t'.walkWithin purpose links = t.walkWithin purpose links := by
  induction links with
  | zero => rfl
  | succ links ih =>
    funext here names
    rw [walkWithin, walkWithin, ih]
    exact h.stepAlong_eq purpose _ here names

/-- A path leads to the same place. -/
theorem walk_eq (purpose : Purpose) (p : Path) : t'.walk purpose p = t.walk purpose p := by
  rw [walk, walk, h.walkWithin_eq]

/-! ## What paths lead to -/

theorem find_eq (p : Path) : t'.find p = t.find p := by
  rw [find, find, h.walk_eq]

theorem find?_eq (p : Path) : t'.find? p = t.find? p := by
  rw [find?, find?, h.find_eq]

theorem isDirectory_eq (p : Path) : t'.isDirectory p = t.isDirectory p := by
  rw [isDirectory, isDirectory, h.find?_eq]

theorem contains_eq (p : Path) : t'.contains p = t.contains p := by
  rw [contains, contains, h.find?_eq]

theorem isLink_eq (p : Path) : t'.isLink p = t.isLink p := by
  rw [isLink, isLink, h.walk_eq]

theorem list_eq (p : Path) : t'.list p = t.list p := by
  simp only [list, h.walk_eq, h.namesIn_eq]

theorem inspect_eq (p : Path) (links : List String) : t'.inspect p links = t.inspect p links := by
  simp only [inspect, h.find?_eq]

/-- The same text is read, or reading fails for the same reason. -/
theorem readText_eq (p : Path) : t'.readText p = t.readText p := by
  simp only [readText, readBytes, h.find_eq]

end Rearranged

end Files.Tree
end DesignMetrics
