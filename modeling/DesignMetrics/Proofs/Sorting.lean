import DesignMetrics.Sorting
import Mathlib.Data.List.Sort

/-!
# What sorting keeps

The sort is an insertion sort, so that a sorted list is the list in another order, and in order.
-/

namespace DesignMetrics

variable {α : Type}

/-- Insertion is that of the library. -/
theorem insertBy_eq_orderedInsert (le : α → α → Bool) (a : α) (as : List α) :
    insertBy le a as = as.orderedInsert (fun x y => le x y = true) a := by
  induction as with
  | nil => rfl
  | cons b bs ih =>
    show (if le a b then a :: b :: bs else b :: insertBy le a bs) = _
    rw [ih, List.orderedInsert_cons]

/-- Sorting is insertion sort. -/
theorem sortBy_eq_insertionSort (le : α → α → Bool) (as : List α) :
    sortBy le as = as.insertionSort (fun x y => le x y = true) := by
  induction as with
  | nil => rfl
  | cons a as ih =>
    show insertBy le a (sortBy le as) = _
    rw [ih, insertBy_eq_orderedInsert, List.insertionSort_cons]

theorem sortBy_perm (le : α → α → Bool) (as : List α) : (sortBy le as).Perm as := by
  rw [sortBy_eq_insertionSort]
  exact List.perm_insertionSort _ as

/-- Elements of a total order are sorted. -/
theorem pairwise_sortBy {le : α → α → Bool} (htotal : ∀ a b, le a b = true ∨ le b a = true)
    (htrans : ∀ a b c, le a b = true → le b c = true → le a c = true) (as : List α) :
    (sortBy le as).Pairwise fun a b => le a b = true := by
  have : Std.Total fun a b => le a b = true := ⟨htotal⟩
  have : IsTrans α fun a b => le a b = true := ⟨htrans⟩
  rw [sortBy_eq_insertionSort]
  exact List.pairwise_insertionSort _ as

/-- Lists with the same elements are the same list when they are sorted. -/
theorem sortBy_eq_of_perm {le : α → α → Bool}
    (htotal : ∀ a b, le a b = true ∨ le b a = true)
    (htrans : ∀ a b c, le a b = true → le b c = true → le a c = true)
    (hantisymm : ∀ a b, le a b = true → le b a = true → a = b) {as bs : List α}
    (h : as.Perm bs) : sortBy le as = sortBy le bs :=
  List.Perm.eq_of_pairwise (fun a b _ _ => hantisymm a b) (pairwise_sortBy htotal htrans as)
    (pairwise_sortBy htotal htrans bs)
    ((sortBy_perm le as).trans (h.trans (sortBy_perm le bs).symm))

/-- In a list in order, what may not stand after another element stands before it. -/
theorem exists_append_of_pairwise {R : α → α → Prop} {as : List α} {a b : α}
    (h : as.Pairwise R) (ha : a ∈ as) (hb : b ∈ as) (hne : a ≠ b) (hnot : ¬R b a) :
    ∃ early late, as = early ++ b :: late ∧ a ∈ early := by
  obtain ⟨early, late, rfl⟩ := List.append_of_mem hb
  refine ⟨early, late, rfl, ?_⟩
  obtain hearly | hlate := List.mem_append.1 ha
  · exact hearly
  obtain rfl | hlate := List.mem_cons.1 hlate
  · exact absurd rfl hne
  · exact absurd (List.rel_of_pairwise_cons (List.pairwise_append.1 h).2.1 hlate) hnot

end DesignMetrics
