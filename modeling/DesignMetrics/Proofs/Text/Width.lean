import DesignMetrics.Text.Cluster
import Mathlib.Data.List.Basic

/-!
# Texts of single cells

Characters that take one cell each stand alone: every one of them is a cluster of its own, and a
text takes as many cells as it has characters.
-/

namespace DesignMetrics.Text

/-- Every character takes one cell. -/
def IsSingle (cs : List Char) : Prop :=
  ∀ c ∈ cs, charCells c = 1

instance (cs : List Char) : Decidable (IsSingle cs) :=
  List.decidableBAll _ cs

variable {c d : Char} {cs ds : List Char}

theorem isSingle_cons : IsSingle (c :: cs) ↔ charCells c = 1 ∧ IsSingle cs :=
  List.forall_mem_cons

theorem IsSingle.mono (h : IsSingle cs) (hsub : ds ⊆ cs) : IsSingle ds :=
  fun d hd => h d (hsub hd)

theorem isSingle_append : IsSingle (cs ++ ds) ↔ IsSingle cs ∧ IsSingle ds :=
  List.forall_mem_append

/-- Blanks take a cell each. -/
theorem isSingle_replicate_blank (n : Nat) : IsSingle (List.replicate n ' ') := by
  intro c hc
  rw [List.eq_of_mem_replicate hc]
  rfl

/-- A character without a cell of its own does not occur. -/
theorem IsSingle.notMem (h : IsSingle cs) (hd : charCells d = 0) : d ∉ cs := by
  intro hmem
  have hone := h d hmem
  omega

/-- After a first cluster every further character begins a cluster of its own. -/
theorem clustersAfter_of_isSingle (h : IsSingle cs) (k : Cluster) (base : Option Char) :
    clustersAfter k base cs = k :: cs.map fun c => ⟨[c], 1⟩ := by
  induction cs generalizing k base with
  | nil => rfl
  | cons c rest ih =>
    have hjoiner : c ≠ joiner := by
      rintro rfl
      exact h.notMem (by decide +kernel) List.mem_cons_self
    have hselector : c ≠ pictureSelector := by
      rintro rfl
      exact h.notMem (by decide +kernel) List.mem_cons_self
    rw [isSingle_cons] at h
    rw [clustersAfter.eq_def]
    simp [hjoiner, hselector, h.1, ih h.2]

/-- The clusters of a text are its characters. -/
theorem clusters_of_isSingle (h : IsSingle cs) : clusters cs = cs.map fun c => ⟨[c], 1⟩ := by
  cases cs with
  | nil => rfl
  | cons c rest =>
    rw [isSingle_cons] at h
    rw [clusters, clustersAfter_of_isSingle h.2, h.1]
    rfl

theorem foldl_width_map (cs : List Char) (n : Nat) :
    ((cs.map fun c => (⟨[c], 1⟩ : Cluster)).map Cluster.width).foldl (· + ·) n = n + cs.length := by
  induction cs generalizing n with
  | nil => rfl
  | cons c rest ih =>
    simp only [List.map_cons, List.foldl_cons, List.length_cons, ih]
    omega

/-- A text takes as many cells as it has characters. -/
theorem cells_of_isSingle (h : IsSingle cs) : cells cs = cs.length := by
  cases cs with
  | nil => rfl
  | cons c rest =>
    have hjoiner : c ≠ joiner := by
      rintro rfl
      exact h.notMem (by decide +kernel) List.mem_cons_self
    rw [cells.eq_def]
    simp only [if_neg hjoiner]
    rw [clusters_of_isSingle h, foldl_width_map, Nat.zero_add]

end DesignMetrics.Text
