import DesignMetrics.Proofs.Hierarchy.Cycle

/-!
# Depth

The depth of a class is the number of classes on its way up, if that way ends. `Classes.HasDepth`
says so one parent at a time, and `ancestry` computes it.
-/

namespace DesignMetrics
namespace Classes

/-- A class without a known parent has depth one, and any other class is one deeper than its
parent. -/
inductive HasDepth (classes : Classes) : String → Nat → Prop where
  | root {name : String} (h : classes.parent? name = none) : HasDepth classes name 1
  | child {name parent : String} {n : Nat} (h : classes.Inherits name parent)
      (hp : HasDepth classes parent n) : HasDepth classes name (n + 1)

variable {classes : Classes} {name upper : String} {m n : Nat}

namespace HasDepth

theorem pos (h : classes.HasDepth name n) : 0 < n := by
  cases h <;> omega

/-- A class has one depth. -/
theorem unique (h : classes.HasDepth name m) (h' : classes.HasDepth name n) : m = n := by
  induction h generalizing n with
  | root hroot =>
    cases h' with
    | root => rfl
    | child hp _ =>
      rw [Inherits, hroot] at hp
      cases hp
  | child hp _ ih =>
    cases h' with
    | root hroot =>
      rw [Inherits, hroot] at hp
      cases hp
    | child hp' hdepth =>
      rw [hp'.unique hp] at hdepth
      rw [ih hdepth]

/-- Depth one is that of classes without a parent. -/
theorem one_iff : classes.HasDepth name 1 ↔ classes.parent? name = none := by
  constructor
  · intro h
    cases h with
    | root hroot => exact hroot
    | child _ hdepth => exact absurd hdepth.pos (by omega)
  · exact .root

/-- Any other depth is one more than that of the parent. -/
theorem succ_succ_iff :
    classes.HasDepth name (n + 2) ↔
      ∃ p, classes.Inherits name p ∧ classes.HasDepth p (n + 1) := by
  constructor
  · intro h
    cases h with
    | child hp hdepth => exact ⟨_, hp, hdepth⟩
  · rintro ⟨p, hp, hdepth⟩
    exact .child hp hdepth

/-- With a class all classes above it have a depth. -/
theorem exists_of_reaches (h : classes.HasDepth name n) (hr : classes.Reaches name upper) :
    ∃ m, classes.HasDepth upper m := by
  induction hr with
  | refl => exact ⟨n, h⟩
  | tail _ hstep ih =>
    obtain ⟨m, hm⟩ := ih
    cases hm with
    | root hroot =>
      rw [Inherits, hroot] at hstep
      cases hstep
    | child hp hdepth =>
      rw [hstep.unique hp]
      exact ⟨_, hdepth⟩

/-- The members of a cycle have no depth. -/
theorem not_mem_of_isCycle (h : classes.HasDepth name n) {c : Cycle} (hc : classes.IsCycle c) :
    name ∉ c.members := by
  intro hmem
  induction h with
  | root hroot =>
    obtain ⟨p, -, hp⟩ := hc.exists_inherits hmem
    rw [Inherits, hroot] at hp
    cases hp
  | child hp _ ih =>
    obtain ⟨p, hpc, hp'⟩ := hc.exists_inherits hmem
    rw [hp'.unique hp] at hpc
    exact ih hpc

/-- The depth of a class is told by a way up to a class without a parent. -/
theorem of_isChain {way : List String} {root : String}
    (h : (way ++ [root]).IsChain classes.Inherits) (hstart : (way ++ [root]).head? = some name)
    (hroot : classes.parent? root = none) : classes.HasDepth name (way.length + 1) := by
  induction way generalizing name with
  | nil =>
    obtain rfl : root = name := by simpa using hstart
    exact .root hroot
  | cons x way ih =>
    obtain rfl : x = name := by simpa using hstart
    cases way with
    | nil => exact .child (List.isChain_cons_cons.1 h).1 (.root hroot)
    | cons y way =>
      have hsteps := List.isChain_cons_cons.1 h
      exact .child hsteps.1 (ih hsteps.2 rfl)

end HasDepth

/-- The ancestry of a class tells its depth. -/
theorem depth?_eq_some_iff :
    (classes.ancestry name).depth? = some n ↔ classes.HasDepth name n := by
  obtain ⟨way, last, hway, heq⟩ := classes.exists_wayUp name
  by_cases hlast : last ∈ way
  · obtain ⟨c, hc, hcycle, -, henters⟩ := hway.isCycle hlast
    rw [hc]
    constructor
    · intro h
      cases h
    · intro h
      obtain ⟨m, hm⟩ := h.exists_of_reaches henters.reaches
      exact absurd henters.2 (hm.not_mem_of_isCycle hcycle)
  · have hroot : classes.parent? last = none := hway.ends.resolve_left hlast
    have hdepth : classes.HasDepth name (way.length + 1) :=
      .of_isChain hway.ascends hway.starts hroot
    rw [heq, Ancestry.ofWay, if_neg hlast, Ancestry.depth?, List.length_append,
      List.length_singleton, Option.some.injEq]
    constructor
    · rintro rfl
      exact hdepth
    · exact hdepth.unique

end Classes
end DesignMetrics
