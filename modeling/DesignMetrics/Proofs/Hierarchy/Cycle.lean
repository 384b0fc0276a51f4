import DesignMetrics.Proofs.Hierarchy.Ascent

/-!
# Cycles among classes

A cycle lists classes each of which is the parent of the one before, and ends where it starts. The
members of a cycle are all that lies above any one of them, so two cycles have the same members or
none in common. A way up that meets a member of a cycle runs into that cycle, and `ancestry`
reports it from the place where the way enters it.
-/

namespace DesignMetrics
namespace Classes

/-- A closed way up: no name comes twice, except that the first one stands again at the end. -/
inductive IsCycle (classes : Classes) : Cycle → Prop where
  | intro {first : String} {ring : List String} (nodup : (first :: ring).Nodup)
      (ascends : (first :: ring ++ [first]).IsChain classes.Inherits) :
      IsCycle classes ⟨first :: ring ++ [first]⟩

/-- The way up from `name` enters a cycle at `first`: no class that it meets before is in it. -/
def Enters (classes : Classes) (name : String) (c : Cycle) (first : String) : Prop :=
  Relation.ReflTransGen (fun a b => a ∉ c.members ∧ classes.Inherits a b) name first ∧
    first ∈ c.members

variable {classes : Classes}

/-! ## Members of a cycle -/

theorem mem_closed_iff {first x : String} {ring : List String} :
    x ∈ first :: ring ++ [first] ↔ x ∈ first :: ring := by
  rw [List.mem_append, List.mem_singleton, List.mem_cons]
  tauto

namespace IsCycle

variable {c d : Cycle} {x y : String}

theorem exists_head (hc : classes.IsCycle c) :
    ∃ first ∈ c.members, c.members.head? = some first := by
  cases hc with
  | @intro first ring _ _ => exact ⟨first, by simp, rfl⟩

/-- In a cycle every member has its parent. -/
theorem exists_inherits (hc : classes.IsCycle c) (hx : x ∈ c.members) :
    ∃ p ∈ c.members, classes.Inherits x p := by
  cases hc with
  | @intro first ring _ hascends =>
    exact exists_inherits_of_isChain hascends (mem_closed_iff.1 hx)

theorem mem_keys (hc : classes.IsCycle c) (hx : x ∈ c.members) : x ∈ classes.keys := by
  obtain ⟨p, -, hp⟩ := hc.exists_inherits hx
  exact hp.mem_keys_left

/-- A way up never leaves a cycle. -/
theorem mem_of_reaches (hc : classes.IsCycle c) (hx : x ∈ c.members)
    (h : classes.Reaches x y) : y ∈ c.members := by
  induction h with
  | refl => exact hx
  | tail _ hstep ih =>
    obtain ⟨p, hp, hstep'⟩ := hc.exists_inherits ih
    rw [hstep.unique hstep']
    exact hp

/-- Each member of a cycle is reached from every other. -/
theorem reaches (hc : classes.IsCycle c) (hx : x ∈ c.members) (hy : y ∈ c.members) :
    classes.Reaches x y := by
  cases hc with
  | @intro first ring _ hascends =>
    have hup : classes.Reaches x first := reaches_last_of_isChain hascends hx
    have hdown : classes.Reaches first y := reaches_of_isChain hascends hy
    exact hup.trans hdown

/-- The members of a cycle are all that lies above any one of them. -/
theorem mem_iff_reaches (hc : classes.IsCycle c) (hx : x ∈ c.members) :
    y ∈ c.members ↔ classes.Reaches x y :=
  ⟨hc.reaches hx, hc.mem_of_reaches hx⟩

/-- Cycles with a common member have the same members. -/
theorem mem_iff_of_common (hc : classes.IsCycle c) (hd : classes.IsCycle d)
    (hxc : x ∈ c.members) (hxd : x ∈ d.members) : y ∈ c.members ↔ y ∈ d.members := by
  rw [hc.mem_iff_reaches hxc, hd.mem_iff_reaches hxd]

end IsCycle

/-! ## Ways that run into a cycle -/

theorem enters_of_isChain {c : Cycle} {name first : String} {before : List String}
    (h : (before ++ [first]).IsChain classes.Inherits)
    (hstart : (before ++ [first]).head? = some name) (hbefore : ∀ x ∈ before, x ∉ c.members)
    (hfirst : first ∈ c.members) : classes.Enters name c first := by
  induction before generalizing name with
  | nil =>
    obtain rfl : first = name := by simpa using hstart
    exact ⟨.refl, hfirst⟩
  | cons x before ih =>
    obtain rfl : x = name := by simpa using hstart
    rw [List.cons_append, List.isChain_cons] at h
    have hhead : ∃ p, (before ++ [first]).head? = some p := by
      rw [← Option.isSome_iff_exists, List.isSome_head?]
      simp
    obtain ⟨p, hp⟩ := hhead
    obtain ⟨hsteps, -⟩ := ih h.2 hp fun y hy => hbefore y (List.mem_cons_of_mem x hy)
    exact ⟨.head ⟨hbefore x List.mem_cons_self, h.1 p hp⟩ hsteps, hfirst⟩

theorem Enters.reaches {name first : String} {c : Cycle} (h : classes.Enters name c first) :
    classes.Reaches name first :=
  Relation.ReflTransGen.mono (fun _ _ hstep => hstep.2) name first h.1

theorem dropWhile_ne_eq {before ring : List String} {first : String} (h : first ∉ before) :
    (before ++ first :: ring).dropWhile (· != first) = first :: ring := by
  rw [List.dropWhile_append_of_pos, List.dropWhile_cons_of_neg]
  · simp
  · intro x hx
    rw [bne_iff_ne]
    intro he
    exact h (he ▸ hx)

/-- A whole way that ends at a name it met before has a cycle at its end. -/
theorem WayUp.isCycle {name last : String} {way : List String}
    (h : classes.WayUp name way last) (hlast : last ∈ way) :
    ∃ c, classes.ancestry name = .cyclic c ∧ classes.IsCycle c ∧
      c.members.head? = some last ∧ classes.Enters name c last := by
  -- the tail stands before the place where the last name came first
  obtain ⟨before, ring, hway⟩ := List.append_of_mem hlast
  have hnodup := h.nodup
  have hascends := h.ascends
  have hstarts := h.starts
  rw [hway] at hnodup hascends hstarts
  rw [List.append_assoc] at hascends hstarts
  obtain ⟨-, hring, hdisjoint⟩ := List.nodup_append.1 hnodup
  have hbefore : last ∉ before := fun hmem => hdisjoint last hmem last List.mem_cons_self rfl
  refine ⟨⟨last :: ring ++ [last]⟩, ?_, .intro hring hascends.right_of_append, rfl, ?_⟩
  · rw [h.ancestry_eq, Ancestry.ofWay, if_pos hlast, hway, dropWhile_ne_eq hbefore]
  · have hup : (before ++ [last]).IsChain classes.Inherits := by
      rw [List.cons_append, List.isChain_split] at hascends
      exact hascends.1
    apply enters_of_isChain hup
    · cases before <;> simpa using hstarts
    · intro x hx hmem
      exact hdisjoint x hx x (mem_closed_iff.1 hmem) rfl
    · simp

/-- What `ancestry` says of a class above which there is a cycle. -/
theorem isCycle_of_ancestry {name : String} {c : Cycle}
    (h : classes.ancestry name = .cyclic c) :
    classes.IsCycle c ∧ ∃ first, c.members.head? = some first ∧ classes.Enters name c first := by
  obtain ⟨way, last, hway, heq⟩ := classes.exists_wayUp name
  by_cases hlast : last ∈ way
  · obtain ⟨d, hd, hcycle, hfirst, henters⟩ := hway.isCycle hlast
    rw [h] at hd
    obtain rfl := Ancestry.cyclic.inj hd
    exact ⟨hcycle, last, hfirst, henters⟩
  · rw [heq, Ancestry.ofWay, if_neg hlast] at h
    cases h

/-- A class below a cycle is found to run into it. -/
theorem exists_ancestry_of_reaches {name x : String} {c : Cycle} (hc : classes.IsCycle c)
    (hx : x ∈ c.members) (h : classes.Reaches name x) :
    ∃ d, classes.ancestry name = .cyclic d ∧ classes.IsCycle d ∧
      ∀ y, y ∈ c.members ↔ y ∈ d.members := by
  obtain ⟨way, last, hway, -⟩ := classes.exists_wayUp name
  have hlast : classes.Reaches name last := hway.reaches (by simp)
  rcases hway.ends with hmem | hroot
  · obtain ⟨d, hd, hcycle, hfirst, -⟩ := hway.isCycle hmem
    have hlastd : last ∈ d.members := List.mem_of_head? hfirst
    refine ⟨d, hd, hcycle, fun y => ?_⟩
    -- one of the two cycles lies above a member of the other, and so they meet
    rcases h.total hlast with hxl | hlx
    · exact hc.mem_iff_of_common hcycle (hc.mem_of_reaches hx hxl) hlastd
    · exact hc.mem_iff_of_common hcycle hx (hcycle.mem_of_reaches hlastd hlx)
  · -- a class without a parent can neither be in the cycle nor lie below it
    have hlastc : last ∈ c.members := by
      rcases h.total hlast with hxl | hlx
      · exact hc.mem_of_reaches hx hxl
      · rw [← hlx.eq_of_parent?_eq_none hroot]
        exact hx
    obtain ⟨p, -, hp⟩ := hc.exists_inherits hlastc
    rw [Inherits, hroot] at hp
    cases hp

/-- A cycle is the ancestry of the class at which it starts. -/
theorem IsCycle.ancestry_head {c : Cycle} (hc : classes.IsCycle c) {first : String}
    (hfirst : c.members.head? = some first) : classes.ancestry first = .cyclic c := by
  cases hc with
  | @intro first' ring hnodup hascends =>
    obtain rfl : first' = first := by simpa using hfirst
    have hway : classes.WayUp first' (first' :: ring) first' :=
      ⟨rfl, hascends, hnodup, .inl List.mem_cons_self⟩
    rw [hway.ancestry_eq, Ancestry.ofWay, if_pos List.mem_cons_self,
      List.dropWhile_cons_of_neg (by simp)]

end Classes
end DesignMetrics
