import DesignMetrics.Proofs.Hierarchy.Merge
import Mathlib.Data.List.Chain
import Mathlib.Data.List.Perm.Subperm

/-!
# The way up

`Classes.ancestry` follows the parents of a class until it meets a class without a known parent or
one that it met before. Here that way is a list of names, described without the search: there is
exactly one for every class, and `ancestry` reads its answer off it.
-/

namespace DesignMetrics

/-- What a way up says that ends at `last`: it runs into a cycle if it was there before. -/
def Ancestry.ofWay (way : List String) (last : String) : Ancestry :=
  if last ∈ way then .cyclic ⟨way.dropWhile (· != last) ++ [last]⟩ else .rooted (way ++ [last])

namespace Classes

/-- A class inherits from its parent if that is known. -/
def Inherits (classes : Classes) (name parent : String) : Prop :=
  classes.parent? name = some parent

/-- The second class lies on the way up from the first, which starts at the first itself. -/
def Reaches (classes : Classes) : String → String → Prop :=
  Relation.ReflTransGen classes.Inherits

/-- The whole way up from a class: no name comes twice before the last one, and the way ends
there because the name came before or its parent is not known. -/
structure WayUp (classes : Classes) (name : String) (way : List String) (last : String) :
    Prop where
  starts : (way ++ [last]).head? = some name
  ascends : (way ++ [last]).IsChain classes.Inherits
  nodup : way.Nodup
  ends : last ∈ way ∨ classes.parent? last = none

variable {classes : Classes}

/-! ## Parents -/

theorem parent?_eq_some_iff {name parent : String} :
    classes.parent? name = some parent ↔
      ∃ c, classes.find? name = some c ∧ c.parent = some parent ∧ parent ∈ classes.keys := by
  unfold parent?
  cases hf : classes.find? name with
  | none => simp
  | some c =>
    cases hp : c.parent with
    | none => simp [hp]
    | some p =>
      simp only [Option.bind_some, hp, ← OrderedMap.contains_iff_mem_keys]
      by_cases hc : classes.contains p <;> simp [hc] <;> grind

theorem Inherits.unique {name p q : String} (hp : classes.Inherits name p)
    (hq : classes.Inherits name q) : p = q :=
  Option.some.inj (hp.symm.trans hq)

theorem inherits_rightUnique : Relator.RightUnique classes.Inherits :=
  fun _ _ _ hp hq => hp.unique hq

theorem Inherits.mem_keys_left {name parent : String} (h : classes.Inherits name parent) :
    name ∈ classes.keys := by
  obtain ⟨c, hc, -⟩ := parent?_eq_some_iff.1 h
  exact classes.mem_keys_of_find? hc

theorem Inherits.mem_keys_right {name parent : String} (h : classes.Inherits name parent) :
    parent ∈ classes.keys := by
  obtain ⟨c, -, -, hp⟩ := parent?_eq_some_iff.1 h
  exact hp

/-- There are no more different keys than classes. -/
theorem length_le_size_of_nodup {names : List String} (h : names.Nodup)
    (hsub : names ⊆ classes.keys) : names.length ≤ classes.size := by
  rw [← classes.length_keys]
  exact (List.subperm_of_subset h hsub).length_le

/-- Two classes on the way up from a third one: one of them lies on the way up from the other. -/
theorem Reaches.total {name a b : String} (ha : classes.Reaches name a)
    (hb : classes.Reaches name b) : classes.Reaches a b ∨ classes.Reaches b a :=
  Relation.ReflTransGen.total_of_right_unique inherits_rightUnique ha hb

/-- Nothing lies above a class without a known parent. -/
theorem Reaches.eq_of_parent?_eq_none {root upper : String} (h : classes.Reaches root upper)
    (hroot : classes.parent? root = none) : upper = root := by
  rcases Relation.ReflTransGen.cases_head h with rfl | ⟨p, hp, -⟩
  · rfl
  · rw [Inherits, hroot] at hp
    cases hp

/-! ## Chains of parents -/

theorem reaches_of_isChain {name upper : String} {way : List String}
    (h : (name :: way).IsChain classes.Inherits) (hu : upper ∈ name :: way) :
    classes.Reaches name upper := by
  induction way generalizing name with
  | nil =>
    rw [List.mem_singleton] at hu
    rw [hu]
    exact .refl
  | cons p way ih =>
    rw [List.isChain_cons_cons] at h
    rcases List.mem_cons.1 hu with rfl | hu
    · exact .refl
    · exact .head h.1 (ih h.2 hu)

theorem reaches_last_of_isChain {name last : String} {way : List String}
    (h : (way ++ [last]).IsChain classes.Inherits) (hn : name ∈ way ++ [last]) :
    classes.Reaches name last := by
  obtain ⟨before, after, heq⟩ := List.append_of_mem hn
  rw [heq] at h
  have hlast : last ∈ name :: after := by
    have hl : (way ++ [last]).getLast? = some last := by simp
    rw [heq, List.getLast?_append_of_ne_nil _ (by simp)] at hl
    exact List.mem_of_getLast? hl
  exact reaches_of_isChain h.right_of_append hlast

/-- In a chain every name but the last has the next one as its parent. -/
theorem exists_inherits_of_isChain {name last : String} {way : List String}
    (h : (way ++ [last]).IsChain classes.Inherits) (hn : name ∈ way) :
    ∃ p ∈ way ++ [last], classes.Inherits name p := by
  obtain ⟨before, after, rfl⟩ := List.append_of_mem hn
  cases after with
  | nil =>
    have hs : (before ++ name :: last :: []).IsChain classes.Inherits := by simpa using h
    exact ⟨last, by simp, (List.isChain_append_cons_cons.1 hs).2.1⟩
  | cons p after =>
    have hs : (before ++ name :: p :: (after ++ [last])).IsChain classes.Inherits := by
      simpa using h
    exact ⟨p, by simp, (List.isChain_append_cons_cons.1 hs).2.1⟩

/-- Of two chains from one class, one continues the other. -/
theorem prefix_or_prefix_of_isChain {a b : List String} (ha : a.IsChain classes.Inherits)
    (hb : b.IsChain classes.Inherits) (h : a.head? = b.head?) : a <+: b ∨ b <+: a := by
  induction a generalizing b with
  | nil => exact .inl (List.nil_prefix)
  | cons x a ih =>
    cases b with
    | nil => exact .inr (List.nil_prefix)
    | cons y b =>
      obtain rfl : x = y := by simpa using h
      rw [List.prefix_cons_inj, List.prefix_cons_inj]
      cases a with
      | nil => exact .inl (List.nil_prefix)
      | cons x' a =>
        cases b with
        | nil => exact .inr (List.nil_prefix)
        | cons y' b =>
          -- both go on with the one parent of the same class
          rw [List.isChain_cons_cons] at ha hb
          obtain rfl := ha.1.unique hb.1
          exact ih ha.2 hb.2 rfl

/-! ## One way for each class -/

namespace WayUp

variable {name last last' : String} {way way' : List String}

/-- A whole way is not the beginning of a longer one. -/
theorem eq_of_prefix (h : classes.WayUp name way last) (h' : classes.WayUp name way' last')
    (hp : way ++ [last] <+: way' ++ [last']) : way ++ [last] = way' ++ [last'] := by
  by_contra hne
  have hlong : way ++ [last] <+: way' := by
    rcases List.prefix_concat_iff.1 hp with heq | hlong
    · exact absurd heq hne
    · exact hlong
  rcases h.ends with hmem | hroot
  · -- the last name would come twice before the end of the longer way
    have hn : (way ++ [last]).Nodup := h'.nodup.sublist hlong.sublist
    rw [List.nodup_append] at hn
    exact hn.2.2 last hmem last (by simp) rfl
  · have hmem : last ∈ way' := hlong.subset (by simp)
    obtain ⟨p, -, hp⟩ := exists_inherits_of_isChain h'.ascends hmem
    rw [Inherits, hroot] at hp
    cases hp

/-- There is only one whole way up from a class. -/
theorem unique (h : classes.WayUp name way last) (h' : classes.WayUp name way' last') :
    way = way' ∧ last = last' := by
  have heq : way ++ [last] = way' ++ [last'] := by
    rcases prefix_or_prefix_of_isChain h.ascends h'.ascends (h.starts.trans h'.starts.symm)
      with hp | hp
    · exact h.eq_of_prefix h' hp
    · exact (h'.eq_of_prefix h hp).symm
  simpa using List.append_inj' heq rfl

theorem reaches (h : classes.WayUp name way last) {upper : String} (hu : upper ∈ way ++ [last]) :
    classes.Reaches name upper := by
  obtain ⟨rest, hw⟩ := List.head?_eq_some_iff.1 h.starts
  have hc := h.ascends
  rw [hw] at hc hu
  exact reaches_of_isChain hc hu

end WayUp

/-! ## The search follows the way up -/

/-- The names that a search has met, the newest first: each is the parent of the one after it. -/
structure Climbed (classes : Classes) (start : String) (path : List String) : Prop where
  starts : path.getLast? = some start
  ascends : path.IsChain fun upper lower => classes.Inherits lower upper
  nodup : path.Nodup

namespace Climbed

variable {start name parent : String} {path below : List String}

theorem single (start : String) : classes.Climbed start [start] :=
  ⟨rfl, by simp, by simp⟩

theorem push (h : classes.Climbed start (name :: below)) (hp : classes.Inherits name parent)
    (hnew : parent ∉ name :: below) : classes.Climbed start (parent :: name :: below) where
  starts := by rw [List.getLast?_cons_cons]; exact h.starts
  ascends := by rw [List.isChain_cons_cons]; exact ⟨hp, h.ascends⟩
  nodup := List.nodup_cons.2 ⟨hnew, h.nodup⟩

theorem head?_reverse (h : classes.Climbed start path) : path.reverse.head? = some start := by
  rw [List.head?_reverse]
  exact h.starts

theorem isChain_reverse (h : classes.Climbed start path) :
    path.reverse.IsChain classes.Inherits := by
  rw [List.isChain_reverse]
  exact h.ascends

/-- Every name on the path but the newest has a known parent, so it is a key. -/
theorem mem_keys (h : classes.Climbed start (name :: below)) {x : String} (hx : x ∈ below) :
    x ∈ classes.keys := by
  have hc := h.isChain_reverse
  rw [List.reverse_cons] at hc
  obtain ⟨p, -, hp⟩ := exists_inherits_of_isChain hc (List.mem_reverse.2 hx)
  exact hp.mem_keys_left

/-- A path that goes on has no more names than there are keys. -/
theorem length_le (h : classes.Climbed start (name :: below)) (hp : classes.Inherits name parent) :
    (name :: below).length ≤ classes.size := by
  have hsub : name :: below ⊆ classes.keys := by
    intro x hx
    rcases List.mem_cons.1 hx with rfl | hx
    · exact hp.mem_keys_left
    · exact h.mem_keys hx
  exact length_le_size_of_nodup h.nodup hsub

/-- A search that meets no parent has gone the whole way. -/
theorem wayUp_of_root (h : classes.Climbed start (name :: below))
    (hroot : classes.parent? name = none) : classes.WayUp start below.reverse name where
  starts := by rw [← List.reverse_cons]; exact h.head?_reverse
  ascends := by rw [← List.reverse_cons]; exact h.isChain_reverse
  nodup := List.nodup_reverse.2 (List.nodup_cons.1 h.nodup).2
  ends := .inr hroot

theorem ofWay_eq_rooted (h : classes.Climbed start (name :: below)) :
    Ancestry.ofWay below.reverse name = .rooted (name :: below).reverse := by
  have hn : name ∉ below.reverse := by
    rw [List.mem_reverse]
    exact (List.nodup_cons.1 h.nodup).1
  rw [Ancestry.ofWay, if_neg hn, List.reverse_cons]

/-- A search that meets a name again has gone the whole way. -/
theorem wayUp_of_mem (h : classes.Climbed start (name :: below))
    (hp : classes.Inherits name parent) (hmem : parent ∈ name :: below) :
    classes.WayUp start (name :: below).reverse parent where
  starts := by rw [List.head?_append, h.head?_reverse]; rfl
  ascends := by
    refine h.isChain_reverse.append (List.isChain_singleton parent) ?_
    intro x hx y hy
    rw [List.getLast?_reverse] at hx
    obtain rfl : name = x := by simpa using hx
    obtain rfl : parent = y := by simpa using hy
    exact hp
  nodup := List.nodup_reverse.2 h.nodup
  ends := .inl (List.mem_reverse.2 hmem)

end Climbed

/-- A search with steps enough for all keys finds the whole way up and reports what it says. -/
theorem exists_wayUp_climb {start name : String} {below : List String} (steps : Nat)
    (h : classes.Climbed start (name :: below))
    (hsteps : classes.size < steps + (name :: below).length) :
    ∃ way last, classes.WayUp start way last ∧
      classes.climb steps (name :: below) name = .ofWay way last := by
  induction steps generalizing name below with
  | zero =>
    -- one more parent, and there would be more names on the path than keys
    have hroot : classes.parent? name = none := by
      rw [Option.eq_none_iff_forall_ne_some]
      intro p hp
      have hle := h.length_le hp
      omega
    exact ⟨_, _, h.wayUp_of_root hroot, h.ofWay_eq_rooted.symm⟩
  | succ steps ih =>
    rw [climb]
    cases hp : classes.parent? name with
    | none => exact ⟨_, _, h.wayUp_of_root hp, h.ofWay_eq_rooted.symm⟩
    | some parent =>
      by_cases hmem : parent ∈ name :: below
      · refine ⟨_, _, h.wayUp_of_mem hp hmem, ?_⟩
        rw [Ancestry.ofWay, if_pos (List.mem_reverse.2 hmem)]
        simp only [if_pos hmem]
      · simp only [if_neg hmem]
        apply ih (h.push hp hmem)
        rw [List.length_cons] at hsteps ⊢
        rw [List.length_cons]
        omega

theorem exists_wayUp (classes : Classes) (name : String) :
    ∃ way last, classes.WayUp name way last ∧ classes.ancestry name = .ofWay way last := by
  refine exists_wayUp_climb classes.size (.single name) ?_
  rw [List.length_singleton]
  exact Nat.lt_succ_self _

/-- The ancestry of a class is what its whole way up says. -/
theorem WayUp.ancestry_eq {name last : String} {way : List String}
    (h : classes.WayUp name way last) : classes.ancestry name = .ofWay way last := by
  obtain ⟨way', last', h', heq⟩ := classes.exists_wayUp name
  obtain ⟨rfl, rfl⟩ := h.unique h'
  exact heq

end Classes
end DesignMetrics
