import DesignMetrics.Proofs.Factor.Sum
import DesignMetrics.Proofs.Hierarchy.CycleReport
import Mathlib.Data.List.Rotate

/-!
# Independence of the order

The order of the classes decides in which order children and cycles are listed and where a cycle
starts, and nothing else. Classes that are shadowed by a later one of their name decide nothing.
-/

namespace DesignMetrics

/-- The same cycle, from another of its classes on. -/
def Cycle.Turned (c d : Cycle) : Prop :=
  ∃ ring ring' : List String, ring ~r ring' ∧
    c.members = ring ++ ring.head?.toList ∧ d.members = ring' ++ ring'.head?.toList

/-- A cycle that is turned has the same members. -/
theorem Cycle.Turned.mem_iff {c d : Cycle} (h : c.Turned d) (x : String) :
    x ∈ c.members ↔ x ∈ d.members := by
  obtain ⟨ring, ring', hrot, hc, hd⟩ := h
  have hclosed : ∀ l : List String, x ∈ l ++ l.head?.toList ↔ x ∈ l := by
    intro l
    rw [List.mem_append, or_iff_left_iff_imp]
    intro hx
    exact List.mem_of_head? (by simpa using hx)
  rw [hc, hd, hclosed, hclosed]
  exact hrot.mem_iff

/-- Two hierarchies that differ in nothing but order. -/
structure Hierarchy.Agree (h h' : Hierarchy) : Prop where
  classes : ∀ name, h.classes.find? name = h'.classes.find? name
  positions : ∀ name, h.positions.find? name = h'.positions.find? name
  children : ∀ name, Option.Rel List.Perm (h.children.find? name) (h'.children.find? name)
  cycles : ∃ between, h.cycles.Perm between ∧ List.Forall₂ Cycle.Turned between h'.cycles

/-- Lists whose elements are paired off by a relation hold partners in some order. -/
theorem exists_perm_forall₂ {α β : Type} [Nonempty α] {R : α → β → Prop} {as : List α}
    {bs : List β} (has : as.Nodup) (hbs : bs.Nodup) (hleft : ∀ a ∈ as, ∃ b ∈ bs, R a b)
    (hright : ∀ b ∈ bs, ∃ a ∈ as, R a b)
    (hunique : ∀ a ∈ as, ∀ a' ∈ as, ∀ b ∈ bs, R a b → R a' b → a = a')
    (hunique' : ∀ a ∈ as, ∀ b ∈ bs, ∀ b' ∈ bs, R a b → R a b' → b = b') :
    ∃ between, as.Perm between ∧ List.Forall₂ R between bs := by
  choose! partner hmem hpartner using hright
  refine ⟨bs.map partner, ?_, ?_⟩
  · have hnodup : (bs.map partner).Nodup := by
      refine hbs.map_on fun b hb b' hb' he => ?_
      refine hunique' (partner b) (hmem b hb) b hb b' hb' (hpartner b hb) ?_
      rw [he]
      exact hpartner b' hb'
    rw [List.perm_ext_iff_of_nodup has hnodup]
    intro a
    rw [List.mem_map]
    constructor
    · intro ha
      obtain ⟨b, hb, hab⟩ := hleft a ha
      exact ⟨b, hb, hunique _ (hmem b hb) a ha b hb (hpartner b hb) hab⟩
    · rintro ⟨b, hb, rfl⟩
      exact hmem b hb
  · rw [List.forall₂_map_left_iff, List.forall₂_same]
    exact hpartner

namespace Classes

variable {classes classes' : Classes} {c d : Cycle}

/-! ## Turning a cycle -/

/-- A cycle can be read from any of its classes on. -/
theorem IsCycle.exists_turned (hc : classes.IsCycle c) {start : String}
    (hs : start ∈ c.members) :
    ∃ d, classes.IsCycle d ∧ d.members.head? = some start ∧ c.Turned d := by
  cases hc with
  | @intro first ring hnodup hascends =>
    obtain ⟨before, after, hring⟩ := List.append_of_mem (mem_closed_iff.1 hs)
    have hrot : (first :: ring) ~r (start :: after ++ before) := by
      rw [hring]
      exact List.isRotated_append
    refine ⟨⟨start :: (after ++ before) ++ [start]⟩, .intro (hrot.nodup_iff.1 hnodup) ?_, rfl,
      first :: ring, start :: (after ++ before), hrot, rfl, rfl⟩
    rw [hring] at hascends
    cases before with
    | nil =>
      obtain rfl : first = start := by simpa using congrArg List.head? hring
      simpa using hascends
    | cons x before =>
      -- the two halves of the cycle change places
      obtain rfl : first = x := by simpa using congrArg List.head? hring
      rw [List.append_assoc, show start :: after ++ [first] = start :: (after ++ [first]) from rfl,
        List.isChain_split] at hascends
      have hjoined : ((start :: after) ++ first :: (before ++ [start])).IsChain
          classes.Inherits := by
        rw [List.isChain_split]
        exact ⟨by simpa using hascends.2, by simpa using hascends.1⟩
      simpa using hjoined

/-- Cycles with a common class are the same but for the class they start from. -/
theorem IsCycle.turned (hc : classes.IsCycle c) (hd : classes.IsCycle d)
    (h : ∀ x, x ∈ c.members ↔ x ∈ d.members) : c.Turned d := by
  obtain ⟨start, hmem, hstart⟩ := hd.exists_head
  obtain ⟨e, he, hstart', hturned⟩ := hc.exists_turned ((h start).2 hmem)
  have heq := (he.ancestry_head hstart').symm.trans (hd.ancestry_head hstart)
  rwa [← Ancestry.cyclic.inj heq]

/-- No cycle is reported twice. -/
theorem nodup_cycles (classes : Classes) : classes.cycles.Nodup := by
  refine (Cycle.pairwise_distinct _).imp ?_
  rintro c d hne rfl
  rw [c.sameMembers_refl] at hne
  cases hne

/-- Where each reported cycle of one list is turned to one of the other and back, the lists differ
in nothing but order and where the cycles start. -/
theorem exists_perm_turned {cs ds : List Cycle} (hcs : cs.Sublist classes.cycles)
    (hds : ds.Sublist classes'.cycles) (hleft : ∀ c ∈ cs, ∃ d ∈ ds, c.Turned d)
    (hright : ∀ d ∈ ds, ∃ c ∈ cs, c.Turned d) :
    ∃ between, cs.Perm between ∧ List.Forall₂ Cycle.Turned between ds := by
  have : Nonempty Cycle := ⟨⟨[]⟩⟩
  apply exists_perm_forall₂ ((nodup_cycles classes).sublist hcs)
    ((nodup_cycles classes').sublist hds) hleft hright
  · intro c hc c' hc' d _ hcd hcd'
    exact eq_of_mem_cycles (hcs.subset hc) (hcs.subset hc') fun x =>
      (hcd.mem_iff x).trans (hcd'.mem_iff x).symm
  · intro c _ d hd d' hd' hcd hcd'
    exact eq_of_mem_cycles (hds.subset hd) (hds.subset hd') fun x =>
      (hcd.mem_iff x).symm.trans (hcd'.mem_iff x)

/-! ## Classes with the same look-ups -/

section

variable (h : ∀ name, classes.find? name = classes'.find? name)
include h

/-- The same classes have the same parents. -/
theorem parent?_congr : classes.parent? = classes'.parent? := by
  funext name
  unfold parent? OrderedMap.contains
  rw [show classes.find? = classes'.find? from funext h]

theorem inherits_congr : classes.Inherits = classes'.Inherits := by
  unfold Inherits
  rw [parent?_congr h]

/-- They run in the same cycles. -/
theorem isCycle_congr : classes.IsCycle c ↔ classes'.IsCycle c := by
  have hi := inherits_congr h
  constructor
  · rintro ⟨hnodup, hascends⟩
    exact .intro hnodup (hi ▸ hascends)
  · rintro ⟨hnodup, hascends⟩
    exact .intro hnodup (hi ▸ hascends)

/-- A climb takes the same steps. -/
theorem climb_congr (steps : Nat) (path : List String) (name : String) :
    classes.climb steps path name = classes'.climb steps path name := by
  induction steps generalizing path name with
  | zero => rfl
  | succ steps ih =>
    rw [climb, climb, parent?_congr h]
    simp only [ih]

theorem ancestry_congr (name : String) : classes.ancestry name = classes'.ancestry name := by
  have hsize : classes.size = classes'.size := (OrderedMap.entries_perm h).length_eq
  rw [ancestry, ancestry, hsize, climb_congr h]

/-- A class has the same children, in some order. -/
theorem childrenOf_perm (parent : String) :
    (classes.childrenOf parent).Perm (classes'.childrenOf parent) := by
  have hkeys : parent ∈ classes.keys ↔ parent ∈ classes'.keys := (OrderedMap.keys_perm h).mem_iff
  unfold childrenOf
  simp only [hkeys]
  exact ((OrderedMap.values_perm h).filter _).map _

/-- Every class adds the same to the sums. -/
theorem shareOf_congr : classes.shareOf = classes'.shareOf := by
  funext c
  unfold shareOf
  rw [(childrenOf_perm h c.name).length_eq]
  congr 1
  show c.parent.bind classes.find? = c.parent.bind classes'.find?
  rw [show classes.find? = classes'.find? from funext h]

/-- The sums do not depend on the order of the classes. -/
theorem sums_congr (hk : classes.Keyed) (hk' : classes'.Keyed) :
    Factor.sums (Hierarchy.ofClasses classes) = Factor.sums (Hierarchy.ofClasses classes') := by
  rw [hk.sums_eq, hk'.sums_eq, shareOf_congr h]
  congr 1
  refine ((OrderedMap.values_perm h).map _).foldl_eq' ?_ _
  exact fun x _ y _ z => Factors.add_right_comm z x y

/-- The same cycles are reported up to order and start. -/
theorem cycles_turned :
    ∃ between, classes.cycles.Perm between ∧ List.Forall₂ Cycle.Turned between classes'.cycles := by
  refine exists_perm_turned (List.Sublist.refl classes.cycles) (List.Sublist.refl classes'.cycles)
    ?_ ?_
  · intro c hc
    have hcycle := (isCycle_congr h).1 (isCycle_of_mem_cycles hc)
    obtain ⟨d, hd, hsame⟩ := exists_mem_cycles hcycle
    exact ⟨d, hd, hcycle.turned (isCycle_of_mem_cycles hd) hsame⟩
  · intro d hd
    have hcycle := (isCycle_congr h).2 (isCycle_of_mem_cycles hd)
    obtain ⟨c, hc, hsame⟩ := exists_mem_cycles hcycle
    exact ⟨c, hc, (isCycle_of_mem_cycles hc).turned hcycle fun x => (hsame x).symm⟩

/-- Hierarchies of the same classes agree. -/
theorem agree_ofClasses :
    (Hierarchy.ofClasses classes).Agree (Hierarchy.ofClasses classes') where
  classes := h
  positions name := by
    rw [find?_positions, find?_positions, h]
    congr 1
    funext _
    unfold position
    rw [ancestry_congr h, find?_children, find?_children, (childrenOf_perm h name).length_eq]
  children name := by
    show Option.Rel List.Perm (classes.children.find? name) (classes'.children.find? name)
    have hperm := childrenOf_perm h name
    rw [find?_children_eq_ite, find?_children_eq_ite]
    -- a parent without children is listed on neither side
    by_cases hnil : classes.childrenOf name = []
    · have hnil' : classes'.childrenOf name = [] := by
        rw [hnil] at hperm
        exact hperm.nil_eq.symm
      rw [if_pos hnil, if_pos hnil']
      exact .none
    · have hnil' : classes'.childrenOf name ≠ [] := by
        intro he
        rw [he] at hperm
        exact hnil hperm.eq_nil
      rw [if_neg hnil, if_neg hnil']
      exact .some hperm
  cycles := cycles_turned h

end

end Classes

/-- Lists of classes in which every name has the same last class give hierarchies that differ in
nothing but order, and the same factors. -/
theorem agree_of_latest?_eq {infos infos' : List ClassInfo}
    (h : ∀ name, Classes.latest? infos name = Classes.latest? infos' name) :
    (Hierarchy.ofInfos infos).Agree (Hierarchy.ofInfos infos') ∧
    (∃ sums, Factor.sums (Hierarchy.ofInfos infos) = .ok sums ∧
      Factor.sums (Hierarchy.ofInfos infos') = .ok sums) ∧
    Factor.ofHierarchy (Hierarchy.ofInfos infos) =
      Factor.ofHierarchy (Hierarchy.ofInfos infos') := by
  have hk := Classes.keyed_ofInfos infos
  have hk' := Classes.keyed_ofInfos infos'
  have hfind : ∀ name,
      (Classes.ofInfos infos).find? name = (Classes.ofInfos infos').find? name := by
    intro name
    rw [Classes.find?_ofInfos, Classes.find?_ofInfos, h]
  have hsums := Classes.sums_congr hfind hk hk'
  refine ⟨Classes.agree_ofClasses hfind, ⟨_, hk.sums_eq, hsums ▸ hk.sums_eq⟩, ?_⟩
  show (Factor.sums _ >>= Factor.scores) = (Factor.sums _ >>= Factor.scores)
  exact congrArg (· >>= Factor.scores) hsums

/-- A list with a shadowed class, and a list without it in another order. -/
theorem agree_shadowed_and_rearranged :
    let infos : List ClassInfo := [{ name := "A" }, { name := "B", parent := some "A" },
      { name := "A", parent := some "B" }, { name := "C", parent := some "A" }]
    let infos' : List ClassInfo := [{ name := "C", parent := some "A" },
      { name := "A", parent := some "B" }, { name := "B", parent := some "A" }]
    (∀ name, Classes.latest? infos name = Classes.latest? infos' name) ∧
    (Hierarchy.ofInfos infos).Agree (Hierarchy.ofInfos infos') ∧
    (∃ sums, Factor.sums (Hierarchy.ofInfos infos) = .ok sums ∧
      Factor.sums (Hierarchy.ofInfos infos') = .ok sums) ∧
    Factor.ofHierarchy (Hierarchy.ofInfos infos) =
      Factor.ofHierarchy (Hierarchy.ofInfos infos') := by
  intro infos infos'
  have h : ∀ name, Classes.latest? infos name = Classes.latest? infos' name := by
    intro name
    by_cases hA : "A" = name
    · subst hA
      rfl
    · by_cases hB : "B" = name
      · subst hB
        rfl
      · by_cases hC : "C" = name
        · subst hC
          rfl
        · simp [Classes.latest?, infos, infos', hA, hB, hC]
  exact ⟨h, agree_of_latest?_eq h⟩

end DesignMetrics
