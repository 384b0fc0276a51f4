import DesignMetrics.Proofs.Hierarchy.Depth
import DesignMetrics.Proofs.Hierarchy.Links

/-!
# Levels

A hierarchy can be read downwards, from the classes without a known parent to their children and on.
The level at which a class is met on this way is the depth that was computed for it upwards.
-/

namespace DesignMetrics

/-- The first level holds the classes whose parent is not known, and every other level the children
of the one before. -/
def Hierarchy.level (h : Hierarchy) : Nat → List String
  | 0 => []
  | 1 => (h.classes.values.filter fun c => (h.parentOf? c).isNone).map ClassInfo.name
  | k + 2 => (level h (k + 1)).flatMap fun name => (h.children.find? name).getD []

namespace Classes

variable {classes : Classes}

/-- The name of the known parent is that of the class found as the parent. -/
theorem Keyed.parent?_eq (hk : classes.Keyed) {name : String} {c : ClassInfo}
    (hc : classes.find? name = some c) :
    classes.parent? name = ((Hierarchy.ofClasses classes).parentOf? c).map ClassInfo.name := by
  show _ = (c.parent.bind classes.find?).map ClassInfo.name
  rw [parent?, hc, Option.bind_some]
  cases hp : c.parent with
  | none => rfl
  | some p =>
    cases hf : classes.find? p with
    | none => simp [OrderedMap.contains, hf]
    | some d => simp [OrderedMap.contains, hf, hk p d hf]

theorem Keyed.mem_level_one (hk : classes.Keyed) {name : String} :
    name ∈ (Hierarchy.ofClasses classes).level 1 ↔
      name ∈ classes.keys ∧ classes.parent? name = none := by
  rw [Hierarchy.level, List.mem_map]
  constructor
  · rintro ⟨c, hc, rfl⟩
    obtain ⟨hmem, hnone⟩ := List.mem_filter.1 hc
    have hfind : classes.find? c.name = some c := hk.mem_values_iff.1 hmem
    refine ⟨classes.mem_keys_of_find? hfind, ?_⟩
    rw [hk.parent?_eq hfind, Option.isNone_iff_eq_none.1 hnone]
    rfl
  · rintro ⟨hkey, hnone⟩
    obtain ⟨c, hfind⟩ := classes.mem_keys_iff.1 hkey
    have hname : c.name = name := hk name c hfind
    refine ⟨c, List.mem_filter.2 ⟨hk.mem_values_iff.2 (by rwa [hname]), ?_⟩, hname⟩
    rw [hk.parent?_eq hfind, Option.map_eq_none_iff] at hnone
    rw [hnone]
    rfl

/-- A class stands on the level of its depth. -/
theorem Keyed.mem_level_iff (hk : classes.Keyed) {name : String} {k : Nat} :
    name ∈ (Hierarchy.ofClasses classes).level k ↔
      name ∈ classes.keys ∧ classes.HasDepth name k := by
  -- by the levels: each but the first holds the children of the one above it
  induction k generalizing name with
  | zero =>
    constructor
    · intro h
      cases h
    · rintro ⟨-, h⟩
      exact absurd h.pos (Nat.lt_irrefl 0)
  | succ k ih =>
    cases k with
    | zero => rw [hk.mem_level_one, HasDepth.one_iff]
    | succ k =>
      rw [Hierarchy.level, List.mem_flatMap, HasDepth.succ_succ_iff]
      constructor
      · rintro ⟨p, hp, hchild⟩
        rw [show (Hierarchy.ofClasses classes).children = classes.children from rfl,
          find?_children, hk.mem_childrenOf] at hchild
        exact ⟨hchild.mem_keys_left, p, hchild, (ih.1 hp).2⟩
      · rintro ⟨-, p, hchild, hp⟩
        refine ⟨p, ih.2 ⟨hchild.mem_keys_right, hp⟩, ?_⟩
        rw [show (Hierarchy.ofClasses classes).children = classes.children from rfl,
          find?_children, hk.mem_childrenOf]
        exact hchild

theorem Keyed.nodup_level (hk : classes.Keyed) (k : Nat) :
    ((Hierarchy.ofClasses classes).level k).Nodup := by
  induction k with
  | zero => exact .nil
  | succ k ih =>
    cases k with
    | zero =>
      have hkeys := classes.keys_nodup
      rw [← hk.map_name_values] at hkeys
      exact hkeys.sublist (List.filter_sublist.map ClassInfo.name)
    | succ k =>
      rw [Hierarchy.level, List.nodup_flatMap]
      simp only [show (Hierarchy.ofClasses classes).children = classes.children from rfl,
        find?_children]
      refine ⟨fun p _ => hk.nodup_childrenOf p, ih.imp ?_⟩
      -- a class has no more than one parent
      intro p q hne name hp hq
      exact hne ((hk.mem_childrenOf.1 hp).unique (hk.mem_childrenOf.1 hq))

theorem Keyed.nodup_levels (hk : classes.Keyed) (n : Nat) :
    ((List.range n).flatMap (Hierarchy.ofClasses classes).level).Nodup := by
  rw [List.nodup_flatMap]
  refine ⟨fun k _ => hk.nodup_level k, List.nodup_range.imp ?_⟩
  intro j k hne name hj hk'
  exact hne ((hk.mem_level_iff.1 hj).2.unique (hk.mem_level_iff.1 hk').2)

/-- What the position of a class says of its depth. -/
theorem exists_position_iff {name : String} {depth : Option Int} :
    (∃ position, (Hierarchy.ofClasses classes).positions.find? name = some position ∧
      position.depth = depth) ↔
      name ∈ classes.keys ∧ (classes.ancestry name).depth?.map Int.ofNat = depth := by
  rw [find?_positions, OrderedMap.mem_keys_iff]
  cases classes.find? name with
  | none => simp
  | some c => simp [position]

end Classes

/-- The levels that are read off the children are the depths that were computed from the parents: no
name comes twice, a class stands on level `k` exactly if its depth is `k`, and the classes that
stand on no level are those without a depth. -/
theorem levels_of_ofInfos (infos : List ClassInfo) :
    let h := Hierarchy.ofInfos infos
    (∀ n, ((List.range n).flatMap h.level).Nodup) ∧
    (∀ name (k : Nat), name ∈ h.level k ↔
      ∃ position, h.positions.find? name = some position ∧ position.depth = some (k : Int)) ∧
    ∀ name ∈ h.classes.keys, (∀ k, name ∉ h.level k) ↔
      ∃ position, h.positions.find? name = some position ∧ position.depth = none := by
  have hk := Classes.keyed_ofInfos infos
  refine ⟨hk.nodup_levels, ?_, ?_⟩
  · intro name k
    rw [Hierarchy.ofInfos, hk.mem_level_iff, Classes.exists_position_iff,
      ← Classes.depth?_eq_some_iff]
    refine and_congr_right fun _ => ?_
    cases (Classes.ancestry (Classes.ofInfos infos) name).depth? with
    | none => simp
    | some n =>
      rw [Option.map_some, Option.some.injEq, Option.some.injEq]
      exact Int.ofNat_inj.symm
  · intro name hname
    rw [Hierarchy.ofInfos, Classes.exists_position_iff, Option.map_eq_none_iff,
      Option.eq_none_iff_forall_ne_some]
    constructor
    · intro h
      refine ⟨hname, fun k hdepth => ?_⟩
      exact h k (hk.mem_level_iff.2 ⟨hname, Classes.depth?_eq_some_iff.1 hdepth⟩)
    · rintro ⟨-, h⟩ k hlevel
      exact h k (Classes.depth?_eq_some_iff.2 (hk.mem_level_iff.1 hlevel).2)

end DesignMetrics
