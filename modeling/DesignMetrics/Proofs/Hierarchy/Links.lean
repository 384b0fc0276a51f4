import DesignMetrics.Proofs.Hierarchy.Ascent

/-!
# Children and positions

What the classes of a hierarchy determine: under every name the children found there are the
classes, in their order, that have it as their known parent, and every class has a position.
-/

namespace DesignMetrics
namespace Classes

/-- The names of the classes whose parent is the class of this name, in their order. -/
def childrenOf (classes : Classes) (parent : String) : List String :=
  (classes.values.filter fun c => c.parent = some parent ∧ parent ∈ classes.keys).map
    ClassInfo.name

variable {classes : Classes}

theorem find?_addChild (children : OrderedMap (List String)) (c : ClassInfo) (parent : String) :
    ((classes.addChild children c).find? parent).getD [] =
      (children.find? parent).getD [] ++
        if c.parent = some parent ∧ parent ∈ classes.keys then [c.name] else [] := by
  unfold addChild
  cases hp : c.parent with
  | none => simp
  | some p =>
    by_cases hc : p ∈ classes.keys
    · have hcontains : classes.contains p = true := classes.contains_iff_mem_keys.2 hc
      simp only [hcontains, if_true, OrderedMap.find?_insert]
      by_cases h : parent = p
      · subst h
        simp [hc]
      · have hne : p ≠ parent := fun e => h e.symm
        simp [h, hne]
    · have hcontains : classes.contains p = false := by
        rw [← Bool.not_eq_true, classes.contains_iff_mem_keys]
        exact hc
      have hne : ¬(p = parent ∧ parent ∈ classes.keys) := by
        rintro ⟨rfl, hmem⟩
        exact hc hmem
      simp [hcontains, hne]

theorem find?_foldl_addChild (cs : List ClassInfo) (children : OrderedMap (List String))
    (parent : String) :
    ((cs.foldl classes.addChild children).find? parent).getD [] =
      (children.find? parent).getD [] ++
        (cs.filter fun c => c.parent = some parent ∧ parent ∈ classes.keys).map
          ClassInfo.name := by
  induction cs generalizing children with
  | nil => simp
  | cons c cs ih =>
    rw [List.foldl_cons, ih, find?_addChild, List.append_assoc]
    congr 1
    by_cases h : c.parent = some parent ∧ parent ∈ classes.keys
    · rw [if_pos h, List.filter_cons_of_pos (by simpa using h)]
      rfl
    · rw [if_neg h, List.filter_cons_of_neg (by simpa using h)]
      rfl

/-- The children found under a name. -/
theorem find?_children (classes : Classes) (parent : String) :
    (classes.children.find? parent).getD [] = classes.childrenOf parent := by
  rw [children, find?_foldl_addChild, OrderedMap.find?_empty]
  rfl

/-- A name that is entered among the children has at least one child. -/
theorem find?_foldl_addChild_ne_nil (cs : List ClassInfo) (children : OrderedMap (List String))
    {parent : String} (h : children.find? parent ≠ some []) :
    (cs.foldl classes.addChild children).find? parent ≠ some [] := by
  induction cs generalizing children with
  | nil => exact h
  | cons c cs ih =>
    rw [List.foldl_cons]
    apply ih
    unfold addChild
    split
    · exact h
    · split
      · rw [OrderedMap.find?_insert]
        split
        · simp
        · exact h
      · exact h

/-- The names under which children are entered are those that have any. -/
theorem find?_children_eq_ite (classes : Classes) (parent : String) :
    classes.children.find? parent =
      if classes.childrenOf parent = [] then none else some (classes.childrenOf parent) := by
  have hne : classes.children.find? parent ≠ some [] :=
    find?_foldl_addChild_ne_nil _ _ (by simp)
  rw [← find?_children]
  cases h : classes.children.find? parent with
  | none => rfl
  | some names =>
    rw [h] at hne
    have hnil : names ≠ [] := fun e => hne (by rw [e])
    rw [Option.getD_some, if_neg hnil]

theorem Keyed.mem_childrenOf (hk : classes.Keyed) {name parent : String} :
    name ∈ classes.childrenOf parent ↔ classes.Inherits name parent := by
  rw [Inherits, parent?_eq_some_iff, childrenOf, List.mem_map]
  constructor
  · rintro ⟨c, hc, rfl⟩
    rw [List.mem_filter, hk.mem_values_iff] at hc
    exact ⟨c, hc.1, by simpa using hc.2⟩
  · rintro ⟨c, hc, hp⟩
    refine ⟨c, ?_, hk name c hc⟩
    rw [List.mem_filter, hk.mem_values_iff, hk name c hc]
    exact ⟨hc, by simpa using hp⟩

theorem Keyed.nodup_childrenOf (hk : classes.Keyed) (parent : String) :
    (classes.childrenOf parent).Nodup := by
  have hkeys := classes.keys_nodup
  rw [← hk.map_name_values] at hkeys
  exact hkeys.sublist (List.filter_sublist.map ClassInfo.name)

/-- Every class has a position. -/
theorem find?_positions (classes : Classes) (name : String) :
    (Hierarchy.ofClasses classes).positions.find? name =
      (classes.find? name).map fun _ => classes.position classes.children name :=
  classes.find?_mapEntries _ name

end Classes
end DesignMetrics
