import DesignMetrics.Proofs.Except
import DesignMetrics.Proofs.Factor.Sum
import DesignMetrics.Proofs.Hierarchy.Level
import DesignMetrics.Report.Table
import Mathlib.Algebra.BigOperators.Ring.Finset

/-!
# Coherence of a hierarchy

A hierarchy shows its classes in four ways: by name, as children, by position and as parents. The
four agree in every hierarchy that is built, so that whoever walks the classes finds a position for
each of them.
-/

namespace DesignMetrics

/-- The views of a hierarchy agree. -/
structure Hierarchy.Coherent (h : Hierarchy) : Prop where
  positions_keys : h.positions.keys = h.classes.keys
  class_name : ∀ key c, h.classes.find? key = some c → c.name = key
  position_name : ∀ key p, h.positions.find? key = some p → p.name = key
  /-- Children are listed under the classes that are the parent of some class. -/
  children_keys : ∀ parent, parent ∈ h.children.keys ↔
    parent ∈ h.classes.keys ∧ ∃ c ∈ h.classes.values, c.parent = some parent
  /-- A list holds the classes with this parent, in the order of the classes. -/
  children_eq : ∀ parent names, h.children.find? parent = some names →
    names = (h.classes.values.filter (·.parent = some parent)).map ClassInfo.name ∧
      names ≠ [] ∧ names.Nodup
  /-- A class with a known parent stands once in the list of that parent, and in no other. -/
  listed_once : ∀ c ∈ h.classes.values, ∀ parent, h.parentOf? c = some parent →
    (∃ names, h.children.find? parent.name = some names ∧ names.count c.name = 1) ∧
      ∀ key names, h.children.find? key = some names → c.name ∈ names → key = parent.name
  /-- A class without one stands in no list. -/
  not_listed : ∀ c ∈ h.classes.values, h.parentOf? c = none →
    ∀ key names, h.children.find? key = some names → c.name ∉ names
  childCount_eq : ∀ key p, h.positions.find? key = some p →
    p.childCount = (h.classes.values.countP (·.parent = some key) : Nat)
  sum_childCount : (h.positions.values.map Position.childCount).sum =
    (h.classes.values.countP fun c => (h.parentOf? c).isSome : Nat)

namespace Classes

variable {classes : Classes} {name parent : String}

/-! ## Children -/

/-- Under a class, all that name it as their parent are its children. -/
theorem childrenOf_eq (hp : parent ∈ classes.keys) :
    classes.childrenOf parent =
      (classes.values.filter (·.parent = some parent)).map ClassInfo.name := by
  unfold childrenOf
  simp only [hp, and_true]

/-- A name without a class has no children. -/
theorem childrenOf_eq_nil (hp : parent ∉ classes.keys) : classes.childrenOf parent = [] := by
  unfold childrenOf
  simp only [hp, and_false, decide_false, List.filter_false, List.map_nil]

theorem mem_keys_of_childrenOf_ne_nil (h : classes.childrenOf parent ≠ []) :
    parent ∈ classes.keys := by
  by_contra hp
  exact h (childrenOf_eq_nil hp)

/-- The children that are listed under a name are all that it has, and at least one. -/
theorem find?_children_eq_some_iff {names : List String} :
    classes.children.find? parent = some names ↔
      names = classes.childrenOf parent ∧ names ≠ [] := by
  rw [find?_children_eq_ite]
  split
  · next hnil =>
    refine ⟨fun h => absurd h (by simp), ?_⟩
    rintro ⟨rfl, hne⟩
    exact absurd hnil hne
  · next hne =>
    rw [Option.some.injEq]
    constructor
    · rintro rfl
      exact ⟨rfl, hne⟩
    · rintro ⟨rfl, _⟩
      rfl

/-- Children are listed under the names of classes that are given as a parent. -/
theorem mem_keys_children_iff :
    parent ∈ classes.children.keys ↔
      parent ∈ classes.keys ∧ ∃ c ∈ classes.values, c.parent = some parent := by
  rw [OrderedMap.mem_keys_iff]
  simp only [find?_children_eq_some_iff]
  constructor
  · rintro ⟨names, rfl, hne⟩
    have hp := mem_keys_of_childrenOf_ne_nil hne
    rw [childrenOf_eq hp] at hne
    obtain ⟨name, hname⟩ := List.exists_mem_of_ne_nil _ hne
    obtain ⟨c, hc, -⟩ := List.mem_map.1 hname
    obtain ⟨hmem, hparent⟩ := List.mem_filter.1 hc
    exact ⟨hp, c, hmem, by simpa using hparent⟩
  · rintro ⟨hp, c, hmem, hparent⟩
    refine ⟨_, rfl, List.ne_nil_of_mem (a := c.name) ?_⟩
    rw [childrenOf_eq hp]
    exact List.mem_map.2 ⟨c, List.mem_filter.2 ⟨hmem, by simpa using hparent⟩, rfl⟩

/-- Every class is listed among the children of the class that was found as its parent. -/
theorem Keyed.mem_childrenOf_iff (hk : classes.Keyed) {c : ClassInfo} (hc : c ∈ classes.values) :
    c.name ∈ classes.childrenOf parent ↔
      ∃ p, (Hierarchy.ofClasses classes).parentOf? c = some p ∧ p.name = parent := by
  rw [hk.mem_childrenOf, Inherits, hk.parent?_eq (hk.mem_values_iff.1 hc), Option.map_eq_some_iff]

/-! ## Counting children -/

/-- The lists of children, one after the other, hold every class with a known parent. -/
theorem Keyed.childrenOf_perm (hk : classes.Keyed) :
    (classes.keys.flatMap classes.childrenOf).Perm
      ((classes.values.filter fun c =>
        ((Hierarchy.ofClasses classes).parentOf? c).isSome).map ClassInfo.name) := by
  have hkeys := classes.keys_nodup
  have hleft : (classes.keys.flatMap classes.childrenOf).Nodup := by
    rw [List.nodup_flatMap]
    refine ⟨fun p _ => hk.nodup_childrenOf p, hkeys.imp ?_⟩
    -- a class has no more than one parent
    intro p q hne name hp hq
    exact hne ((hk.mem_childrenOf.1 hp).unique (hk.mem_childrenOf.1 hq))
  -- the names of the classes are their keys, so that neither list has a name twice
  rw [← hk.map_name_values] at hkeys
  have hright := hkeys.sublist ((List.filter_sublist (p := fun c =>
    ((Hierarchy.ofClasses classes).parentOf? c).isSome)).map ClassInfo.name)
  rw [List.perm_ext_iff_of_nodup hleft hright]
  intro name
  rw [List.mem_flatMap, List.mem_map]
  constructor
  · rintro ⟨p, -, hp⟩
    have hstep := hk.mem_childrenOf.1 hp
    obtain ⟨c, hc⟩ := classes.mem_keys_iff.1 hstep.mem_keys_left
    obtain rfl : c.name = name := hk name c hc
    have hmem := hk.mem_values_iff.2 hc
    obtain ⟨d, hd, -⟩ := (hk.mem_childrenOf_iff hmem).1 hp
    exact ⟨c, List.mem_filter.2 ⟨hmem, by rw [hd]; rfl⟩, rfl⟩
  · rintro ⟨c, hc, rfl⟩
    obtain ⟨hmem, hsome⟩ := List.mem_filter.1 hc
    obtain ⟨d, hd⟩ := Option.isSome_iff_exists.1 hsome
    have hchild := (hk.mem_childrenOf_iff hmem).2 ⟨d, hd, rfl⟩
    exact ⟨d.name, (hk.mem_childrenOf.1 hchild).mem_keys_right, hchild⟩

/-- Every class that has a parent is the child of one class. -/
theorem Keyed.sum_length_childrenOf (hk : classes.Keyed) :
    (classes.keys.map fun name => (classes.childrenOf name).length).sum =
      classes.values.countP fun c => ((Hierarchy.ofClasses classes).parentOf? c).isSome := by
  have h := hk.childrenOf_perm.length_eq
  rwa [List.length_flatMap, List.length_map, ← List.countP_eq_length_filter] at h

/-! ## Positions -/

/-- The number of children in the positions is the length of their lists. -/
theorem map_childCount_positions (classes : Classes) :
    (Hierarchy.ofClasses classes).positions.values.map Position.childCount =
      classes.keys.map fun name => ((classes.childrenOf name).length : Int) := by
  show ((classes.entries.map fun e => (e.1, classes.position classes.children e.1)).map
    Prod.snd).map Position.childCount = (classes.entries.map Prod.fst).map _
  simp only [List.map_map]
  refine List.map_congr_left fun e _ => ?_
  show (((classes.children.find? e.1).getD []).length : Int) = _
  rw [find?_children]
  rfl

/-- The views of a hierarchy agree if its classes are filed under their own names. -/
theorem Keyed.coherent (hk : classes.Keyed) : (Hierarchy.ofClasses classes).Coherent where
  positions_keys := by
    show (classes.entries.map fun e => (e.1, _)).map Prod.fst = classes.entries.map Prod.fst
    rw [List.map_map]
    rfl
  class_name := hk
  position_name := by
    intro key p h
    rw [find?_positions, Option.map_eq_some_iff] at h
    obtain ⟨_, _, rfl⟩ := h
    rfl
  children_keys := fun _ => mem_keys_children_iff
  children_eq := by
    intro parent names h
    obtain ⟨rfl, hne⟩ := find?_children_eq_some_iff.1 h
    exact ⟨childrenOf_eq (mem_keys_of_childrenOf_ne_nil hne), hne, hk.nodup_childrenOf parent⟩
  listed_once := by
    intro c hc parent hparent
    -- a class with a known parent is listed for it, and a class has no second parent
    have hmem := (hk.mem_childrenOf_iff hc).2 ⟨parent, hparent, rfl⟩
    refine ⟨⟨_, find?_children_eq_some_iff.2 ⟨rfl, List.ne_nil_of_mem hmem⟩, ?_⟩, ?_⟩
    · exact List.count_eq_one_of_mem (hk.nodup_childrenOf _) hmem
    · intro key names h hname
      obtain ⟨rfl, -⟩ := find?_children_eq_some_iff.1 h
      exact (hk.mem_childrenOf.1 hname).unique (hk.mem_childrenOf.1 hmem)
  not_listed := by
    intro c hc hnone key names h hname
    obtain ⟨rfl, -⟩ := find?_children_eq_some_iff.1 h
    -- the key under which it is listed would be its parent
    obtain ⟨p, hp, -⟩ := (hk.mem_childrenOf_iff hc).1 hname
    rw [hnone] at hp
    cases hp
  childCount_eq := by
    intro key p h
    rw [find?_positions, Option.map_eq_some_iff] at h
    obtain ⟨c, hc, rfl⟩ := h
    show (((classes.children.find? key).getD []).length : Int) = _
    rw [find?_children, childrenOf_eq (classes.mem_keys_of_find? hc), List.length_map,
      ← List.countP_eq_length_filter]
    rfl
  sum_childCount := by
    rw [map_childCount_positions]
    show _ = ((classes.values.countP _ : Nat) : Int)
    rw [← hk.sum_length_childrenOf, Nat.cast_list_sum, List.map_map]
    rfl

end Classes

/-! ## Looking up positions -/

namespace Hierarchy.Coherent

variable {h : Hierarchy} (hc : h.Coherent)
include hc

/-- The name of every class has a position. -/
theorem exists_position {c : ClassInfo} (hmem : c ∈ h.classes.values) :
    ∃ p, h.positions.find? c.name = some p := by
  rw [← OrderedMap.mem_keys_iff, hc.positions_keys, OrderedMap.mem_keys_iff]
  obtain ⟨key, hkey⟩ := h.classes.mem_values_iff.1 hmem
  exact ⟨c, by rwa [hc.class_name key c hkey]⟩

/-- Every class has its share in the sums. -/
theorem exists_sums : ∃ sums, Factor.sums h = .ok sums := by
  have hshare : ∀ c ∈ h.classes.values, ∃ share, Factor.shareIn h c = .ok share ∧ True := by
    intro c hmem
    obtain ⟨p, hp⟩ := hc.exists_position hmem
    exact ⟨_, by rw [Factor.shareIn, hp], trivial⟩
  obtain ⟨shares, hshares, -⟩ := exists_mapM_eq_ok hshare
  exact ⟨_, by rw [Factor.sums, hshares]; rfl⟩

/-- The factors never fail for a missing position. -/
theorem ofHierarchy_ne_noPosition (name : String) :
    Factor.ofHierarchy h ≠ .error (.noPosition name) := by
  obtain ⟨sums, hsums⟩ := hc.exists_sums
  have hscores : Factor.ofHierarchy h = Factor.scores sums := by
    rw [Factor.ofHierarchy, hsums]
    rfl
  rw [hscores, Factor.scores]
  split <;> simp

/-- Every class has its entry in the full report. -/
theorem exists_export (factors : Factors Factor.Score) (failures : List ReadFailure) :
    ∃ x, Report.Export.ofAnalysis ⟨h, factors, failures⟩ = .ok x ∧
      x.classes.map Report.ClassEntry.info = h.classes.values := by
  have hentry : ∀ c ∈ h.classes.values,
      ∃ entry, Report.Export.entry h c = .ok entry ∧ c = entry.info := by
    intro c hmem
    obtain ⟨p, hp⟩ := hc.exists_position hmem
    exact ⟨_, by rw [Report.Export.entry, hp], rfl⟩
  obtain ⟨entries, hentries, hinfo⟩ := exists_mapM_eq_ok hentry
  refine ⟨_, by rw [Report.Export.ofAnalysis, hentries]; rfl, ?_⟩
  rw [← List.forall₂_map_right_iff, List.forall₂_eq_eq_eq] at hinfo
  exact hinfo.symm

end Hierarchy.Coherent

/-! ## Tables -/

namespace Report

variable {α β : Type}

/-- What does not fail for the lack of a position. -/
def PositionsSuffice (r : Except TableError α) : Prop :=
  ∀ e, r ≠ .error (.factors e)

/-- What never fails for a position may be followed by more of that kind. -/
theorem PositionsSuffice.bind {r : Except TableError α} {f : α → Except TableError β}
    (hr : PositionsSuffice r) (hf : ∀ a, PositionsSuffice (f a)) : PositionsSuffice (r >>= f) := by
  cases r with
  | error x =>
    intro e h
    have hx : x = .factors e := Except.error.inj h
    exact hr e (congrArg Except.error hx)
  | ok a => exact hf a

theorem PositionsSuffice.mapM {f : α → Except TableError β} (hf : ∀ a, PositionsSuffice (f a))
    (as : List α) : PositionsSuffice (as.mapM f) := by
  induction as with
  | nil => exact fun e => by simp [pure, Except.pure]
  | cons a as ih =>
    rw [List.mapM_cons]
    exact (hf a).bind fun b => ih.bind fun bs e => by simp [pure, Except.pure]

theorem positionsSuffice_mapError {ε : Type} {g : ε → TableError} (hg : ∀ x e, g x ≠ .factors e)
    (r : Except ε α) : PositionsSuffice (r.mapError g) := by
  intro e
  cases r with
  | error x => simpa [Except.mapError] using hg x e
  | ok a => simp [Except.mapError]

theorem positionsSuffice_labelLines (t : StyledText (List Char)) :
    PositionsSuffice (labelLines t) := by
  unfold labelLines
  refine (positionsSuffice_mapError (by simp) _).bind fun lines => ?_
  refine (positionsSuffice_mapError (by simp) _).bind fun lines => ?_
  exact positionsSuffice_mapError (by simp) _

theorem positionsSuffice_classCells (e : ClassEntry) (name path : StyledText (List Char)) :
    PositionsSuffice (classCells e name path) := by
  unfold classCells
  refine (positionsSuffice_labelLines name).bind fun _ => ?_
  exact (positionsSuffice_labelLines path).bind fun _ e => by simp [pure, Except.pure]

/-- The table of the classes is made from entries, in which positions are not looked up again. -/
theorem positionsSuffice_classTable (entries : List ClassEntry) :
    PositionsSuffice (classTable entries) := by
  unfold classTable
  refine (positionsSuffice_mapError (by simp) _).bind fun labelled => ?_
  refine (PositionsSuffice.mapM (fun a => ?_) labelled).bind fun _ e => by
    simp [pure, Except.pure]
  exact positionsSuffice_classCells a.1 a.2.1 a.2.2

/-- If an analysis can be exported, its tables do not fail for a position. -/
theorem positionsSuffice_tables {a : Analysis} {x : Export} (h : Export.ofAnalysis a = .ok x) :
    PositionsSuffice (tables a) := by
  unfold tables
  rw [h]
  exact (positionsSuffice_classTable _).bind fun _ e => by simp [pure, Except.pure]

end Report

/-- The views of a hierarchy agree, whatever the classes it was built from. So no class is looked up
in vain: the sums exist, and so does the entry of every class in a report. -/
theorem coherent_of_ofInfos (infos : List ClassInfo) :
    let h := Hierarchy.ofInfos infos
    h.Coherent ∧
    (∃ sums, Factor.sums h = .ok sums) ∧
    (∀ name, Factor.ofHierarchy h ≠ .error (.noPosition name)) ∧
    ∀ factors failures,
      (∃ x, Report.Export.ofAnalysis ⟨h, factors, failures⟩ = .ok x ∧
        x.classes.map Report.ClassEntry.info = h.classes.values) ∧
      ∀ e, Report.tables ⟨h, factors, failures⟩ ≠ .error (.factors e) := by
  intro h
  have hc : h.Coherent := (Classes.keyed_ofInfos infos).coherent
  refine ⟨hc, hc.exists_sums, hc.ofHierarchy_ne_noPosition, fun factors failures => ?_⟩
  obtain ⟨x, hx, hinfo⟩ := hc.exists_export factors failures
  exact ⟨⟨x, hx, hinfo⟩, Report.positionsSuffice_tables hx⟩

end DesignMetrics
