import DesignMetrics.Proofs.Factor.Sum
import DesignMetrics.Proofs.Hierarchy.Extension

/-!
# Projects side by side

The classes of two projects that know nothing of each other can be linked as one project. No way up
leads from one of the two to the other, so that the hierarchy of both shows what the first one shows
and then what the second one shows, and every sum is the sum of theirs.
-/

namespace DesignMetrics

/-- Classes of different names neither of which gives the other one as its parent. -/
structure ClassInfo.Apart (c d : ClassInfo) : Prop where
  name_ne : c.name ≠ d.name
  parent_ne : c.parent ≠ some d.name
  parent_ne' : d.parent ≠ some c.name

/-- Two classes stand apart from each other or not at all. -/
theorem ClassInfo.Apart.symm {c d : ClassInfo} (h : c.Apart d) : d.Apart c :=
  ⟨h.name_ne.symm, h.parent_ne', h.parent_ne⟩

instance (c d : ClassInfo) : Decidable (c.Apart d) :=
  decidable_of_iff (c.name ≠ d.name ∧ c.parent ≠ some d.name ∧ d.parent ≠ some c.name)
    ⟨fun ⟨h₁, h₂, h₃⟩ => ⟨h₁, h₂, h₃⟩, fun ⟨h₁, h₂, h₃⟩ => ⟨h₁, h₂, h₃⟩⟩

/-- What one hierarchy shows, and then what another one shows. -/
structure Hierarchy.IsUnion (h first second : Hierarchy) : Prop where
  classes : h.classes.IsAppend first.classes second.classes
  children : h.children.IsAppend first.children second.children
  positions : h.positions.IsAppend first.positions second.positions
  cycles : h.cycles = first.cycles ++ second.cycles

/-- Where no cycle of one list has the members of one of the other, both keep what they keep
alone. -/
theorem Cycle.distinct_append {cs ds : List Cycle}
    (h : ∀ c ∈ cs, ∀ d ∈ ds, c.sameMembers d = false) :
    distinct (cs ++ ds) = distinct cs ++ distinct ds := by
  induction cs with
  | nil => rfl
  | cons c cs ih =>
    rw [List.forall_mem_cons] at h
    have hkept : (distinct ds).filter (fun d => !c.sameMembers d) = distinct ds := by
      rw [List.filter_eq_self]
      intro d hd
      rw [h.1 d ((distinct_sublist ds).subset hd)]
      rfl
    rw [List.cons_append, distinct, ih h.2, List.filter_append, hkept]
    rfl

namespace Factors

theorem add_assoc (x y z : Factors Factor.Ratio) : add (add x y) z = add x (add y z) := by
  simp only [add, zipWith, Factor.Ratio.add, Int.add_assoc]

theorem add_zero (x : Factors Factor.Ratio) : add x zero = x := by
  simp only [add, zipWith, zero, Factor.Ratio.add, Factor.Ratio.zero, Int.add_zero]

/-- The sums over shares that are added to other sums. -/
theorem foldl_add (x : Factors Factor.Ratio) (shares : List (Factors Factor.Ratio)) :
    shares.foldl add x = add x (shares.foldl add zero) := by
  induction shares using List.reverseRecOn with
  | nil => exact (add_zero x).symm
  | append_singleton shares share ih =>
    rw [List.foldl_append, List.foldl_append, ih]
    exact add_assoc _ _ _

end Factors

namespace Classes

variable {part whole first second : Classes} {c : ClassInfo} {name parent last : String}
  {way : List String}

/-! ## Parts that no way leaves -/

/-- The classes of a part, and those that they give as their parents, are in the whole what they are
in the part. -/
structure IsClosedIn (part whole : Classes) : Prop where
  find? : ∀ name ∈ part.keys, whole.find? name = part.find? name
  find?_parent : ∀ c ∈ part.values, ∀ parent, c.parent = some parent →
    whole.find? parent = part.find? parent

namespace IsClosedIn

variable (h : part.IsClosedIn whole)
include h

/-- A class of the part has the same parent in the whole. -/
theorem parentOf?_eq (hc : c ∈ part.values) :
    (Hierarchy.ofClasses whole).parentOf? c = (Hierarchy.ofClasses part).parentOf? c := by
  show c.parent.bind whole.find? = c.parent.bind part.find?
  cases hparent : c.parent with
  | none => rfl
  | some parent => exact h.find?_parent c hc parent hparent

/-- The name that a class gives for its parent is known to both or to neither. -/
theorem contains_parent (hc : c ∈ part.values) (hparent : c.parent = some parent) :
    whole.contains parent = part.contains parent := by
  rw [OrderedMap.contains, OrderedMap.contains, h.find?_parent c hc parent hparent]

/-- From each of its classes, the way up takes the same step. -/
theorem parent?_eq (hname : name ∈ part.keys) : whole.parent? name = part.parent? name := by
  obtain ⟨c, hc⟩ := part.mem_keys_iff.1 hname
  have hmem : c ∈ part.values := part.mem_values_iff.2 ⟨name, hc⟩
  rw [parent?, parent?, h.find? name hname, hc, Option.bind_some]
  cases hparent : c.parent with
  | none => rfl
  | some parent =>
    show (if whole.contains parent then some parent else none) = _
    rw [h.contains_parent hmem hparent]

/-- A class of the part is added to the same list of children. -/
theorem addChild_eq (hc : c ∈ part.values) (children : OrderedMap (List String)) :
    whole.addChild children c = part.addChild children c := by
  unfold addChild
  cases hparent : c.parent with
  | none => rfl
  | some parent =>
    show (if whole.contains parent then _ else children) = _
    rw [h.contains_parent hc hparent]

/-- What inherits in the part inherits in the whole. -/
theorem inherits (hp : part.Inherits name parent) : whole.Inherits name parent :=
  (h.parent?_eq hp.mem_keys_left).trans hp

/-- The whole way up from a class of the part is one in the part. -/
theorem wayUp (hway : part.WayUp name way last) (hname : name ∈ part.keys) :
    whole.WayUp name way last where
  starts := hway.starts
  ascends := hway.ascends.imp fun _ _ => h.inherits
  nodup := hway.nodup
  ends := by
    have hreaches : part.Reaches name last := hway.reaches (by simp)
    -- the end of the way is where it starts, or a known parent
    have hlast : last ∈ part.keys := by
      rcases Relation.ReflTransGen.cases_tail hreaches with rfl | ⟨_, -, hp⟩
      · exact hname
      · exact hp.mem_keys_right
    rw [h.parent?_eq hlast]
    exact hway.ends

/-- The way up from a class of the part stays in the part, and ends in the same way. -/
theorem ancestry_eq (hname : name ∈ part.keys) : whole.ancestry name = part.ancestry name := by
  obtain ⟨way, last, hway, heq⟩ := part.exists_wayUp name
  rw [heq, (h.wayUp hway hname).ancestry_eq]

/-- The classes of the part find the same cycles. -/
theorem filterMap_cycle? :
    part.keys.filterMap (fun name => (whole.ancestry name).cycle?) =
      part.keys.filterMap fun name => (part.ancestry name).cycle? :=
  List.filterMap_congr fun name hname => by rw [h.ancestry_eq hname]

end IsClosedIn

/-- In the whole, the classes of a part have no more children than in the part. -/
structure IsPartOf (part whole : Classes) : Prop extends part.IsClosedIn whole where
  find?_children : ∀ name ∈ part.keys, whole.children.find? name = part.children.find? name

namespace IsPartOf

variable (h : part.IsPartOf whole)
include h

/-- Classes of the part have the same position in the whole. -/
theorem map_position :
    part.entries.map (fun e => (e.1, whole.position whole.children e.1)) =
      (Hierarchy.ofClasses part).positions.entries := by
  apply List.map_congr_left
  intro e he
  have hname : e.1 ∈ part.keys := List.mem_map_of_mem he
  rw [position, h.ancestry_eq hname, h.find?_children e.1 hname]
  rfl

/-- Classes of the part add the same to the sums. -/
theorem map_shareOf (hk : part.Keyed) :
    part.values.map whole.shareOf = part.values.map part.shareOf := by
  apply List.map_congr_left
  intro c hc
  rw [shareOf, shareOf, h.parentOf?_eq hc, ← Classes.find?_children, ← Classes.find?_children,
    h.find?_children c.name (hk.name_mem_keys hc)]

end IsPartOf

/-! ## Classes of two projects -/

/-- The classes of two projects that know nothing of each other. -/
structure Beside (first second : Classes) : Prop where
  keyed_left : first.Keyed
  keyed_right : second.Keyed
  apart : ∀ c ∈ first.values, ∀ d ∈ second.values, c.Apart d

namespace Beside

/-- It does not matter which project comes first. -/
theorem symm (h : first.Beside second) : second.Beside first :=
  ⟨h.keyed_right, h.keyed_left, fun c hc d hd => (h.apart d hd c hc).symm⟩

/-- The parent of a class is not to be found in the other project. -/
theorem parent_not_mem (h : first.Beside second) (hc : c ∈ first.values)
    (hparent : c.parent = some parent) : parent ∉ second.keys := by
  intro hmem
  obtain ⟨d, hd⟩ := second.mem_keys_iff.1 hmem
  obtain rfl := h.keyed_right parent d hd
  exact (h.apart c hc d (h.keyed_right.mem_values_iff.2 hd)).parent_ne hparent

section Whole

variable (h : first.Beside second) (hwhole : whole.IsAppend first second)
include h hwhole

/-- In both together, the names of the first project and of its parents stand for what they stood
for. -/
theorem isClosedIn_left : first.IsClosedIn whole where
  find? _ hname := hwhole.find?_left (hwhole.disjoint_keys hname)
  find?_parent _ hc _ hparent := hwhole.find?_left (h.parent_not_mem hc hparent)

/-- The same holds of the second project. -/
theorem isClosedIn_right : second.IsClosedIn whole where
  find? _ hname := hwhole.find?_right fun hmem => hwhole.disjoint_keys hmem hname
  find?_parent _ hc _ hparent := hwhole.find?_right (h.symm.parent_not_mem hc hparent)

/-- The classes of the second project enter no children of the first one. -/
theorem foldl_addChild {cs : List ClassInfo} (hcs : ∀ c ∈ cs, c ∈ second.values)
    {children before after : OrderedMap (List String)} (hchildren : children.IsAppend before after)
    (hbefore : ∀ parent ∈ before.keys, parent ∈ first.keys) :
    (cs.foldl whole.addChild children).IsAppend before (cs.foldl second.addChild after) := by
  induction cs generalizing children after with
  | nil => exact hchildren
  | cons c cs ih =>
    rw [List.forall_mem_cons] at hcs
    rw [List.foldl_cons, List.foldl_cons, (h.isClosedIn_right hwhole).addChild_eq hcs.1]
    apply ih hcs.2
    unfold addChild
    cases hparent : c.parent with
    | none => exact hchildren
    | some parent =>
      have hnot : parent ∉ before.keys := fun hmem =>
        h.symm.parent_not_mem hcs.1 hparent (hbefore parent hmem)
      by_cases hknown : second.contains parent
      · simp only [hknown, if_true]
        rw [hchildren.find?_right hnot]
        exact hchildren.insert hnot
      · simp only [hknown]
        exact hchildren

/-- Each child has its parent in its own project, so the lists of children stay apart. -/
theorem children_isAppend : whole.children.IsAppend first.children second.children := by
  have hfirst : first.values.foldl whole.addChild .empty = first.children :=
    List.foldl_ext _ _ _ fun children c hc => (h.isClosedIn_left hwhole).addChild_eq hc children
  rw [children, hwhole.values_eq, List.foldl_append, hfirst]
  exact h.foldl_addChild hwhole (fun _ hc => hc) (.empty_right _) fun parent hmem =>
    (mem_keys_children_iff.1 hmem).1

/-- Both projects are parts of the whole. -/
theorem isPartOf_left : first.IsPartOf whole where
  toIsClosedIn := h.isClosedIn_left hwhole
  find?_children _ hname := (h.children_isAppend hwhole).find?_left fun hmem =>
    hwhole.disjoint_keys hname (mem_keys_children_iff.1 hmem).1

theorem isPartOf_right : second.IsPartOf whole where
  toIsClosedIn := h.isClosedIn_right hwhole
  find?_children _ hname := (h.children_isAppend hwhole).find?_right fun hmem =>
    hwhole.disjoint_keys (mem_keys_children_iff.1 hmem).1 hname

/-- The positions of the first project come first. -/
theorem positions_isAppend :
    (Hierarchy.ofClasses whole).positions.IsAppend (Hierarchy.ofClasses first).positions
      (Hierarchy.ofClasses second).positions := by
  show whole.entries.map (fun e => (e.1, whole.position whole.children e.1)) = _
  rw [hwhole, List.map_append, (h.isPartOf_left hwhole).map_position,
    (h.isPartOf_right hwhole).map_position]

/-- No cycle of one project is one of the other, so none is reported for both. -/
theorem cycles_eq : whole.cycles = first.cycles ++ second.cycles := by
  rw [cycles, hwhole.keys_eq, List.filterMap_append, (h.isClosedIn_left hwhole).filterMap_cycle?,
    (h.isClosedIn_right hwhole).filterMap_cycle?]
  apply Cycle.distinct_append
  intro c hc d hd
  obtain ⟨_, -, hc⟩ := mem_filterMap_ancestry.1 hc
  obtain ⟨_, -, hd⟩ := mem_filterMap_ancestry.1 hd
  obtain ⟨x, hx, -⟩ := (isCycle_of_ancestry hc).1.exists_head
  rw [← Bool.not_eq_true, Cycle.sameMembers_iff]
  intro hsame
  -- a common member would be a class of both projects
  exact hwhole.disjoint_keys ((isCycle_of_ancestry hc).1.mem_keys hx)
    ((isCycle_of_ancestry hd).1.mem_keys ((hsame x).1 hx))

/-- All views of two projects together are those of the first, and then those of the second. -/
theorem isUnion : (Hierarchy.ofClasses whole).IsUnion (.ofClasses first) (.ofClasses second) where
  classes := hwhole
  children := h.children_isAppend hwhole
  positions := h.positions_isAppend hwhole
  cycles := h.cycles_eq hwhole

/-- The sums of two projects are added up. -/
theorem foldl_shareOf :
    (whole.values.map whole.shareOf).foldl Factors.add Factors.zero =
      Factors.add ((first.values.map first.shareOf).foldl Factors.add Factors.zero)
        ((second.values.map second.shareOf).foldl Factors.add Factors.zero) := by
  rw [hwhole.values_eq, List.map_append, List.foldl_append, Factors.foldl_add,
    (h.isPartOf_left hwhole).map_shareOf h.keyed_left,
    (h.isPartOf_right hwhole).map_shareOf h.keyed_right]

end Whole

end Beside

/-! ## Lists of classes -/

variable {infos others : List ClassInfo}

/-- Classes whose names are new come after those that are there, the last of every name at the
place of the first. -/
theorem ofInfos_append_isAppend (h : ∀ c ∈ infos, ∀ d ∈ others, c.name ≠ d.name) :
    (ofInfos (infos ++ others)).IsAppend (ofInfos infos) (ofInfos others) := by
  induction others using List.reverseRecOn with
  | nil =>
    rw [List.append_nil]
    exact .empty_right _
  | append_singleton others d ih =>
    have hnew : d.name ∉ (ofInfos infos).keys := by
      intro hmem
      obtain ⟨c, hc, hname⟩ := exists_mem_of_mem_keys_ofInfos hmem
      exact h c hc d (by simp) hname
    rw [← List.append_assoc, ofInfos_append_singleton, ofInfos_append_singleton]
    exact (ih fun c hc d hd => h c hc d (List.mem_append_left _ hd)).insert hnew

/-- Lists of classes that stand apart make two such projects. -/
theorem beside_ofInfos (h : ∀ c ∈ infos, ∀ d ∈ others, c.Apart d) :
    (ofInfos infos).Beside (ofInfos others) where
  keyed_left := keyed_ofInfos infos
  keyed_right := keyed_ofInfos others
  apart c hc d hd := h c (mem_of_mem_values_ofInfos hc) d (mem_of_mem_values_ofInfos hd)

end Classes

/-- The hierarchy of two projects, no class of which has the name or the parent's name of a class of
the other one, shows the classes, the children, the positions and the cycles of the first and then
those of the second. Its sums are theirs, added up, and where the factors of all three are computed
so are numerators and denominators. -/
theorem ofInfos_append_isUnion (infos others : List ClassInfo)
    (h : ∀ c ∈ infos, ∀ d ∈ others, c.Apart d) :
    let whole := Hierarchy.ofInfos (infos ++ others)
    let first := Hierarchy.ofInfos infos
    let second := Hierarchy.ofInfos others
    whole.IsUnion first second ∧
    (∃ sums sums', Factor.sums first = .ok sums ∧ Factor.sums second = .ok sums' ∧
      Factor.sums whole = .ok (sums.add sums')) ∧
    ∀ scores scores' scores'', Factor.ofHierarchy first = .ok scores →
      Factor.ofHierarchy second = .ok scores' → Factor.ofHierarchy whole = .ok scores'' →
      scores''.map Factor.Score.ratio =
        (scores.map Factor.Score.ratio).add (scores'.map Factor.Score.ratio) := by
  have hbeside := Classes.beside_ofInfos h
  have hwhole := Classes.ofInfos_append_isAppend fun c hc d hd => (h c hc d hd).name_ne
  have hfirst := (Classes.keyed_ofInfos infos).sums_eq
  have hsecond := (Classes.keyed_ofInfos others).sums_eq
  have hboth := (Classes.keyed_ofInfos (infos ++ others)).sums_eq
  rw [hbeside.foldl_shareOf hwhole] at hboth
  refine ⟨hbeside.isUnion hwhole, ⟨_, _, hfirst, hsecond, hboth⟩, ?_⟩
  intro scores scores' scores'' hs hs' hs''
  have hs := hfirst.symm.trans (Factor.ratio_of_ofHierarchy hs)
  have hs' := hsecond.symm.trans (Factor.ratio_of_ofHierarchy hs')
  have hs'' := hboth.symm.trans (Factor.ratio_of_ofHierarchy hs'')
  rw [← Except.ok.inj hs, ← Except.ok.inj hs', ← Except.ok.inj hs'']

/-- Two projects, each with a class that comes twice and with a cycle. -/
theorem ofInfos_append_isUnion_of_cycles :
    let infos : List ClassInfo := [{ name := "A", parent := some "B" },
      { name := "B", parent := some "A" },
      { name := "C", parent := some "A", methods := [{ name := "m", overrides := true }] },
      { name := "A", parent := some "B", methods := [{ name := "m", visibility := .priv }] }]
    let others : List ClassInfo := [{ name := "Y", parent := some "X" },
      { name := "X", attributes := [{ name := "a" }] },
      { name := "Z", parent := some "Missing", attributes := [{ name := "a" }] },
      { name := "X", parent := some "Y", attributes := [{ name := "a", visibility := .priv }] }]
    let whole := Hierarchy.ofInfos (infos ++ others)
    (∀ c ∈ infos, ∀ d ∈ others, c.Apart d) ∧
      whole.IsUnion (Hierarchy.ofInfos infos) (Hierarchy.ofInfos others) ∧
      whole.cycles = [⟨["A", "B", "A"]⟩, ⟨["Y", "X", "Y"]⟩] ∧
      ∃ scores scores' scores'', Factor.ofHierarchy (Hierarchy.ofInfos infos) = .ok scores ∧
        Factor.ofHierarchy (Hierarchy.ofInfos others) = .ok scores' ∧
        Factor.ofHierarchy whole = .ok scores'' ∧
        scores''.map Factor.Score.ratio =
          (scores.map Factor.Score.ratio).add (scores'.map Factor.Score.ratio) ∧
        scores''.ahf.ratio = ⟨1, 2⟩ := by
  intro infos others whole
  have hapart : ∀ c ∈ infos, ∀ d ∈ others, c.Apart d := by decide
  have hcycles : whole.cycles = [⟨["A", "B", "A"]⟩, ⟨["Y", "X", "Y"]⟩] := by decide +kernel
  have hratio : (Factor.ofHierarchy whole).toOption.map (fun s => s.ahf.ratio) = some ⟨1, 2⟩ := by
    decide +kernel
  obtain ⟨hunion, -, hadd⟩ := ofInfos_append_isUnion infos others hapart
  obtain ⟨scores, hs⟩ := exists_eq_ok (x := Factor.ofHierarchy (Hierarchy.ofInfos infos))
    (by decide +kernel)
  obtain ⟨scores', hs'⟩ := exists_eq_ok (x := Factor.ofHierarchy (Hierarchy.ofInfos others))
    (by decide +kernel)
  obtain ⟨scores'', hs''⟩ := exists_eq_ok (x := Factor.ofHierarchy whole) (by decide +kernel)
  rw [hs''] at hratio
  exact ⟨hapart, hunion, hcycles, scores, scores', scores'', hs, hs', hs'',
    hadd scores scores' scores'' hs hs' hs'', Option.some.inj hratio⟩

end DesignMetrics
