import DesignMetrics.Proofs.Hierarchy.Agreement
import DesignMetrics.Proofs.Hierarchy.Coherence

/-!
# One more class

A class with a new name can be the parent that other classes were missing. Ways up that ended below
it go on from it, and with that a cycle may close; all other ways, depths and cycles stay as they
were.
-/

namespace DesignMetrics
namespace Classes

/-- The class of a name gives `parent` as its parent, whether that is known or not. -/
def Declares (classes : Classes) (name parent : String) : Prop :=
  ∃ c, classes.find? name = some c ∧ c.parent = some parent

/-- The way up from a class ends at one whose declared parent is missing. -/
def EndsBelow (classes : Classes) (name missing : String) : Prop :=
  ∃ last, classes.Reaches name last ∧ classes.Declares last missing ∧ missing ∉ classes.keys

/-- The classes with one more. -/
def enter (classes : Classes) (c : ClassInfo) : Classes :=
  OrderedMap.insert classes c.name c

theorem ofInfos_append_singleton (infos : List ClassInfo) (c : ClassInfo) :
    ofInfos (infos ++ [c]) = (ofInfos infos).enter c := by
  rw [ofInfos, OrderedMap.ofList, List.map_append, List.foldl_append]
  rfl

variable {classes : Classes} {name parent other missing : String} {n : Nat}

/-! ## Declared parents -/

/-- A class inherits from the parent that it declares if there is one of that name. -/
theorem inherits_iff_declares :
    classes.Inherits name parent ↔ classes.Declares name parent ∧ parent ∈ classes.keys := by
  rw [Inherits, parent?_eq_some_iff, Declares]
  constructor
  · rintro ⟨c, hc, hparent, hmem⟩
    exact ⟨⟨c, hc, hparent⟩, hmem⟩
  · rintro ⟨⟨c, hc, hparent⟩, hmem⟩
    exact ⟨c, hc, hparent, hmem⟩

namespace Declares

theorem unique (h : classes.Declares name parent) (h' : classes.Declares name other) :
    parent = other := by
  obtain ⟨c, hc, hparent⟩ := h
  obtain ⟨d, hd, hother⟩ := h'
  obtain rfl : c = d := Option.some.inj (hc.symm.trans hd)
  exact Option.some.inj (hparent.symm.trans hother)

theorem mem_keys (h : classes.Declares name parent) : name ∈ classes.keys := by
  obtain ⟨c, hc, -⟩ := h
  exact classes.mem_keys_of_find? hc

theorem parent?_eq_none (h : classes.Declares name missing) (hmissing : missing ∉ classes.keys) :
    classes.parent? name = none := by
  rw [Option.eq_none_iff_forall_ne_some]
  intro p hp
  obtain ⟨hdeclares, hmem⟩ := inherits_iff_declares.1 hp
  rw [← h.unique hdeclares] at hmem
  exact hmissing hmem

end Declares

namespace EndsBelow

/-- A class from which the way up ends has a depth. -/
theorem exists_hasDepth (h : classes.EndsBelow name missing) : ∃ n, classes.HasDepth name n := by
  obtain ⟨last, hreaches, hdeclares, hmissing⟩ := h
  induction hreaches using Relation.ReflTransGen.head_induction_on with
  | refl => exact ⟨1, .root (hdeclares.parent?_eq_none hmissing)⟩
  | head hstep _ ih =>
    obtain ⟨n, hn⟩ := ih
    exact ⟨n + 1, .child hstep hn⟩

/-- The way up from a class ends below a missing parent exactly if that of its known parent
does. -/
theorem iff_of_inherits (hp : classes.Inherits name parent) :
    classes.EndsBelow name missing ↔ classes.EndsBelow parent missing := by
  constructor
  · rintro ⟨last, hreaches, hdeclares, hmissing⟩
    rcases Relation.ReflTransGen.cases_head hreaches with rfl | ⟨p, hstep, habove⟩
    · -- the last class of a way has no known parent
      rw [Inherits, hdeclares.parent?_eq_none hmissing] at hp
      cases hp
    · rw [hp.unique hstep]
      exact ⟨last, habove, hdeclares, hmissing⟩
  · rintro ⟨last, hreaches, hlast⟩
    exact ⟨last, .head hp hreaches, hlast⟩

theorem iff_of_root (hroot : classes.parent? name = none) (hmissing : missing ∉ classes.keys) :
    classes.EndsBelow name missing ↔ classes.Declares name missing := by
  constructor
  · rintro ⟨last, hreaches, hdeclares, -⟩
    rwa [← hreaches.eq_of_parent?_eq_none hroot]
  · exact fun h => ⟨name, .refl, h, hmissing⟩

end EndsBelow

/-! ## Ways with one more class -/

section Enter

variable {c : ClassInfo}

theorem find?_enter_of_ne (hname : name ≠ c.name) :
    (classes.enter c).find? name = classes.find? name := by
  rw [enter, OrderedMap.find?_insert, if_neg hname]

theorem declares_enter_iff (hname : name ≠ c.name) :
    (classes.enter c).Declares name parent ↔ classes.Declares name parent := by
  unfold Declares
  rw [find?_enter_of_ne hname]

variable (hnew : c.name ∉ classes.keys)
include hnew

theorem keys_enter : (classes.enter c).keys = classes.keys ++ [c.name] := by
  rw [OrderedMap.keys, enter, OrderedMap.entries_insert_of_not_mem classes hnew, List.map_append]
  rfl

theorem values_enter : (classes.enter c).values = classes.values ++ [c] := by
  rw [OrderedMap.values, enter, OrderedMap.entries_insert_of_not_mem classes hnew, List.map_append]
  rfl

theorem mem_keys_enter : name ∈ (classes.enter c).keys ↔ name ∈ classes.keys ∨ name = c.name := by
  rw [keys_enter hnew, List.mem_append, List.mem_singleton]

theorem ne_of_mem_keys (h : name ∈ classes.keys) : name ≠ c.name := by
  rintro rfl
  exact hnew h

/-- Whoever had a known parent keeps it. -/
theorem Inherits.enter (h : classes.Inherits name parent) :
    (classes.enter c).Inherits name parent := by
  obtain ⟨hdeclares, hmem⟩ := inherits_iff_declares.1 h
  have hname := ne_of_mem_keys hnew hdeclares.mem_keys
  exact inherits_iff_declares.2
    ⟨(declares_enter_iff hname).2 hdeclares, (mem_keys_enter hnew).2 (.inl hmem)⟩

/-- Another class than the new one gets no parent but the new one. -/
theorem Inherits.of_enter (h : (classes.enter c).Inherits name parent) (hname : name ≠ c.name)
    (hparent : parent ≠ c.name) : classes.Inherits name parent := by
  obtain ⟨hdeclares, hmem⟩ := inherits_iff_declares.1 h
  have hold : parent ∈ classes.keys := ((mem_keys_enter hnew).1 hmem).resolve_right hparent
  exact inherits_iff_declares.2 ⟨(declares_enter_iff hname).1 hdeclares, hold⟩

/-- The new class becomes the known parent of those that were missing it. -/
theorem Declares.inherits_enter (h : classes.Declares name c.name) :
    (classes.enter c).Inherits name c.name := by
  have hname := ne_of_mem_keys hnew h.mem_keys
  exact inherits_iff_declares.2
    ⟨(declares_enter_iff hname).2 h, (mem_keys_enter hnew).2 (.inr rfl)⟩

theorem Reaches.enter (h : classes.Reaches name other) : (classes.enter c).Reaches name other :=
  Relation.ReflTransGen.mono (fun _ _ hstep => hstep.enter hnew) name other h

theorem EndsBelow.reaches_enter (h : classes.EndsBelow name c.name) :
    (classes.enter c).Reaches name c.name := by
  obtain ⟨last, hreaches, hdeclares, -⟩ := h
  exact (hreaches.enter hnew).tail (hdeclares.inherits_enter hnew)

/-! ## Depths with one more class -/

/-- A way that ended below the new class goes on with the way of that class. -/
theorem HasDepth.enter_of_endsBelow {m : Nat} (h : classes.HasDepth name n)
    (hends : classes.EndsBelow name c.name) (hm : (classes.enter c).HasDepth c.name m) :
    (classes.enter c).HasDepth name (n + m) := by
  induction h with
  | root hroot =>
    have hdeclares := (EndsBelow.iff_of_root hroot hnew).1 hends
    rw [Nat.add_comm]
    exact .child (hdeclares.inherits_enter hnew) hm
  | child hp _ ih =>
    rw [Nat.add_right_comm]
    exact .child (hp.enter hnew) (ih ((EndsBelow.iff_of_inherits hp).1 hends))

/-- Any other way is as long as it was. -/
theorem HasDepth.enter_of_not_endsBelow (h : classes.HasDepth name n) (hname : name ∈ classes.keys)
    (hends : ¬classes.EndsBelow name c.name) : (classes.enter c).HasDepth name n := by
  induction h with
  | @root name hroot =>
    refine .root (Option.eq_none_iff_forall_ne_some.2 fun p hp => ?_)
    have hp : (classes.enter c).Inherits name p := hp
    have hne := ne_of_mem_keys hnew hname
    by_cases hpnew : p = c.name
    · -- the new class is no parent of a class that did not miss it
      rw [hpnew] at hp
      have hdeclares := (declares_enter_iff hne).1 (inherits_iff_declares.1 hp).1
      exact hends ((EndsBelow.iff_of_root hroot hnew).2 hdeclares)
    · have hold := hp.of_enter hnew hne hpnew
      rw [Inherits, hroot] at hold
      cases hold
  | child hp _ ih =>
    exact .child (hp.enter hnew)
      (ih hp.mem_keys_right fun h => hends ((EndsBelow.iff_of_inherits hp).2 h))

/-! ## Cycles with one more class -/

theorem IsCycle.enter {d : Cycle} (h : classes.IsCycle d) : (classes.enter c).IsCycle d := by
  cases h with
  | intro hnodup hascends => exact .intro hnodup (hascends.imp fun _ _ hstep => hstep.enter hnew)

/-- A cycle without the new class was there before. -/
theorem IsCycle.of_enter {d : Cycle} (h : (classes.enter c).IsCycle d) (hd : c.name ∉ d.members) :
    classes.IsCycle d := by
  cases h with
  | @intro first ring hnodup hascends =>
    refine .intro hnodup (hascends.imp_of_mem_imp ?_)
    intro a b ha hb hstep
    have hne : ∀ x ∈ first :: ring ++ [first], x ≠ c.name := by
      rintro x hx rfl
      exact hd hx
    exact hstep.of_enter hnew (hne a ha) (hne b hb)

/-- All old cycles are reported, each from one of its classes on, and besides them at most one,
which runs through the new class. -/
theorem exists_cycles_enter :
    ∃ closed kept, (classes.enter c).cycles.Perm (closed ++ kept) ∧
      (∃ between, classes.cycles.Perm between ∧ List.Forall₂ Cycle.Turned between kept) ∧
      closed.length ≤ 1 ∧ ∀ d ∈ closed, c.name ∈ d.members := by
  let isNew (d : Cycle) : Bool := decide (c.name ∈ d.members)
  have hclosed : ∀ d ∈ (classes.enter c).cycles.filter isNew,
      d ∈ (classes.enter c).cycles ∧ c.name ∈ d.members := by
    intro d hd
    obtain ⟨hmem, hname⟩ := List.mem_filter.1 hd
    exact ⟨hmem, of_decide_eq_true hname⟩
  have hkept : ∀ d, d ∈ (classes.enter c).cycles.filter (fun d => !isNew d) ↔
      d ∈ (classes.enter c).cycles ∧ c.name ∉ d.members := by
    intro d
    rw [List.mem_filter]
    simp [isNew]
  refine ⟨(classes.enter c).cycles.filter isNew,
    (classes.enter c).cycles.filter fun d => !isNew d, ?_, ?_, ?_, fun d hd => (hclosed d hd).2⟩
  · exact (List.filter_append_perm isNew _).symm
  · refine exists_perm_turned (List.Sublist.refl classes.cycles) List.filter_sublist ?_ ?_
    · intro d hd
      have hcycle := isCycle_of_mem_cycles hd
      obtain ⟨e, he, hsame⟩ := exists_mem_cycles (hcycle.enter hnew)
      -- the classes of an old cycle are old
      have hold : c.name ∉ e.members := fun hname => hnew (hcycle.mem_keys ((hsame _).2 hname))
      exact ⟨e, (hkept e).2 ⟨he, hold⟩,
        (hcycle.enter hnew).turned (isCycle_of_mem_cycles he) hsame⟩
    · intro e he
      obtain ⟨hmem, hold⟩ := (hkept e).1 he
      have hcycle := isCycle_of_mem_cycles hmem
      obtain ⟨d, hd, hsame⟩ := exists_mem_cycles (hcycle.of_enter hnew hold)
      exact ⟨d, hd, ((isCycle_of_mem_cycles hd).enter hnew).turned hcycle fun x => (hsame x).symm⟩
  · -- cycles with a common class are one and the same entry
    have hone : ∀ d ∈ (classes.enter c).cycles.filter isNew,
        ∀ e ∈ (classes.enter c).cycles.filter isNew, d = e := by
      intro d hd e he
      obtain ⟨hdmem, hdname⟩ := hclosed d hd
      obtain ⟨hemem, hename⟩ := hclosed e he
      exact eq_of_mem_cycles hdmem hemem fun x =>
        (isCycle_of_mem_cycles hdmem).mem_iff_of_common (isCycle_of_mem_cycles hemem) hdname hename
    have hnodup := (nodup_cycles (classes.enter c)).filter isNew
    rcases hlist : (classes.enter c).cycles.filter isNew with _ | ⟨d, _ | ⟨e, rest⟩⟩
    · exact Nat.zero_le 1
    · exact Nat.le_refl 1
    · rw [hlist] at hone hnodup
      have heq := hone d (by simp) e (by simp)
      rw [heq, List.nodup_cons] at hnodup
      exact absurd List.mem_cons_self hnodup.1

/-! ## Positions with one more class -/

/-- A class that was missing the new one is deeper by the depth of that, if it has one. -/
theorem depth?_enter_of_endsBelow (hends : classes.EndsBelow name c.name) :
    ∃ n, (classes.ancestry name).depth? = some n ∧
      ((classes.enter c).ancestry name).depth? =
        ((classes.enter c).ancestry c.name).depth?.map (n + ·) := by
  obtain ⟨n, hn⟩ := hends.exists_hasDepth
  refine ⟨n, depth?_eq_some_iff.2 hn, ?_⟩
  cases hm : ((classes.enter c).ancestry c.name).depth? with
  | some m =>
    exact depth?_eq_some_iff.2 (hn.enter_of_endsBelow hnew hends (depth?_eq_some_iff.1 hm))
  | none =>
    -- with a depth, the class would give one to all that lies above it
    rw [Option.map_none, Option.eq_none_iff_forall_ne_some]
    intro k hk
    obtain ⟨m, hm'⟩ := (depth?_eq_some_iff.1 hk).exists_of_reaches (hends.reaches_enter hnew)
    rw [depth?_eq_some_iff.2 hm'] at hm
    cases hm

/-- The depth of a class stays unless the new class ends its way up. -/
theorem depth?_enter_of_not_endsBelow (hname : name ∈ classes.keys)
    (hends : ¬classes.EndsBelow name c.name) :
    ((classes.enter c).ancestry name).depth? = (classes.ancestry name).depth? := by
  cases hn : (classes.ancestry name).depth? with
  | some n =>
    exact depth?_eq_some_iff.2
      ((depth?_eq_some_iff.1 hn).enter_of_not_endsBelow hnew hname hends)
  | none =>
    obtain ⟨d, hd, x, hx, hreaches⟩ := depth?_eq_none_iff.1 hn
    have hcycle := (isCycle_of_mem_cycles hd).enter hnew
    obtain ⟨e, he, -⟩ := exists_ancestry_of_reaches hcycle hx (hreaches.enter hnew)
    rw [he]
    rfl

/-- The children of an old class are the same, and the new class if that inherits from it. -/
theorem childrenOf_enter (hparent : parent ∈ classes.keys) :
    (classes.enter c).childrenOf parent =
      classes.childrenOf parent ++ if c.parent = some parent then [c.name] else [] := by
  rw [childrenOf_eq ((mem_keys_enter hnew).2 (.inl hparent)), childrenOf_eq hparent,
    values_enter hnew, List.filter_append, List.map_append]
  by_cases hc : c.parent = some parent
  · simp [hc]
  · simp [hc]

end Enter

theorem find?_positions_of_mem (hname : name ∈ classes.keys) :
    (Hierarchy.ofClasses classes).positions.find? name =
      some ⟨name, (classes.ancestry name).depth?.map Int.ofNat,
        ((classes.childrenOf name).length : Int)⟩ := by
  obtain ⟨c, hc⟩ := classes.mem_keys_iff.1 hname
  rw [find?_positions, hc, Option.map_some, position, find?_children]

end Classes

namespace Hierarchy

/-- How the position of an old class follows from the one that it had and from that of the new
class. -/
structure Follows (h : Hierarchy) (c : ClassInfo) (new old now : Position) : Prop where
  childCount : now.childCount = old.childCount + if c.parent = some old.name then 1 else 0
  depth_of_endsBelow : h.classes.EndsBelow old.name c.name →
    ∃ depth, old.depth = some depth ∧ now.depth = new.depth.map (depth + ·)
  depth_of_not_endsBelow : ¬h.classes.EndsBelow old.name c.name → now.depth = old.depth

/-- What one more class changes in a hierarchy. -/
structure Extends (h : Hierarchy) (c : ClassInfo) (h' : Hierarchy) : Prop where
  keys : h'.classes.keys = h.classes.keys ++ [c.name]
  classes : ∀ name ∈ h.classes.keys, h'.classes.find? name = h.classes.find? name
  new : h'.classes.find? c.name = some c
  positions : ∃ new, h'.positions.find? c.name = some new ∧
    ∀ name ∈ h.classes.keys, ∃ old now, h.positions.find? name = some old ∧
      h'.positions.find? name = some now ∧ old.name = name ∧ h.Follows c new old now
  /-- No old cycle is lost, and besides them there is at most one, through the new class. -/
  cycles : ∃ closed kept, h'.cycles.Perm (closed ++ kept) ∧
    (∃ between, h.cycles.Perm between ∧ List.Forall₂ Cycle.Turned between kept) ∧
    closed.length ≤ 1 ∧ ∀ d ∈ closed, c.name ∈ d.members

end Hierarchy

/-- All views of a hierarchy are those of the larger one, as far as the new class does not change
them. -/
theorem Classes.extends_enter {classes : Classes} {c : ClassInfo}
    (hnew : c.name ∉ classes.keys) :
    (Hierarchy.ofClasses classes).Extends c (Hierarchy.ofClasses (classes.enter c)) where
  keys := keys_enter hnew
  classes _ hname := find?_enter_of_ne (ne_of_mem_keys hnew hname)
  new := by
    show (classes.enter c).find? c.name = some c
    rw [enter, OrderedMap.find?_insert, if_pos rfl]
  positions := by
    refine ⟨_, find?_positions_of_mem ((mem_keys_enter hnew).2 (.inr rfl)), ?_⟩
    intro name hname
    refine ⟨_, _, find?_positions_of_mem hname,
      find?_positions_of_mem ((mem_keys_enter hnew).2 (.inl hname)), rfl, ?_, ?_, ?_⟩
    · -- one child more, for the parent alone
      show (((classes.enter c).childrenOf name).length : Int) =
        (classes.childrenOf name).length + if c.parent = some name then 1 else 0
      rw [childrenOf_enter hnew hname, List.length_append, Int.natCast_add]
      split <;> rfl
    · -- chains that ended at the new name go on through it
      intro hends
      obtain ⟨n, hn, hnow⟩ := depth?_enter_of_endsBelow hnew hends
      refine ⟨n, by rw [hn]; rfl, ?_⟩
      show Option.map _ _ = Option.map _ (Option.map _ _)
      rw [hnow, Option.map_map, Option.map_map]
      rfl
    · -- all others end where they did
      intro hends
      show Option.map _ _ = Option.map _ _
      rw [depth?_enter_of_not_endsBelow hnew hname hends]
  cycles := exists_cycles_enter hnew

/-- A class with a new name at the end of a list changes in the hierarchy only what it must. All
classes that were there stay. Its parent gets one child more. Classes whose ways up ended where it
was missing are deeper by its own depth, and no other depth changes. All cycles are still reported,
but for where they start, and no more than one is new, which runs through the new class. -/
theorem extends_of_ofInfos_append {infos : List ClassInfo} {c : ClassInfo}
    (hnew : ∀ d ∈ infos, d.name ≠ c.name) :
    (Hierarchy.ofInfos infos).Extends c (Hierarchy.ofInfos (infos ++ [c])) := by
  have hkey : c.name ∉ (Classes.ofInfos infos).keys := by
    intro hmem
    obtain ⟨d, hd⟩ := (OrderedMap.mem_keys_iff _).1 hmem
    have hname := Classes.keyed_ofInfos infos _ _ hd
    rw [Classes.find?_ofInfos] at hd
    exact hnew d (List.mem_reverse.1 (List.mem_of_find?_eq_some hd)) hname
  have h := Classes.extends_enter hkey
  rwa [← Classes.ofInfos_append_singleton] at h

/-- A class `C` that `A` was missing, with a cycle beside them that is not touched. -/
theorem extends_of_ofInfos_append_missing :
    let infos : List ClassInfo := [{ name := "A", parent := some "C" },
      { name := "B", parent := some "A" }, { name := "X", parent := some "Y" },
      { name := "Y", parent := some "X" }]
    let c : ClassInfo := { name := "C", parent := some "Z" }
    (∀ d ∈ infos, d.name ≠ c.name) ∧
      (Hierarchy.ofInfos infos).Extends c (Hierarchy.ofInfos (infos ++ [c])) := by
  intro infos c
  have hnew : ∀ d ∈ infos, d.name ≠ c.name := by decide
  exact ⟨hnew, extends_of_ofInfos_append hnew⟩

/-- The new class inherits from one that was missing it, and closes a cycle. -/
example :
    (Hierarchy.ofInfos [{ name := "A", parent := some "C" }, { name := "B", parent := some "A" },
      { name := "C", parent := some "B" }]).cycles = [⟨["A", "C", "B", "A"]⟩] := by
  decide +kernel

end DesignMetrics
