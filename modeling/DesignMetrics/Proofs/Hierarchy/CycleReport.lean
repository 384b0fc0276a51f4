import DesignMetrics.Analysis
import DesignMetrics.Proofs.Hierarchy.Cycle
import DesignMetrics.Proofs.Hierarchy.Links
import Mathlib.Data.List.Forall2

/-!
# The cycles that are reported

Every class above which there is a cycle finds that cycle, each from its own place, and of the
cycles with the same members only the first one found is kept. What is left is one entry for each
cycle among the classes.
-/

namespace DesignMetrics

/-! ## The first of the cycles with the same members -/

namespace Cycle

variable {c d e : Cycle} {cycles : List Cycle}

theorem sameMembers_iff : c.sameMembers d = true ↔ ∀ x, x ∈ c.members ↔ x ∈ d.members := by
  simp only [sameMembers, Bool.and_eq_true, List.all_eq_true, List.contains_iff_mem]
  constructor
  · rintro ⟨hcd, hdc⟩ x
    exact ⟨hcd x, hdc x⟩
  · intro h
    exact ⟨fun x => (h x).1, fun x => (h x).2⟩

theorem sameMembers_refl (c : Cycle) : c.sameMembers c = true :=
  sameMembers_iff.2 fun _ => Iff.rfl

theorem sameMembers_trans (hcd : c.sameMembers d = true) (hde : d.sameMembers e = true) :
    c.sameMembers e = true :=
  sameMembers_iff.2 fun x => (sameMembers_iff.1 hcd x).trans (sameMembers_iff.1 hde x)

theorem distinct_sublist (cycles : List Cycle) : (distinct cycles).Sublist cycles := by
  induction cycles with
  | nil => exact .slnil
  | cons c cycles ih => exact (List.filter_sublist.trans ih).cons_cons c

/-- Of every cycle one with the same members is kept. -/
theorem exists_mem_distinct (hc : c ∈ cycles) : ∃ d ∈ distinct cycles, d.sameMembers c = true := by
  induction cycles with
  | nil => cases hc
  | cons e cycles ih =>
    rcases List.mem_cons.1 hc with rfl | hc
    · exact ⟨c, List.mem_cons_self, c.sameMembers_refl⟩
    · obtain ⟨d, hd, hdc⟩ := ih hc
      cases hed : e.sameMembers d with
      | true => exact ⟨e, List.mem_cons_self, sameMembers_trans hed hdc⟩
      | false =>
        refine ⟨d, List.mem_cons_of_mem e (List.mem_filter.2 ⟨hd, ?_⟩), hdc⟩
        rw [hed]
        rfl

/-- No two cycles that are kept have the same members. -/
theorem pairwise_distinct (cycles : List Cycle) :
    (distinct cycles).Pairwise fun c d => c.sameMembers d = false := by
  induction cycles with
  | nil => exact .nil
  | cons c cycles ih =>
    rw [distinct, List.pairwise_cons]
    refine ⟨?_, ih.filter _⟩
    intro d hd
    simpa using (List.mem_filter.1 hd).2

end Cycle

/-- The pairs whose second part passes a test. -/
theorem exists_forall₂_filter {α β : Type} {R : α → β → Prop} (p : β → Bool) {as : List α}
    {bs : List β} (h : List.Forall₂ R as bs) :
    ∃ as', as'.Sublist as ∧ List.Forall₂ (fun a b => R a b ∧ p b = true) as' (bs.filter p) := by
  induction h with
  | nil => exact ⟨[], .slnil, .nil⟩
  | @cons a b as bs hab _ ih =>
    obtain ⟨as', hsub, hall⟩ := ih
    by_cases hb : p b = true
    · rw [List.filter_cons_of_pos hb]
      exact ⟨a :: as', hsub.cons_cons a, .cons ⟨hab, hb⟩ hall⟩
    · rw [List.filter_cons_of_neg hb]
      exact ⟨as', hsub.cons a, hall⟩

/-- Every cycle that is kept stands at the place of the first name that has it or another one with
the same members. -/
theorem Cycle.exists_finders (cycleOf? : String → Option Cycle) (names : List String) :
    ∃ finders, finders.Sublist names ∧
      List.Forall₂ (fun name c => cycleOf? name = some c ∧
        ∃ earlier later, names = earlier ++ name :: later ∧
          ∀ other ∈ earlier, ∀ d, cycleOf? other = some d → d.sameMembers c = false)
        finders (distinct (names.filterMap cycleOf?)) := by
  induction names with
  | nil => exact ⟨[], .slnil, .nil⟩
  | cons name names ih =>
    obtain ⟨finders, hsub, hall⟩ := ih
    cases hname : cycleOf? name with
    | none =>
      rw [List.filterMap_cons_none hname]
      refine ⟨finders, hsub.cons name, hall.imp ?_⟩
      rintro finder c ⟨hc, earlier, later, heq, hfirst⟩
      refine ⟨hc, name :: earlier, later, by rw [heq]; rfl, ?_⟩
      intro other hother d hd
      rcases List.mem_cons.1 hother with rfl | hother
      · rw [hname] at hd
        cases hd
      · exact hfirst other hother d hd
    | some e =>
      -- of the finders of later cycles those remain whose cycle is not the first one
      rw [List.filterMap_cons_some hname, distinct]
      obtain ⟨finders', hsub', hall'⟩ := exists_forall₂_filter (fun d => !e.sameMembers d) hall
      refine ⟨name :: finders', (hsub'.trans hsub).cons_cons name, .cons ?_ (hall'.imp ?_)⟩
      · exact ⟨hname, [], names, rfl, by simp⟩
      · rintro finder c ⟨⟨hc, earlier, later, heq, hfirst⟩, hnew⟩
        refine ⟨hc, name :: earlier, later, by rw [heq]; rfl, ?_⟩
        intro other hother d hd
        rcases List.mem_cons.1 hother with rfl | hother
        · obtain rfl : e = d := by simpa [hname] using hd
          simpa using hnew
        · exact hfirst other hother d hd

namespace Classes

/-- The class is the first of all whose way up runs into the cycle, and enters it where the cycle
is said to start. -/
structure FirstFinder (classes : Classes) (name : String) (c : Cycle) : Prop where
  first : ∃ earlier later, classes.keys = earlier ++ name :: later ∧
    ∀ other ∈ earlier, ∀ x ∈ c.members, ¬ classes.Reaches other x
  enters : ∃ start, c.members.head? = some start ∧ classes.Enters name c start

variable {classes : Classes} {c d : Cycle}

theorem mem_filterMap_ancestry :
    c ∈ classes.keys.filterMap (fun name => (classes.ancestry name).cycle?) ↔
      ∃ name ∈ classes.keys, classes.ancestry name = .cyclic c := by
  rw [List.mem_filterMap]
  refine exists_congr fun name => and_congr_right fun _ => ?_
  cases classes.ancestry name <;> simp [Ancestry.cycle?]

theorem isCycle_of_mem_cycles (hc : c ∈ classes.cycles) : classes.IsCycle c := by
  obtain ⟨name, -, h⟩ := mem_filterMap_ancestry.1 ((Cycle.distinct_sublist _).subset hc)
  exact (isCycle_of_ancestry h).1

/-- Every cycle among the classes is reported, from one place or another. -/
theorem exists_mem_cycles (hc : classes.IsCycle c) :
    ∃ d ∈ classes.cycles, ∀ x, x ∈ c.members ↔ x ∈ d.members := by
  obtain ⟨first, hmem, hfirst⟩ := hc.exists_head
  have hfound := mem_filterMap_ancestry.2 ⟨first, hc.mem_keys hmem, hc.ancestry_head hfirst⟩
  obtain ⟨d, hd, hdc⟩ := Cycle.exists_mem_distinct hfound
  exact ⟨d, hd, fun x => (Cycle.sameMembers_iff.1 hdc x).symm⟩

theorem pairwise_disjoint_cycles (classes : Classes) :
    classes.cycles.Pairwise fun c d => c.members.Disjoint d.members := by
  refine (Cycle.pairwise_distinct _).imp_of_mem ?_
  intro c d hc hd hne x hxc hxd
  have hcc := isCycle_of_mem_cycles hc
  have hcd := isCycle_of_mem_cycles hd
  have hsame := Cycle.sameMembers_iff.2 fun y => hcc.mem_iff_of_common (y := y) hcd hxc hxd
  rw [hne] at hsame
  cases hsame

/-- Reported cycles with the same members are one entry. -/
theorem eq_of_mem_cycles (hc : c ∈ classes.cycles) (hd : d ∈ classes.cycles)
    (h : ∀ x, x ∈ c.members ↔ x ∈ d.members) : c = d := by
  by_contra hne
  obtain ⟨first, hfirst, -⟩ := (isCycle_of_mem_cycles hc).exists_head
  have : Std.Symm fun c d : Cycle => c.members.Disjoint d.members :=
    ⟨fun _ _ h x hx hx' => h hx' hx⟩
  have hdisjoint := (pairwise_disjoint_cycles classes).forall hc hd hne
  exact hdisjoint hfirst ((h first).1 hfirst)

theorem exists_firstFinders (classes : Classes) :
    ∃ finders, finders.Sublist classes.keys ∧
      List.Forall₂ classes.FirstFinder finders classes.cycles := by
  obtain ⟨finders, hsub, hall⟩ :=
    Cycle.exists_finders (fun name => (classes.ancestry name).cycle?) classes.keys
  refine ⟨finders, hsub, hall.imp ?_⟩
  rintro name c ⟨hc, earlier, later, heq, hfirst⟩
  have hancestry : classes.ancestry name = .cyclic c := by
    cases ha : classes.ancestry name <;> simp_all [Ancestry.cycle?]
  obtain ⟨hcycle, henters⟩ := isCycle_of_ancestry hancestry
  refine ⟨⟨earlier, later, heq, ?_⟩, henters⟩
  intro other hother x hx hreaches
  obtain ⟨d, hd, -, hsame⟩ := exists_ancestry_of_reaches hcycle hx hreaches
  have hne := hfirst other hother d (by rw [hd]; rfl)
  rw [Cycle.sameMembers_iff.2 fun y => (hsame y).symm] at hne
  cases hne

/-- A class has no depth exactly if it lies in or below a reported cycle. -/
theorem depth?_eq_none_iff {name : String} :
    (classes.ancestry name).depth? = none ↔
      ∃ c ∈ classes.cycles, ∃ x ∈ c.members, classes.Reaches name x := by
  constructor
  · intro h
    cases ha : classes.ancestry name with
    | rooted chain =>
      rw [ha] at h
      cases h
    | cyclic c =>
      obtain ⟨hcycle, first, -, henters⟩ := isCycle_of_ancestry ha
      obtain ⟨d, hd, hsame⟩ := exists_mem_cycles hcycle
      exact ⟨d, hd, first, (hsame first).1 henters.2, henters.reaches⟩
  · rintro ⟨c, hc, x, hx, hreaches⟩
    obtain ⟨d, hd, -⟩ := exists_ancestry_of_reaches (isCycle_of_mem_cycles hc) hx hreaches
    rw [hd]
    rfl

end Classes

/-! ## The report -/

/-- The cycle of which an event tells. -/
def Log.Event.cycle? : Log.Event → Option Cycle
  | .cycleFound c => some c
  | _ => none

/-- The warnings of cycles are the entries, in their order. -/
theorem cycleWarnings_linkClasses (infos : List ClassInfo) :
    ((Analysis.linkClasses infos).events.filter (·.level = .warning)).filterMap Log.Event.cycle? =
      (Hierarchy.ofInfos infos).cycles := by
  -- warnings of classes that are replaced tell of no cycle
  have hreplaced : ∀ rs : List Replacement,
      ((rs.map Log.Event.classReplaced).filter (·.level = .warning)).filterMap
        Log.Event.cycle? = [] := by
    intro rs
    rw [List.filterMap_eq_nil_iff]
    intro e he
    obtain ⟨r, -, rfl⟩ := List.mem_map.1 (List.mem_of_mem_filter he)
    rfl
  -- and each cycle that is found is told by one warning
  have hfound : ∀ cs : List Cycle,
      ((cs.map Log.Event.cycleFound).filter (·.level = .warning)).filterMap
        Log.Event.cycle? = cs := by
    intro cs
    have hall : (cs.map Log.Event.cycleFound).filter (·.level = .warning) =
        cs.map Log.Event.cycleFound := by
      rw [List.filter_eq_self]
      intro e he
      obtain ⟨c, -, rfl⟩ := List.mem_map.1 he
      rfl
    rw [hall, List.filterMap_map]
    exact List.filterMap_some
  rw [Analysis.linkClasses, List.filter_append, List.filter_append, List.filterMap_append,
    List.filterMap_append, hreplaced, hfound]
  simp [Log.Event.level]

/-- Linking classes reports their cycles: every entry is a cycle, every cycle has one entry, and
different entries have no class in common. The entries come in the order in which the classes
first run into them, each from the place where it is entered first. Every entry is warned of once.
The classes that get no depth are those that lie in or below a reported cycle. -/
theorem linkClasses_reports_cycles (infos : List ClassInfo) :
    let linked := Analysis.linkClasses infos
    let h := linked.value
    (∀ c ∈ h.cycles, h.classes.IsCycle c) ∧
    (∀ c, h.classes.IsCycle c →
      ∃! d, d ∈ h.cycles ∧ ∀ x, x ∈ c.members ↔ x ∈ d.members) ∧
    (h.cycles.Pairwise fun c d => c.members.Disjoint d.members) ∧
    (∃ finders, finders.Sublist h.classes.keys ∧
      List.Forall₂ h.classes.FirstFinder finders h.cycles) ∧
    (linked.events.filter (·.level = .warning)).filterMap Log.Event.cycle? = h.cycles ∧
    ∀ name ∈ h.classes.keys, ∃ position, h.positions.find? name = some position ∧
      (position.depth = none ↔
        ∃ c ∈ h.cycles, ∃ x ∈ c.members, h.classes.Reaches name x) := by
  refine ⟨?_, ?_, ?_, ?_, cycleWarnings_linkClasses infos, ?_⟩
  · exact fun c => Classes.isCycle_of_mem_cycles
  · intro c hc
    obtain ⟨d, hd, hcd⟩ := Classes.exists_mem_cycles hc
    refine ⟨d, ⟨hd, hcd⟩, ?_⟩
    rintro e ⟨he, hce⟩
    exact Classes.eq_of_mem_cycles he hd fun x => (hce x).symm.trans (hcd x)
  · exact Classes.pairwise_disjoint_cycles _
  · exact Classes.exists_firstFinders _
  · intro name hname
    obtain ⟨c, hc⟩ := (OrderedMap.mem_keys_iff _).1 hname
    have hposition := Classes.find?_positions (Classes.ofInfos infos) name
    rw [show (Classes.ofInfos infos).find? name = some c from hc] at hposition
    exact ⟨_, hposition, Option.map_eq_none_iff.trans Classes.depth?_eq_none_iff⟩

end DesignMetrics
