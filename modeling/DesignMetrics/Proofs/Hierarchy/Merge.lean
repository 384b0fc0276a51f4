import DesignMetrics.Hierarchy.Basic
import DesignMetrics.Proofs.OrderedMap
import Mathlib.Data.List.Pairwise

/-!
# One class for each name

What `Classes.ofInfos` keeps of a list of classes: under every name its last class, which is
therefore filed under its own name.
-/

namespace DesignMetrics
namespace Classes

/-- The last class of a name. -/
def latest? (infos : List ClassInfo) (name : String) : Option ClassInfo :=
  infos.reverse.find? (·.name = name)

/-- Every class is filed under its own name. -/
def Keyed (classes : Classes) : Prop :=
  ∀ key c, classes.find? key = some c → c.name = key

/-- Looking up a name finds the first class that has it. -/
theorem lookup_map_name (infos : List ClassInfo) (name : String) :
    (infos.map fun c => (c.name, c)).lookup name = infos.find? (·.name = name) := by
  induction infos with
  | nil => rfl
  | cons c infos ih =>
    rw [List.map_cons, OrderedMap.lookup_cons_eq_ite, ih, List.find?_cons]
    by_cases h : name = c.name
    · simp [h]
    · have hc : c.name ≠ name := fun e => h e.symm
      simp [h, hc]

/-- Under a name stands its last class. -/
theorem find?_ofInfos (infos : List ClassInfo) (name : String) :
    (ofInfos infos).find? name = latest? infos name := by
  rw [ofInfos, OrderedMap.find?_ofList, ← List.map_reverse, lookup_map_name, latest?]

/-- Classes of a list are filed under their own names. -/
theorem keyed_ofInfos (infos : List ClassInfo) : (ofInfos infos).Keyed := by
  intro key c h
  rw [find?_ofInfos] at h
  simpa using List.find?_some h

/-- No class is made up. -/
theorem mem_of_find?_ofInfos {infos : List ClassInfo} {name : String} {c : ClassInfo}
    (h : (ofInfos infos).find? name = some c) : c ∈ infos := by
  rw [find?_ofInfos] at h
  exact List.mem_reverse.1 (List.mem_of_find?_eq_some h)

theorem mem_of_mem_values_ofInfos {infos : List ClassInfo} {c : ClassInfo}
    (h : c ∈ (ofInfos infos).values) : c ∈ infos := by
  obtain ⟨name, hname⟩ := (OrderedMap.mem_values_iff _).1 h
  exact mem_of_find?_ofInfos hname

/-- No name is made up either. -/
theorem exists_mem_of_mem_keys_ofInfos {infos : List ClassInfo} {name : String}
    (h : name ∈ (ofInfos infos).keys) : ∃ c ∈ infos, c.name = name := by
  obtain ⟨c, hc⟩ := (OrderedMap.mem_keys_iff _).1 h
  exact ⟨c, mem_of_find?_ofInfos hc, keyed_ofInfos infos name c hc⟩

/-- A class is kept exactly if it is what its name stands for. -/
theorem Keyed.mem_values_iff {classes : Classes} (hk : classes.Keyed) {c : ClassInfo} :
    c ∈ classes.values ↔ classes.find? c.name = some c := by
  rw [OrderedMap.mem_values_iff]
  constructor
  · rintro ⟨key, h⟩
    rwa [hk key c h]
  · intro h
    exact ⟨c.name, h⟩

theorem Keyed.name_mem_keys {classes : Classes} (hk : classes.Keyed) {c : ClassInfo}
    (hc : c ∈ classes.values) : c.name ∈ classes.keys :=
  classes.mem_keys_of_find? (hk.mem_values_iff.1 hc)

/-- What is kept of a list is kept again as it is. -/
theorem Keyed.ofInfos_values {classes : Classes} (hk : classes.Keyed) :
    ofInfos classes.values = classes := by
  have hentries : classes.values.map (fun c => (c.name, c)) = classes.entries := by
    rw [OrderedMap.values, List.map_map]
    conv_rhs => rw [← List.map_id classes.entries]
    apply List.map_congr_left
    rintro ⟨key, c⟩ he
    exact congrArg (·, c) (hk key c (classes.find?_eq_some_iff.2 he))
  rw [ofInfos, hentries, OrderedMap.ofList_entries]

/-- The names are listed in the order of the classes. -/
theorem Keyed.map_name_values {classes : Classes} (hk : classes.Keyed) :
    classes.values.map ClassInfo.name = classes.keys := by
  rw [OrderedMap.values, OrderedMap.keys, List.map_map]
  apply List.map_congr_left
  rintro ⟨key, c⟩ he
  exact hk key c (classes.find?_eq_some_iff.2 he)

/-! ## The classes that are kept -/

/-- The classes of a list that no later class of the same name replaces. -/
def lastOfEach (infos : List ClassInfo) : List ClassInfo :=
  infos.pwFilter fun c d => c.name ≠ d.name

/-- No two classes that are kept have the same name. -/
theorem pairwise_lastOfEach (infos : List ClassInfo) :
    (lastOfEach infos).Pairwise fun c d => c.name ≠ d.name :=
  List.pairwise_pwFilter infos

/-- An earlier class counts only if no later one has its name. -/
theorem latest?_cons (c : ClassInfo) (infos : List ClassInfo) (name : String) :
    latest? (c :: infos) name =
      (latest? infos name).or (if c.name = name then some c else none) := by
  rw [latest?, List.reverse_cons, List.find?_append, List.find?_singleton, latest?]
  simp only [decide_eq_true_eq]

theorem name_eq_of_latest? {infos : List ClassInfo} {name : String} {c : ClassInfo}
    (h : latest? infos name = some c) : c.name = name := by
  simpa using List.find?_some h

/-- A class is kept exactly if it is the last one of its name. -/
theorem mem_lastOfEach_iff {infos : List ClassInfo} {c : ClassInfo} :
    c ∈ lastOfEach infos ↔ latest? infos c.name = some c := by
  induction infos generalizing c with
  | nil => simp [lastOfEach, latest?]
  | cons d infos ih =>
    rw [latest?_cons]
    by_cases hlast : ∀ e ∈ lastOfEach infos, d.name ≠ e.name
    · -- no class of this name comes later
      have hnone : latest? infos d.name = none := by
        rw [Option.eq_none_iff_forall_ne_some]
        intro e he
        have hname := name_eq_of_latest? he
        exact hlast e (ih.2 (hname ▸ he)) hname.symm
      rw [lastOfEach, List.pwFilter_cons_of_pos hlast, List.mem_cons]
      constructor
      · rintro (rfl | hc)
        · rw [hnone, Option.none_or, if_pos rfl]
        · rw [ih.1 hc, Option.some_or]
      · intro h
        cases hc : latest? infos c.name with
        | some e =>
          rw [hc, Option.some_or] at h
          exact .inr (ih.2 (hc.trans h))
        | none =>
          rw [hc, Option.none_or] at h
          split at h
          · exact .inl (Option.some.inj h).symm
          · cases h
    · -- a later class of this name is kept in its place
      obtain ⟨e, he, hname⟩ : ∃ e ∈ lastOfEach infos, d.name = e.name := by simpa using hlast
      rw [lastOfEach, List.pwFilter_cons_of_neg hlast]
      refine ih.trans ?_
      by_cases hc : d.name = c.name
      · rw [← hc, hname, ih.1 he, Option.some_or]
      · rw [if_neg hc, Option.or_none]

/-- The classes that are filed are those that are kept, in another order. -/
theorem values_ofInfos_perm (infos : List ClassInfo) :
    (ofInfos infos).values.Perm (lastOfEach infos) := by
  have hk := keyed_ofInfos infos
  have hvalues : (ofInfos infos).values.Nodup := by
    refine .of_map ClassInfo.name ?_
    rw [hk.map_name_values]
    exact (ofInfos infos).keys_nodup
  have hkept : (lastOfEach infos).Nodup :=
    (pairwise_lastOfEach infos).imp fun hne heq => hne (congrArg ClassInfo.name heq)
  rw [List.perm_ext_iff_of_nodup hvalues hkept]
  intro c
  rw [hk.mem_values_iff, find?_ofInfos, mem_lastOfEach_iff]

end Classes
end DesignMetrics
