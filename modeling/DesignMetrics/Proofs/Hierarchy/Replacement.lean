import DesignMetrics.Proofs.Distinct
import DesignMetrics.Proofs.Hierarchy.Extension

/-!
# Classes that take the place of others

A class of a name that is known takes the place of the one before it, and a warning tells of both
files. What is kept has each name once, so linking it again replaces nothing.
-/

namespace DesignMetrics

namespace Classes

variable {infos : List ClassInfo} {c : ClassInfo}

/-! ## What is kept -/

theorem mem_keys_ofInfos_iff {name : String} :
    name ∈ (ofInfos infos).keys ↔ name ∈ infos.map ClassInfo.name := by
  rw [List.mem_map]
  constructor
  · exact exists_mem_of_mem_keys_ofInfos
  · intro h
    have hfound : (latest? infos name).isSome := by
      rw [latest?, List.find?_isSome]
      simpa using h
    rw [← find?_ofInfos] at hfound
    exact (OrderedMap.contains_iff_mem_keys _).1 hfound

/-- The names stand where they came first. -/
theorem firstOccurrences_keys_ofInfos (infos : List ClassInfo) :
    FirstOccurrences (infos.map ClassInfo.name) (ofInfos infos).keys := by
  induction infos using List.reverseRecOn with
  | nil => exact .nil
  | append_singleton infos c ih =>
    have hkeys : (ofInfos (infos ++ [c])).keys =
        if c.name ∈ (ofInfos infos).keys then (ofInfos infos).keys
        else (ofInfos infos).keys ++ [c.name] := by
      rw [ofInfos_append_singleton]
      exact OrderedMap.keys_insertEntry c.name c (ofInfos infos).entries
    rw [hkeys, List.map_append, List.map_singleton]
    split
    · next hmem => exact ih.push_mem (mem_keys_ofInfos_iff.1 hmem)
    · next hnew => exact ih.push_new fun hmem => hnew (mem_keys_ofInfos_iff.2 hmem)

/-! ## What is replaced -/

/-- The class of the same name that comes last before the place `i`, which a class there
replaces. -/
def replacementAt? (infos : List ClassInfo) (c : ClassInfo) (i : Nat) : Option Replacement :=
  (latest? (infos.take i) c.name).map fun old => ⟨c, old⟩

theorem replacementsAfter_append (before : Classes) (infos : List ClassInfo) (c : ClassInfo) :
    replacementsAfter before (infos ++ [c]) = replacementsAfter before infos ++
      (((infos.foldl enter before).find? c.name).map fun old => ⟨c, old⟩ : Option
        Replacement).toList := by
  induction infos generalizing before with
  | nil =>
    show replacementsAfter before [c] = _
    rw [replacementsAfter, replacementsAfter, replacementsAfter, List.nil_append, List.foldl_nil]
    cases before.find? c.name <;> rfl
  | cons d infos ih =>
    rw [List.cons_append, replacementsAfter, replacementsAfter, List.foldl_cons]
    have hrest := ih (before.insert d.name d)
    cases before.find? d.name with
    | none => exact hrest
    | some old => exact congrArg (⟨d, old⟩ :: ·) hrest

theorem foldl_enter (infos : List ClassInfo) : infos.foldl enter .empty = ofInfos infos := by
  rw [ofInfos, OrderedMap.ofList, List.foldl_map]
  rfl

/-- The last class replaces the one of its name that comes last before it. -/
theorem replacements_append (infos : List ClassInfo) (c : ClassInfo) :
    replacements (infos ++ [c]) = replacements infos ++
      ((latest? infos c.name).map fun old => Replacement.mk c old).toList := by
  rw [replacements, replacementsAfter_append, foldl_enter, find?_ofInfos]
  rfl

/-- Each class in turn replaces the one of its name that comes last before it. -/
theorem replacements_eq (infos : List ClassInfo) :
    replacements infos = infos.zipIdx.filterMap fun (c, i) => replacementAt? infos c i := by
  induction infos using List.reverseRecOn with
  | nil => rfl
  | append_singleton infos c ih =>
    -- what stands before a place does not change when a class is added behind it
    have hbefore : infos.zipIdx.filterMap (fun (d, i) => replacementAt? (infos ++ [c]) d i) =
        infos.zipIdx.filterMap fun (d, i) => replacementAt? infos d i := by
      apply List.filterMap_congr
      rintro ⟨d, i⟩ hmem
      have hi : i < infos.length := by simpa using (List.mem_zipIdx hmem).2.1
      show replacementAt? (infos ++ [c]) d i = replacementAt? infos d i
      unfold replacementAt?
      rw [List.take_append_of_le_length (by omega)]
    have hlast : ([c].zipIdx infos.length).filterMap
        (fun (d, i) => replacementAt? (infos ++ [c]) d i) =
        ((latest? infos c.name).map fun old => Replacement.mk c old).toList := by
      have hplace : replacementAt? (infos ++ [c]) c infos.length =
          (latest? infos c.name).map fun old => ⟨c, old⟩ := by
        rw [replacementAt?, List.take_left]
      rw [← hplace, List.zipIdx_cons, List.zipIdx_nil]
      cases hfound : replacementAt? (infos ++ [c]) c infos.length with
      | none => exact List.filterMap_cons_none hfound
      | some r => exact List.filterMap_cons_some hfound
    rw [replacements_append, ih, List.zipIdx_append, List.filterMap_append, Nat.zero_add, hbefore,
      hlast]

/-- Every class either brings a new name or replaces another class. -/
theorem length_replacements (infos : List ClassInfo) :
    (replacements infos).length + (ofInfos infos).size = infos.length := by
  induction infos using List.reverseRecOn with
  | nil => rfl
  | append_singleton infos c ih =>
    have hkeys := OrderedMap.keys_insertEntry c.name c (ofInfos infos).entries
    have hsize : (ofInfos (infos ++ [c])).size =
        if c.name ∈ (ofInfos infos).keys then (ofInfos infos).size
        else (ofInfos infos).size + 1 := by
      rw [← OrderedMap.length_keys, ← OrderedMap.length_keys, ofInfos_append_singleton]
      show (List.map Prod.fst (OrderedMap.insertEntry _ _ _)).length = _
      rw [hkeys]
      show (if c.name ∈ (ofInfos infos).keys then _ else _ : List String).length = _
      split
      · rfl
      · exact List.length_append
    have hfound := find?_ofInfos infos c.name
    rw [replacements_append, List.length_append, List.length_append, hsize]
    -- a class adds a key or a replacement, and never both
    by_cases hmem : c.name ∈ (ofInfos infos).keys
    · obtain ⟨old, hold⟩ := (OrderedMap.mem_keys_iff _).1 hmem
      rw [← hfound, hold, if_pos hmem]
      simp only [Option.map_some, Option.toList_some, List.length_singleton]
      omega
    · rw [← hfound, (OrderedMap.find?_eq_none_iff _).2 hmem, if_neg hmem]
      simp only [Option.map_none, Option.toList_none, List.length_nil, List.length_singleton]
      omega

end Classes

/-! ## What is told -/

namespace Log

/-- The replacement of which an event tells. -/
def Event.replacement? : Event → Option Replacement
  | .classReplaced r => some r
  | _ => none

/-- The warnings of classes that took the place of others. -/
def replacementWarnings (events : List Event) : List String :=
  (events.filter fun e => e.level = .warning ∧ e.replacement?.isSome).map Event.message

end Log

open Log

/-- The warnings are those of the replacements, in order. -/
theorem replacementWarnings_linkClasses (infos : List ClassInfo) :
    replacementWarnings (Analysis.linkClasses infos).events =
      (Classes.replacements infos).map fun r => (Event.classReplaced r).message := by
  have hreplaced : ((Classes.replacements infos).map Event.classReplaced).filter
      (fun e => e.level = .warning ∧ e.replacement?.isSome) =
        (Classes.replacements infos).map Event.classReplaced := by
    rw [List.filter_eq_self]
    intro e he
    obtain ⟨r, -, rfl⟩ := List.mem_map.1 he
    rfl
  have hcycles : ((Hierarchy.ofInfos infos).cycles.map Event.cycleFound).filter
      (fun e => e.level = .warning ∧ e.replacement?.isSome) = [] := by
    rw [List.filter_eq_nil_iff]
    intro e he
    obtain ⟨c, -, rfl⟩ := List.mem_map.1 he
    simp [Event.replacement?]
  rw [replacementWarnings, Analysis.linkClasses, List.filter_append, List.filter_append, hreplaced,
    hcycles]
  simp [Event.level]

/-- What a warning tells of a class and the one whose place it takes. -/
def replacementText (c old : ClassInfo) : String :=
  "Duplicate class name; later declaration replaces earlier (name=" ++ c.name ++
    " file_path=" ++ c.file ++ " previous_file_path=" ++ old.file ++ ")"

theorem withFields_three (headline a b c x y z : String) :
    Event.withFields headline [(a, x), (b, y), (c, z)] =
      headline ++ " (" ++ a ++ "=" ++ x ++ (" " ++ b ++ "=") ++ y ++ (" " ++ c ++ "=") ++ z ++
        ")" := by
  simp only [Event.withFields, List.map_cons, List.map_nil, String.intercalate_cons_cons,
    String.intercalate_singleton, String.append_assoc]

theorem message_classReplaced (r : Replacement) :
    (Event.classReplaced r).message = replacementText r.new r.old := by
  have hname : "Duplicate class name; later declaration replaces earlier" ++ " (" ++ "name" ++ "=" =
      "Duplicate class name; later declaration replaces earlier (name=" := by decide
  have hfile : " " ++ "file_path" ++ "=" = " file_path=" := by decide
  have hprevious : " " ++ "previous_file_path" ++ "=" = " previous_file_path=" := by decide
  unfold replacementText
  rw [← hname, ← hfile, ← hprevious]
  exact withFields_three _ _ _ _ _ _ _

/-- Linking classes keeps the last class of each name at the place of the first one. Each time a
class takes the place of the one of its name before it, one warning tells of the files of both, in
the order of the classes. What is kept is linked again without such a warning, and nothing of it
changes. -/
theorem linkClasses_keeps_latest (infos : List ClassInfo) :
    let linked := Analysis.linkClasses infos
    let classes := linked.value.classes
    let warnings := replacementWarnings linked.events
    let again := Analysis.linkClasses classes.values
    FirstOccurrences (infos.map ClassInfo.name) classes.keys ∧
    (∀ name, classes.find? name = Classes.latest? infos name) ∧
    warnings = (infos.zipIdx.filterMap fun (c, i) =>
      (Classes.latest? (infos.take i) c.name).map (replacementText c)) ∧
    warnings.length + classes.size = infos.length ∧
    again.value.classes = classes ∧ replacementWarnings again.events = [] := by
  intro linked classes warnings again
  have hclasses : classes = Classes.ofInfos infos := rfl
  have hwarnings : warnings = (Classes.replacements infos).map
      fun r => (Event.classReplaced r).message := replacementWarnings_linkClasses infos
  have hkept : Classes.ofInfos classes.values = classes :=
    (Classes.keyed_ofInfos infos).ofInfos_values
  refine ⟨Classes.firstOccurrences_keys_ofInfos infos, Classes.find?_ofInfos infos, ?_, ?_, hkept,
    ?_⟩
  · rw [hwarnings, Classes.replacements_eq, List.map_filterMap]
    apply List.filterMap_congr
    rintro ⟨c, i⟩ -
    show (Classes.replacementAt? infos c i).map _ = _
    rw [Classes.replacementAt?, Option.map_map]
    exact Option.map_congr fun old _ => message_classReplaced ⟨c, old⟩
  · rw [hwarnings, List.length_map]
    exact Classes.length_replacements infos
  · -- there are as many classes as names, so none is left that could be replaced
    have hlength := Classes.length_replacements classes.values
    have hsize : classes.values.length = classes.size := List.length_map ..
    rw [hkept] at hlength
    have hnone : Classes.replacements classes.values = [] := List.length_eq_zero_iff.1 (by omega)
    show replacementWarnings (Analysis.linkClasses classes.values).events = []
    rw [replacementWarnings_linkClasses, hnone, List.map_nil]

end DesignMetrics
