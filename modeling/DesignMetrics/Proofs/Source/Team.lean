import DesignMetrics.Source.Scan
import Mathlib.Data.List.Basic

/-!
# What a team finds

However many workers a team has, it finds the classes of all sources in the order of the sources. A
worker that is done puts the classes of a source into the slot of that source and changes no other
slot, so that the order in which the scans are completed makes no difference.
-/

namespace DesignMetrics

namespace Log

/-! ## Values of computations that report -/

variable {ε ε' α β : Type}

instance : LawfulMonad Logged := LawfulMonad.mk' Logged
  (fun ⟨_, _⟩ => congrArg (Logged.mk _) (List.append_nil _))
  (fun _ _ => rfl)
  (fun _ _ _ => congrArg (Logged.mk _) (List.append_assoc _ _ _))

theorem value_bind (x : Logged α) (f : α → Logged β) : (x >>= f).value = (f x.value).value := rfl

/-- What a chain of steps comes to does not depend on what the steps report. -/
theorem value_run_bind (x : ExceptT ε Logged α) (f : α → ExceptT ε Logged β) :
    (x >>= f).run.value = x.run.value >>= fun a => (f a).run.value := by
  show (ExceptT.bindCont f x.run.value).value = x.run.value >>= fun a => (f a).run.value
  cases x.run.value <;> rfl

/-- A step that cannot fail hands on what it comes to. -/
theorem value_run_lift_bind (x : Logged α) (f : α → ExceptT ε Logged β) :
    ((liftM x : ExceptT ε Logged α) >>= f).run.value = (f x.value).run.value :=
  value_run_bind _ _

theorem value_run_adapt (x : ExceptT ε Logged α) (f : ε → ε') :
    (x.adapt f).run.value = x.run.value.mapError f := rfl

end Log

namespace Source

open Log

variable {sources : List SourceFile}

/-! ## Scans -/

/-- Sources scanned in turn come to their classes, in order. -/
theorem value_scanInTurn (sources : List SourceFile) :
    (scanInTurn sources).value = sources.map SourceFile.classes := by
  induction sources with
  | nil => rfl
  | cons source sources ih =>
    rw [scanInTurn, List.mapM_cons, value_bind, value_bind]
    exact congrArg (source.classes :: ·) ih

/-- After some scans, the slots of their sources hold the classes of these. -/
theorem getElem?_scanIntoSlots (order : List Nat) {slots : List (List ClassInfo)}
    (h : slots.length = sources.length) (i : Nat) :
    (scanIntoSlots sources order slots).value[i]? =
      if i ∈ order then (sources.map SourceFile.classes)[i]? else slots[i]? := by
  induction order generalizing slots with
  | nil => rfl
  | cons j order ih =>
    rw [scanIntoSlots, List.foldlM_cons, value_bind]
    cases hj : sources[j]? with
    | none =>
      show (scanIntoSlots sources order slots).value[i]? = _
      rw [ih h]
      -- a place beyond the sources has no slot
      have hle : sources.length ≤ j := List.getElem?_eq_none_iff.1 hj
      by_cases hi : i = j
      · subst hi
        have hnone : slots[i]? = none := List.getElem?_eq_none_iff.2 (h ▸ hle)
        rw [if_pos List.mem_cons_self, List.getElem?_map, hj, hnone]
        split <;> rfl
      · simp only [List.mem_cons, hi, false_or]
    | some source =>
      show (scanIntoSlots sources order (slots.set j source.classes)).value[i]? = _
      rw [ih (by rw [List.length_set, h])]
      by_cases hi : i = j
      · subst hi
        -- later scans of this source can only fill its slot with the same
        have hlt : i < slots.length := by
          rw [h]
          exact (List.getElem?_eq_some_iff.1 hj).1
        rw [if_pos List.mem_cons_self, List.getElem?_map, hj, List.getElem?_set_self hlt]
        exact ite_self _
      · rw [List.getElem?_set_ne (Ne.symm hi)]
        simp only [List.mem_cons, hi, false_or]

/-- Scans that are completed in any order find what scans one after the other find. -/
theorem value_scanSideBySide {order : List Nat} (h : ∀ i < sources.length, i ∈ order) :
    (scanSideBySide sources order).value = sources.map SourceFile.classes := by
  apply List.ext_getElem?
  intro i
  rw [scanSideBySide, getElem?_scanIntoSlots order (List.length_map _)]
  by_cases hi : i < sources.length
  · rw [if_pos (h i hi)]
  · have hle : sources.length ≤ i := Nat.not_lt.1 hi
    have hclasses : (sources.map SourceFile.classes)[i]? = none := by
      rw [List.getElem?_eq_none_iff, List.length_map]
      exact hle
    have hslots : (sources.map fun _ => ([] : List ClassInfo))[i]? = none := by
      rw [List.getElem?_eq_none_iff, List.length_map]
      exact hle
    rw [hclasses, hslots, ite_self]

/-- So do sources that a team shares out. -/
theorem Team.value_scan (team : Team) (sources : List SourceFile) :
    (team.scan sources).value = sources.flatMap SourceFile.classes := by
  have hinTurn := value_scanInTurn sources
  have hsideBySide : (scanSideBySide sources (List.range sources.length)).value =
      sources.map SourceFile.classes := value_scanSideBySide fun i hi => List.mem_range.2 hi
  rw [Team.scan]
  split
  · rw [value_bind, hinTurn]
    rfl
  · rw [value_bind, hsideBySide]
    rfl

end Source
end DesignMetrics
