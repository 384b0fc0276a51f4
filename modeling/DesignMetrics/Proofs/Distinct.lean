import Mathlib.Data.List.Induction
import Mathlib.Data.List.Nodup

/-!
# Each element once

A list without its repetitions, in the order in which its elements come first.
-/

namespace DesignMetrics

variable {α : Type} [BEq α] [LawfulBEq α] {whole kept : List α} {a : α}

/-- Each element of a list once, in the order in which they come first. -/
structure FirstOccurrences (whole kept : List α) : Prop where
  nodup : kept.Nodup
  mem_iff : ∀ a, a ∈ kept ↔ a ∈ whole
  ordered : kept.Pairwise fun a b => whole.idxOf a < whole.idxOf b

namespace FirstOccurrences

omit [LawfulBEq α] in
theorem nil : FirstOccurrences ([] : List α) [] :=
  ⟨List.nodup_nil, fun _ => Iff.rfl, List.Pairwise.nil⟩

/-- What comes at the end of the list does not change where the elements before it come first. -/
theorem ordered_append (h : FirstOccurrences whole kept) (more : List α) :
    kept.Pairwise fun a b => (whole ++ more).idxOf a < (whole ++ more).idxOf b := by
  apply h.ordered.imp_of_mem
  intro b c hb hc hbc
  have hb' : b ∈ whole := (h.mem_iff b).1 hb
  have hc' : c ∈ whole := (h.mem_iff c).1 hc
  rw [List.idxOf_append_of_mem hb', List.idxOf_append_of_mem hc']
  exact hbc

/-- An element that was there already adds nothing. -/
theorem push_mem (h : FirstOccurrences whole kept) (ha : a ∈ whole) :
    FirstOccurrences (whole ++ [a]) kept := by
  refine ⟨h.nodup, fun b => ?_, h.ordered_append [a]⟩
  rw [h.mem_iff, List.mem_append, List.mem_singleton, or_iff_left_of_imp]
  intro hb
  rwa [hb]

/-- An element that is new comes last. -/
theorem push_new (h : FirstOccurrences whole kept) (ha : a ∉ whole) :
    FirstOccurrences (whole ++ [a]) (kept ++ [a]) := by
  have hkept : a ∉ kept := fun hmem => ha ((h.mem_iff a).1 hmem)
  refine ⟨?_, fun b => ?_, ?_⟩
  · rw [List.nodup_append_comm, List.singleton_append, List.nodup_cons]
    exact ⟨hkept, h.nodup⟩
  · simp only [List.mem_append, h.mem_iff]
  · rw [List.pairwise_append]
    refine ⟨h.ordered_append [a], List.pairwise_singleton _ _, ?_⟩
    intro b hb c hc
    have hb' : b ∈ whole := (h.mem_iff b).1 hb
    -- the new element comes first behind all others
    rw [List.mem_singleton.1 hc, List.idxOf_append_of_mem hb', List.idxOf_append_of_notMem ha]
    have hlt : whole.idxOf b < whole.length := List.idxOf_lt_length_iff.2 hb'
    omega

end FirstOccurrences

/-- Erasing repetitions leaves the first occurrences. -/
theorem firstOccurrences_eraseDups (whole : List α) :
    FirstOccurrences whole whole.eraseDups := by
  induction whole using List.reverseRecOn with
  | nil => exact .nil
  | append_singleton whole a ih =>
    rw [List.eraseDups_append, List.removeAll]
    by_cases ha : a ∈ whole
    · have hnone : ([a].filter fun x => !List.elem x whole) = [] := by simp [ha]
      rw [hnone, List.eraseDups_nil, List.append_nil]
      exact ih.push_mem ha
    · have hone : ([a].filter fun x => !List.elem x whole) = [a] := by simp [ha]
      rw [hone, List.eraseDups_cons, List.filter_nil, List.eraseDups_nil]
      exact ih.push_new ha

/-- Dropping repetitions keeps the order. -/
theorem eraseDups_sublist (whole : List α) : whole.eraseDups.Sublist whole := by
  induction whole using List.reverseRecOn with
  | nil => exact List.Sublist.refl _
  | append_singleton whole a ih =>
    rw [List.eraseDups_append, List.removeAll]
    apply ih.append
    by_cases ha : a ∈ whole <;> simp [ha, List.eraseDups_cons]

/-- Nothing is dropped where nothing is repeated. -/
theorem eraseDups_of_nodup (h : whole.Nodup) : whole.eraseDups = whole := by
  have hkept := firstOccurrences_eraseDups whole
  have hperm : whole.eraseDups.Perm whole :=
    (List.perm_ext_iff_of_nodup hkept.nodup h).2 hkept.mem_iff
  exact (eraseDups_sublist whole).eq_of_length hperm.length_eq

end DesignMetrics
