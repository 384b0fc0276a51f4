import DesignMetrics.Analysis
import DesignMetrics.Proofs.Factor.Sum
import DesignMetrics.Proofs.Search.Report
import DesignMetrics.Proofs.Source.Team

/-!
# What an analysis comes to

An analysis of a directory ends with what was found, or for one of three reasons: the ignore files
cannot be made into rules, a name is too long for the search, or a quotient is too large.
-/

namespace DesignMetrics

open Files (Path Tree)
open Log
open Source (SourceFile Team)

variable {t : Tree} {root : Path} {extensions : List String} {workers : Int} {respectRules : Bool}

/-! ## Searches -/

theorem Search.value_find :
    (find t root extensions respectRules).run.value =
      (below t root extensions respectRules).bind fun s => s.run.run.value := by
  unfold find
  cases below t root extensions respectRules <;> rfl

/-- A search below a directory ends early because of the ignore files or of a name that is too
long. -/
theorem Search.find_eq_error {e : SearchError} (hroot : t.isDirectory root = .ok true)
    (h : (find t root extensions respectRules).run.value = .error e) :
    (∃ path, e = .blocked (.blocked .nameTooLong path)) ∨
      respectRules = true ∧
        ∃ refusal, Ignore.load t root = .error refusal ∧ e = .rules refusal := by
  rw [value_find] at h
  cases hbelow : below t root extensions respectRules with
  | error e' =>
    rw [hbelow] at h
    obtain rfl : e' = e := Except.error.inj h
    -- before anything is visited, only the ignore files can fail
    unfold below at hbelow
    split at hbelow
    · next hrespect =>
      split at hbelow
      · cases hbelow
      · next refusal hload =>
        cases hbelow
        exact .inr ⟨hrespect, refusal, hload, rfl⟩
    · cases hbelow
  | ok s =>
    rw [hbelow] at h
    have hs : s.tree = t ∧ s.root = root := by
      unfold below at hbelow
      split at hbelow
      · split at hbelow <;> cases hbelow
        exact ⟨rfl, rfl⟩
      · cases hbelow
        exact ⟨rfl, rfl⟩
    obtain ⟨rfl, rfl⟩ := hs
    have h : s.run.run.value = .error e := h
    rw [value_run] at h
    -- the first visit that is blocked decides
    cases hfind : s.visits.findSome? Visit.obstacle? with
    | none =>
      rw [hfind] at h
      cases h
    | some obstacle =>
      rw [hfind] at h
      cases h
      obtain ⟨v, hv, hblocked⟩ := List.exists_of_findSome?_eq_some hfind
      rw [obstacle?_eq_some_iff] at hblocked
      subst hblocked
      -- below a directory, visits are blocked by names that are too long only
      have hstart : ∀ directory ∈ [[]],
          s.tree.isDirectory (s.root.append directory) = .ok true := by
        intro directory hdirectory
        rw [List.mem_singleton.1 hdirectory, Path.append, List.append_nil]
        exact hroot
      obtain ⟨path, rfl⟩ := nameTooLong_of_mem_levels hstart hv
      exact .inl ⟨path, rfl⟩

namespace Analysis

/-! ## Analyses -/

/-- The classes of sources, linked. -/
def hierarchyOf (sources : List SourceFile) : Hierarchy :=
  Hierarchy.ofInfos (sources.flatMap SourceFile.classes)

theorem value_ofSources (team : Team) (sources : List SourceFile) :
    (ofSources team sources).run.value =
      (Factor.ofHierarchy (hierarchyOf sources)).map fun factors =>
        ⟨hierarchyOf sources, factors, []⟩ := by
  unfold ofSources
  rw [value_run_lift_bind, team.value_scan, value_run_lift_bind, value_run_bind]
  show (sumUp (hierarchyOf sources)).run.value >>= _ = _
  rw [sumUp]
  cases Factor.ofHierarchy (hierarchyOf sources) <;> rfl

/-- An analysis by at least one worker comes to what was found, or to what the search or the factors
fail for. -/
theorem value_ofPath (h : 0 < workers) :
    (ofPath t root extensions workers respectRules).run.value =
      match (Search.find t root extensions respectRules).run.value with
      | .error e => .error (.search e)
      | .ok found =>
        match Factor.ofHierarchy (hierarchyOf found.sources) with
        | .error e => .error (.factors e)
        | .ok factors => .ok ⟨hierarchyOf found.sources, factors, found.failures⟩ := by
  obtain ⟨team, hteam⟩ : ∃ team, Team.ofWorkers? workers = some team :=
    ⟨_, dif_pos (by omega)⟩
  unfold ofPath
  rw [hteam]
  show ((Search.find t root extensions respectRules).adapt Error.search >>= _).run.value = _
  rw [value_run_bind, value_run_adapt]
  cases (Search.find t root extensions respectRules).run.value with
  | error e => rfl
  | ok found =>
    show ((ofSources team found.sources).adapt Error.factors >>= _).run.value =
      match Factor.ofHierarchy (hierarchyOf found.sources) with
      | .error e => .error (.factors e)
      | .ok factors => .ok (Analysis.mk (hierarchyOf found.sources) factors found.failures)
    rw [value_run_bind, value_run_adapt, value_ofSources]
    cases Factor.ofHierarchy (hierarchyOf found.sources) <;> rfl

/-- An analysis of a directory is one of the sources that were found there. -/
theorem of_value_ofPath {a : Analysis}
    (h : (ofPath t root extensions workers respectRules).run.value = .ok a) :
    ∃ found : Found, (Search.find t root extensions respectRules).run.value = .ok found ∧
      Factor.ofHierarchy (hierarchyOf found.sources) = .ok a.factors ∧
      a = ⟨hierarchyOf found.sources, a.factors, found.failures⟩ := by
  have hworkers : 0 < workers := by
    by_contra hle
    have hnone : Team.ofWorkers? workers = none := dif_neg (by omega)
    unfold ofPath at h
    rw [hnone] at h
    cases h
  rw [value_ofPath hworkers] at h
  split at h
  · cases h
  · next found hfound =>
    split at h
    · cases h
    · next factors hfactors =>
      obtain rfl := Except.ok.inj h
      exact ⟨found, hfound, hfactors, rfl⟩

end Analysis
end DesignMetrics
