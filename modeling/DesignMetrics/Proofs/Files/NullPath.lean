import DesignMetrics.Proofs.Files.Walk
import DesignMetrics.Proofs.Text.Split

/-!
# Paths with a null character

A path with a null character is refused by every operation, and nothing else is refused in this way.
Where directories are made from the first one that is missing, the null character is found before
any of them is made.
-/

namespace DesignMetrics.Files

/-- A null character in a path, which is refused before anything is looked up. -/
def Path.HoldsNull (p : Path) : Prop := ∃ name ∈ p.names, '\x00' ∈ name.toList

/-- A path has the null characters of those above it. -/
theorem Path.holdsNull_of_parent {p : Path} (h : p.parent.HoldsNull) : p.HoldsNull := by
  obtain ⟨name, hname, hnull⟩ := h
  exact ⟨name, List.dropLast_subset _ hname, hnull⟩

/-- Reading a path loses no null character, since only slashes and dots are left out. -/
theorem Path.holdsNull_ofString (s : String) : (ofString s).HoldsNull ↔ '\x00' ∈ s.toList := by
  constructor
  · rintro ⟨name, hname, hnull⟩
    obtain ⟨piece, hpiece, rfl⟩ := List.mem_map.1 hname
    rw [String.toList_ofList] at hnull
    exact Text.mem_of_mem_splitOn (List.mem_filter.1 hpiece).1 hnull
  · intro hnull
    obtain ⟨piece, hpiece, hnull⟩ : ∃ piece ∈ Text.splitOn '/' s.toList, '\x00' ∈ piece := by
      cases hpieces : Text.splitOn '/' s.toList with
      | nil => exact absurd hpieces (Text.splitOn_ne_nil _)
      | cons first others =>
        rw [Text.eq_of_splitOn_eq_cons hpieces, List.mem_append, List.mem_flatMap] at hnull
        obtain hnull | ⟨piece, hpiece, hnull⟩ := hnull
        · exact ⟨first, List.mem_cons_self, hnull⟩
        · exact ⟨piece, List.mem_cons_of_mem _ hpiece,
            (List.mem_cons.1 hnull).resolve_left (by decide)⟩
    -- what is left out of a path is empty or a single dot
    have hkept : piece ≠ [] ∧ piece ≠ ['.'] := by
      refine ⟨fun h => ?_, fun h => ?_⟩
      · rw [h] at hnull
        cases hnull
      · rw [h] at hnull
        revert hnull
        decide
    refine ⟨String.ofList piece, List.mem_map_of_mem (List.mem_filter.2 ⟨hpiece, ?_⟩), ?_⟩
    · simpa using hkept
    · rwa [String.toList_ofList]

namespace Tree

variable {t : Tree} {p : Path}

/-- A walk meets a null character exactly if the path has one, before anything else is looked at. -/
theorem walk_eq_nullInPath (purpose : Purpose) :
    t.walk purpose p = .error .nullInPath ↔ p.HoldsNull := by
  have hany : (p.names.any (·.toList.contains '\x00')) = true ↔ p.HoldsNull := by
    simp [Path.HoldsNull]
  unfold walk
  split
  · next h => exact iff_of_true rfl (hany.1 h)
  · next h =>
    refine iff_of_false (fun hwalk => ?_) (fun hnull => h (hany.2 hnull))
    split at hwalk
    · cases hwalk
    · cases hwithin : t.walkWithin purpose 41 (if p.isAbsolute then [] else home) p.names with
      | ok place =>
        rw [hwithin] at hwalk
        cases hwalk
      | error o =>
        rw [hwithin] at hwalk
        cases hwalk

/-- The same holds where something is to be made. -/
theorem make_eq_nullInPath {n : Node} : t.make p n = .error .nullInPath ↔ p.HoldsNull := by
  rw [← walk_eq_nullInPath (t := t) .naming]
  unfold make
  split
  · next hwalk =>
    rw [hwalk]
    split <;> simp
  · next hwalk => simp [hwalk]
  · next hwalk => simp [hwalk]

/-- A directory that is there already does not hide a null character in its path. -/
theorem ensureDirectory_eq_nullInPath : t.ensureDirectory p = .error .nullInPath ↔ p.HoldsNull := by
  rw [← make_eq_nullInPath (t := t) (n := .directory)]
  unfold ensureDirectory
  split
  · next hmake => simp [hmake]
  · next hmake => simp [hmake]
  · next e _ hne hmake =>
    rw [hmake]
    -- neither the first error nor one of looking again is about the null character
    refine iff_of_false (fun h => ?_) (fun h => ?_)
    · cases hdirectory : t.isDirectory p with
      | error e' =>
        rw [hdirectory] at h
        have h : Except.error e' = Except.error FileError.nullInPath := h
        rw [isDirectory_eq_error hdirectory] at h
        cases h
      | ok isDirectory =>
        rw [hdirectory] at h
        cases isDirectory with
        | true => cases h
        | false =>
          have h : Except.error e = Except.error FileError.nullInPath := h
          exact hne (Except.error.inj h)
    · exact hne (Except.error.inj h)
  · next hmake => simp [hmake]

/-- Directories are made from the first one that is missing; a null character is found before. -/
theorem ensureUpTo_eq_nullInPath {above : Nat} :
    t.ensureUpTo p above = .error .nullInPath ↔ p.HoldsNull := by
  induction above generalizing t p with
  | zero => exact ensureDirectory_eq_nullInPath
  | succ above ih =>
    rw [ensureUpTo]
    split
    · next hensure =>
      have hnone : ¬p.HoldsNull := by
        rw [← ensureDirectory_eq_nullInPath (t := t), hensure]
        simp
      refine iff_of_false (fun h => ?_) hnone
      cases hparent : t.ensureUpTo p.parent above with
      | error e =>
        rw [hparent] at h
        have h : Except.error e = Except.error FileError.nullInPath := h
        rw [Except.error.inj h, ih] at hparent
        exact hnone (Path.holdsNull_of_parent hparent)
      | ok t' =>
        rw [hparent] at h
        exact hnone ((ensureDirectory_eq_nullInPath (t := t')).1 h)
    · exact ensureDirectory_eq_nullInPath

/-- The same holds where a text is to be written. -/
theorem writeText_eq_nullInPath {text : String} :
    t.writeText p text = .error .nullInPath ↔ p.HoldsNull := by
  rw [← walk_eq_nullInPath (t := t) .writing]
  unfold writeText writeBytes
  split <;> rename_i hwalk <;> rw [hwalk]
  case h_6 => split <;> simp
  all_goals simp

end Tree
end DesignMetrics.Files
