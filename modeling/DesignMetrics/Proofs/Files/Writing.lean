import DesignMetrics.Proofs.Except
import DesignMetrics.Proofs.Files.Walk
import DesignMetrics.Proofs.Text.Split

/-!
# Trees that are written

A tree stays well formed whatever is made in it or written to it, since what is new stands under a
name that a directory can hold. So every tree that comes about by writing is well formed.
-/

namespace DesignMetrics.Files

/-- A path of names without a slash, as every path is that was read from a text. -/
def Path.Slashless (p : Path) : Prop :=
  ∀ name ∈ p.names, '/' ∉ name.toList

/-- A path that is read from a text is cut at its slashes, so that no name has one. -/
theorem Path.slashless_ofString (path : String) : (Path.ofString path).Slashless := by
  intro name h
  obtain ⟨cs, hcs, rfl⟩ := List.mem_map.1 h
  rw [String.toList_ofList]
  exact Text.not_mem_of_mem_splitOn (List.mem_filter.1 hcs).1

theorem Path.Slashless.parent {p : Path} (h : p.Slashless) : p.parent.Slashless :=
  fun name hname => h name (List.mem_of_mem_dropLast hname)

namespace Tree

/-- Trees that come about by writing, beginning with nothing in the current directory. -/
inductive Written : Tree → Prop
  | empty : Written empty
  | directories {t t' : Tree} {p : Path} :
    Written t → p.Slashless → t.ensureDirectories p = .ok t' → Written t'
  | link {t t' : Tree} {p : Path} {target : String} :
    Written t → p.Slashless → t.makeLink p target = .ok t' → Written t'
  | file {t t' : Tree} {p : Path} {bytes : List UInt8} :
    Written t → p.Slashless → t.writeBytes p bytes = .ok t' → Written t'

/-- A well-formed tree with links that could be made. -/
structure Sound (t : Tree) : Prop extends t.WellFormed where
  target : ∀ l target, (l, .link target) ∈ t.entries → '\x00' ∉ target.toList

/-- The tree with nothing in the current directory is well formed. -/
theorem sound_empty : Sound empty where
  nodup := by decide
  entryName := by decide
  target := by simp [empty, standardEntries]

variable {t t' : Tree} {l : Location} {n : Node} {p : Path}

/-! ## Where something can be put -/

/-- Something stands at a location already, or its last name is one that a directory can hold. -/
def Fits (t : Tree) (l : Location) : Prop :=
  l ≠ [] ∧ ((t.node? l).isSome ∨ ∀ name ∈ l.getLast?, IsEntryName name)

/-- A walk comes to a directory or to where something can be put. -/
def Place.Fits (t : Tree) : Place → Prop
  | .taken l n => n = .directory ∨ t.Fits l
  | .free l => t.Fits l

/-- A link leads along names without a slash, made of characters of its target. -/
theorem mem_targetNames {target name : String} (h : name ∈ targetNames target) :
    '/' ∉ name.toList ∧ ∀ c ∈ name.toList, c ∈ target.toList := by
  obtain h | h := List.mem_append.1 h
  · obtain ⟨cs, hcs, rfl⟩ := List.mem_map.1 (List.mem_filter.1 h).1
    rw [String.toList_ofList]
    exact ⟨Text.not_mem_of_mem_splitOn hcs, fun c => Text.mem_of_mem_splitOn hcs⟩
  · split at h
    · rw [List.mem_singleton.1 h]
      simp
    · cases h

/-- A walk through a sound tree comes to a directory or to where something can be put. -/
theorem Sound.fits_of_walk (h : t.Sound) (hp : p.Slashless) {purpose : Purpose} {place : Place}
    (hwalk : t.walk purpose p = .ok place) : place.Fits t := by
  obtain ⟨hnull, hwithin⟩ := walkWithin_of_walk hwalk
  refine of_walkWithin (Place.Fits t) (fun name => '/' ∉ name.toList ∧ '\x00' ∉ name.toList)
    ?_ ?_ ?_ ?_ ?_ hwithin
  · exact fun l => .inl rfl
  · intro l n hn
    by_cases hl : l = []
    · rw [hl] at hn
      exact .inl (Option.some.inj hn).symm
    · exact .inr ⟨hl, .inl (by rw [hn]; rfl)⟩
  · -- what is free bears a name that a directory can hold
    rintro l name ⟨hslash, hnull⟩ hdot hdots hsize -
    rw [not_or] at hdot
    refine ⟨by simp, .inr fun name' hname' => ?_⟩
    obtain rfl : name = name' := by simpa using hname'
    exact ⟨hdot.2, hdot.1, hdots, hslash, hnull, hsize⟩
  · -- the names in the target of a link have no slash, and the tree no null character
    intro l target hn name hname
    obtain ⟨hslash, hmem⟩ := mem_targetNames hname
    have hl : l ≠ [] := by
      rintro rfl
      cases hn
    exact ⟨hslash, fun hnull => h.target l target (mem_entries_of_node? hl hn) (hmem _ hnull)⟩
  · exact fun name hname => ⟨hp name hname, hnull name hname⟩

/-- Below the current directory only names that a directory can hold stand at such a place. -/
theorem WellFormed.entryName_of_fits (h : t.WellFormed) (hl : t.Fits l)
    (hhome : home <+: l.dropLast) : ∀ name ∈ l.getLast?, IsEntryName name := by
  obtain ⟨hne, htaken | hfree⟩ := hl
  · obtain ⟨n, hn⟩ := Option.isSome_iff_exists.1 htaken
    exact h.entryName (l, n) (mem_entries_of_node? hne hn) hhome
  · exact hfree

/-! ## What is put there -/

/-- Writing adds the one entry that is written, or puts it in the place of another. -/
theorem mem_entries_put {e : Location × Node} (h : e ∈ (t.put l n).entries) :
    e = (l, n) ∨ e ∈ t.entries := by
  unfold put at h
  split at h
  · obtain ⟨e', he', rfl⟩ := List.mem_map.1 h
    split
    · exact .inl rfl
    · exact .inr he'
  · rw [List.mem_append, List.mem_singleton] at h
    exact h.symm

/-- Nothing stands at a location twice after something was put there. -/
theorem WellFormed.nodup_put (h : t.WellFormed) : ((t.put l n).entries.map Prod.fst).Nodup := by
  unfold put
  split
  · have hkey : ∀ e : Location × Node, (if e.1 = l then (l, n) else e).1 = e.1 := by
      intro e
      split
      · next heq => exact heq.symm
      · rfl
    rw [List.map_map]
    exact (List.map_congr_left fun e _ => hkey e) ▸ h.nodup
  · next hfree =>
    rw [List.map_append, List.nodup_append_comm]
    refine List.nodup_cons.2 ⟨fun hmem => hfree ?_, h.nodup⟩
    obtain ⟨e, he, heq⟩ := List.mem_map.1 hmem
    exact List.lookup_isSome_iff.2 ⟨e, he, beq_iff_eq.2 heq.symm⟩

/-- What is put where it fits leaves the tree sound. -/
theorem Sound.put (h : t.Sound) (hl : t.Fits l)
    (hn : ∀ target, n = .link target → '\x00' ∉ target.toList) : (t.put l n).Sound where
  nodup := h.nodup_put
  entryName := by
    intro e he hhome
    obtain rfl | he := mem_entries_put he
    · exact h.entryName_of_fits hl hhome
    · exact h.entryName e he hhome
  target := by
    intro l' target hmem
    obtain heq | hmem := mem_entries_put hmem
    · exact hn target (Prod.mk.inj heq).2.symm
    · exact h.target l' target hmem

/-! ## Operations -/

section Operations

variable (h : t.Sound) (hp : p.Slashless)
include h hp

/-- A file that could be written leaves the tree sound. -/
theorem Sound.writeBytes {bytes : List UInt8} (h' : t.writeBytes p bytes = .ok t') : t'.Sound := by
  have hfile : ∀ target, Node.file bytes = .link target → '\x00' ∉ target.toList := nofun
  unfold Tree.writeBytes at h'
  split at h'
  · cases h'
  · cases h'
    exact h
  · cases h'
  · cases h'
  · next l n hdirectory _ _ _ hwalk =>
    cases h'
    exact h.put ((h.fits_of_walk hp hwalk).resolve_left hdirectory) hfile
  · next l hwalk =>
    split at h' <;> cases h'
    exact h.put (h.fits_of_walk hp hwalk) hfile
  · cases h'

/-- So does whatever could be made under a free name. -/
theorem Sound.make (hn : ∀ target, n = .link target → '\x00' ∉ target.toList)
    (h' : t.make p n = .ok t') : t'.Sound := by
  unfold Tree.make at h'
  split at h'
  · next l hwalk =>
    split at h' <;> cases h'
    exact h.put (h.fits_of_walk hp hwalk) hn
  · cases h'
  · cases h'

/-- So does a link that could be made, since its target has been looked at. -/
theorem Sound.makeLink {target : String} (h' : t.makeLink p target = .ok t') : t'.Sound := by
  unfold Tree.makeLink at h'
  split at h'
  · cases h'
  next hnull =>
  split at h'
  · cases h'
  split at h'
  · cases h'
  split at h'
  · cases h'
  · refine h.make hp ?_ h'
    rintro _ ⟨⟩
    simpa using hnull

/-- So does a directory, whether it was made or there already. -/
theorem Sound.ensureDirectory (h' : t.ensureDirectory p = .ok t') : t'.Sound := by
  unfold Tree.ensureDirectory at h'
  split at h'
  · cases h'
  · cases h'
  · obtain ⟨isDirectory, -, h'⟩ := bind_eq_ok.1 h'
    split at h' <;> cases h'
    exact h
  · next hmake =>
    cases h'
    exact h.make hp (by simp) hmake

/-- So do a directory and those above it. -/
theorem Sound.ensureUpTo {above : Nat} (h' : t.ensureUpTo p above = .ok t') : t'.Sound := by
  induction above generalizing t' p with
  | zero => exact h.ensureDirectory hp h'
  | succ above ih =>
    rw [Tree.ensureUpTo] at h'
    split at h'
    · obtain ⟨between, hbetween, h'⟩ := bind_eq_ok.1 h'
      exact (ih hp.parent hbetween).ensureDirectory hp h'
    · exact h.ensureDirectory hp h'

end Operations

/-- Every tree that comes about by writing is one that files can be arranged in. -/
theorem Written.sound (h : t.Written) : t.Sound := by
  induction h with
  | empty => exact sound_empty
  | directories _ hp h' ih => exact ih.ensureUpTo hp h'
  | link _ hp h' ih => exact ih.makeLink hp h'
  | file _ hp h' ih => exact ih.writeBytes hp h'

end Tree
end DesignMetrics.Files
