import DesignMetrics.Proofs.Except
import DesignMetrics.Report.Table

/-!
# Why there is no table

Both tables are made once the name and the path of every class can be shown. Where there is none,
one of these texts is no text with style tags, or its lines cannot be made.
-/

namespace DesignMetrics.Report

/-- A text that no cell can show. -/
inductive Unshown (cs : List Char) : TableError → Prop
  /-- Its style tags cannot be read. -/
  | tags {e : Markup.MarkupError} (h : Markup.read cs = .error e) : Unshown cs (.markup e)
  /-- Its lines have no styles, or cannot be cut to the width of the column. -/
  | lines {t : StyledText (List Char)} {e : TableError} (h : Markup.read cs = .ok t)
    (hlines : labelLines t = .error e) : Unshown cs e

variable {c : ClassEntry} {name path : StyledText (List Char)} {e : TableError}

/-- The labels of a class are its name and its path, both without their tags. -/
theorem labels_eq_ok (h : labels c = .ok (name, path)) :
    Markup.read c.info.name.toList = .ok name ∧ Markup.read c.info.file.toList = .ok path := by
  obtain ⟨name', hname, h⟩ := bind_eq_ok.1 h
  obtain ⟨path', hpath, h⟩ := bind_eq_ok.1 h
  obtain ⟨rfl, rfl⟩ := Prod.mk.inj (Except.ok.inj h)
  exact ⟨hname, hpath⟩

/-- If there are no labels, the tags of the name or of the path cannot be read. -/
theorem unshown_of_labels {m : Markup.MarkupError} (h : labels c = .error m) :
    Unshown c.info.name.toList (.markup m) ∨ Unshown c.info.file.toList (.markup m) := by
  rcases bind_eq_error.1 h with hname | ⟨name', -, h⟩
  · exact .inl (.tags hname)
  rcases bind_eq_error.1 h with hpath | ⟨path', -, h⟩
  · exact .inr (.tags hpath)
  · cases h

/-- If labels make no cells, the lines of one of them cannot be made. -/
theorem unshown_of_classCells (hlabels : labels c = .ok (name, path))
    (h : classCells c name path = .error e) :
    Unshown c.info.name.toList e ∨ Unshown c.info.file.toList e := by
  obtain ⟨hname, hpath⟩ := labels_eq_ok hlabels
  rcases bind_eq_error.1 h with hlines | ⟨nameLines, -, h⟩
  · exact .inl (.lines hname hlines)
  rcases bind_eq_error.1 h with hlines | ⟨pathLines, -, h⟩
  · exact .inr (.lines hpath hlines)
  · cases h

/-- A table of classes is missing for the name or the path of one of them. -/
theorem exists_unshown_of_classTable {entries : List ClassEntry}
    (h : classTable entries = .error e) :
    ∃ c ∈ entries, Unshown c.info.name.toList e ∨ Unshown c.info.file.toList e := by
  rcases bind_eq_error.1 h with hread | ⟨labelled, hread, h⟩
  · -- some tags cannot be read
    obtain ⟨m, hfailed, rfl⟩ := mapError_eq_error.1 hread
    obtain ⟨before, c, after, rfl, -, hlabels⟩ := mapM_eq_error_iff.1 hfailed
    refine ⟨c, by simp, unshown_of_labels ?_⟩
    rcases bind_eq_error.1 hlabels with hlabels | ⟨_, -, hpure⟩
    · exact hlabels
    · cases hpure
  · rcases bind_eq_error.1 h with hrows | ⟨rows, -, h⟩
    · obtain ⟨before, ⟨c, name, path⟩, after, rfl, -, hcells⟩ := mapM_eq_error_iff.1 hrows
      -- the row belongs to an entry whose tags were read
      obtain ⟨c', hc', hlabels⟩ := exists_of_mem_forall₂
        (mapM_eq_ok_iff.1 (mapError_eq_ok.1 hread))
        (List.mem_append_right before List.mem_cons_self)
      obtain ⟨found, hfound, hpair⟩ := bind_eq_ok.1 hlabels
      obtain ⟨rfl, rfl⟩ := Prod.mk.inj (Except.ok.inj hpair)
      exact ⟨c', hc', unshown_of_classCells hfound hcells⟩
    · cases h

/-- Where there are no tables, there is a class that no table can show. -/
theorem exists_unshown_of_tables {a : Analysis} {x : Export} (hx : Export.ofAnalysis a = .ok x)
    (h : tables a = .error e) :
    ∃ c ∈ x.classes, Unshown c.info.name.toList e ∨ Unshown c.info.file.toList e := by
  rw [tables, hx] at h
  rcases bind_eq_error.1 h with htable | ⟨table, -, h⟩
  · exact exists_unshown_of_classTable htable
  · cases h

end DesignMetrics.Report
