import DesignMetrics.Proofs.Analysis
import DesignMetrics.Proofs.Hierarchy.CycleReport
import DesignMetrics.Proofs.Source.Declaration

/-!
# Names in reports

A class that was found in a source has a word for a name. So whatever a report tells of classes and
cycles, a name cannot be taken for two, nor for the end of a line.
-/

namespace DesignMetrics

open Source (SourceFile Declaration IsWordRun)

/-- The name of a declaration is a run of word characters. -/
theorem Source.isWordRun_of_mem_declarations {text : String} {d : Declaration}
    (h : d ∈ declarations text) : IsWordRun d.name.toList := by
  rcases exists_stands h with ⟨before, source, rest, -, hstands⟩
  -- the name stands between a keyword and what is no letter of it
  have hheader := hstands.header
  generalize hwhole : (⟨d.name, d.parent⟩ : Header) = header at hheader
  cases hheader with
  | intro hmodifiers hname hclause =>
    cases hname with
    | intro _ _ hword _ =>
      rw [(Header.mk.inj hwhole).1]
      exact hword

/-- So is the name of every class that a file declares. -/
theorem Source.SourceFile.isWordRun_of_mem_classes {s : SourceFile} {c : ClassInfo}
    (h : c ∈ s.classes) : IsWordRun c.name.toList := by
  rcases List.mem_map.1 h with ⟨d, hd, rfl⟩
  exact isWordRun_of_mem_declarations hd

namespace Analysis

variable {sources : List SourceFile} {name : String}

/-- The classes of a hierarchy are filed under such names only. -/
theorem isWordRun_of_mem_keys (h : name ∈ (hierarchyOf sources).classes.keys) :
    IsWordRun name.toList := by
  rcases Classes.exists_mem_of_mem_keys_ofInfos h with ⟨c, hc, rfl⟩
  rcases List.mem_flatMap.1 hc with ⟨s, -, hs⟩
  exact s.isWordRun_of_mem_classes hs

/-- The members of a cycle are classes of the hierarchy, and have such names too. -/
theorem isWordRun_of_mem_cycles {c : Cycle} (hc : c ∈ (hierarchyOf sources).cycles)
    (h : name ∈ c.members) : IsWordRun name.toList := by
  have hcycle : (hierarchyOf sources).classes.IsCycle c := Classes.isCycle_of_mem_cycles hc
  exact isWordRun_of_mem_keys (hcycle.mem_keys h)

end Analysis

/-- Separators are no word characters, and do not occur in names. -/
theorem Source.IsRun.not_mem_of_isWord {word : List Char} {c : Char} (h : IsWordRun word)
    (hc : Text.isWord c = false) : c ∉ word := by
  intro hmem
  have hword := h.all c hmem
  rw [hc] at hword
  cases hword

end DesignMetrics
