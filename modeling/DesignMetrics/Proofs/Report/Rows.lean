import Mathlib
import DesignMetrics.Proofs.Number.Notation
import DesignMetrics.Proofs.Report.Names
import DesignMetrics.Proofs.Text.Lines
import DesignMetrics.Report.Text

/-!
# Rows of classes read back

Eight lines of the plain report come before those of the classes. These can be cut into their fields
and read back, so the report tells all positions, and two hierarchies whose rows are the same have
the same positions.
-/

namespace DesignMetrics

open Factor (Score)
open Number (Binary64)
open Source (SourceFile Team IsWordRun)
open Text (splitOn)

namespace Report

/-! ## Reading rows -/

/-- The fields of a row, between which a comma and a space stand. -/
def fieldsOf : List Char → List (List Char)
  | [] => [[]]
  | ',' :: ' ' :: rest => [] :: fieldsOf rest
  | c :: rest => (fieldsOf rest).modifyHead (c :: ·)

/-- A depth, or none where a cycle is above the class. -/
def readDepth? (field : List Char) : Option (Option Int) :=
  if field = "cycle".toList then some none else (String.ofList field).toInt?.map some

def readRow? (row : List Char) : Option Position :=
  match fieldsOf row with
  | [name, depth, childCount] => do
    let depth ← readDepth? depth
    let childCount ← (String.ofList childCount).toInt?
    return ⟨String.ofList name, depth, childCount⟩
  | _ => none

/-- The lines of the classes in a plain report: all behind the eighth, up to the last line feed. -/
def classRows (report : String) : List (List Char) :=
  ((splitOn '\n' report.toList).drop 8).dropLast

/-! ## Fields -/

variable {field rest : List Char} {name : String} {m : Position}

/-- A character other than a comma belongs to the first field. -/
theorem fieldsOf_cons {c : Char} (hc : c ≠ ',') (rest : List Char) :
    fieldsOf (c :: rest) = (fieldsOf rest).modifyHead (c :: ·) := by
  rw [fieldsOf]
  rintro _ rfl
  exact absurd rfl hc

/-- A text without a comma is a single field. -/
theorem fieldsOf_of_not_mem (h : ',' ∉ field) : fieldsOf field = [field] := by
  induction field with
  | nil => rfl
  | cons c field ih =>
    rw [List.mem_cons, not_or] at h
    rw [fieldsOf_cons (Ne.symm h.1), ih h.2]
    rfl

/-- A field ends at the comma behind it. -/
theorem fieldsOf_append (h : ',' ∉ field) (rest : List Char) :
    fieldsOf (field ++ ',' :: ' ' :: rest) = field :: fieldsOf rest := by
  induction field with
  | nil => rfl
  | cons c field ih =>
    rw [List.mem_cons, not_or] at h
    rw [List.cons_append, fieldsOf_cons (Ne.symm h.1), ih h.2]
    rfl

/-- There is no comma in a number, and no line feed. -/
theorem not_mem_of_isNumeral {c : Char} (h : Number.IsNumeral field)
    (hc : Number.isFigure c = false) : c ∉ field := by
  intro hmem
  have hfigure := h c hmem
  rw [hc] at hfigure
  cases hfigure

/-- A depth is written in figures or as the word for a cycle. -/
theorem not_mem_depthText {c : Char} (hc : Number.isFigure c = false)
    (hcycle : c ∉ "cycle".toList) (depth : Option Int) : c ∉ (depthText depth).toList := by
  cases depth with
  | none => exact hcycle
  | some depth => exact not_mem_of_isNumeral (Number.isNumeral_toString depth) hc

/-- A depth is read back from its text. -/
theorem readDepth?_depthText (depth : Option Int) :
    readDepth? (depthText depth).toList = some depth := by
  cases depth with
  | none => rfl
  | some depth =>
    have hnumber : (toString depth).toList ≠ "cycle".toList := by
      intro heq
      have hc : 'c' ∉ (toString depth).toList :=
        not_mem_of_isNumeral (Number.isNumeral_toString depth) (by decide)
      rw [heq] at hc
      exact hc (by decide)
    show readDepth? (toString depth).toList = some (some depth)
    rw [readDepth?, if_neg hnumber, String.ofList_toList, Int.toString_eq_repr, Int.toInt?_repr]
    rfl

/-! ## Rows -/

/-- A row is made of three fields. -/
theorem toList_classRow (name : String) (m : Position) :
    (classRow name m).toList = name.toList ++ ',' :: ' ' ::
      ((depthText m.depth).toList ++ ',' :: ' ' :: (toString m.childCount).toList) := by
  unfold classRow
  rw [String.toList_intercalate]
  simp [List.intercalate]

/-- The three fields of a row are found again, because the name has no comma. -/
theorem fieldsOf_classRow (hname : IsWordRun name.toList) (m : Position) :
    fieldsOf (classRow name m).toList =
      [name.toList, (depthText m.depth).toList, (toString m.childCount).toList] := by
  have hcount : ',' ∉ (toString m.childCount).toList :=
    not_mem_of_isNumeral (Number.isNumeral_toString _) (by decide)
  rw [toList_classRow, fieldsOf_append (hname.not_mem_of_isWord (by decide)),
    fieldsOf_append (not_mem_depthText (by decide) (by decide) _), fieldsOf_of_not_mem hcount]

/-- A class is read back from its row. -/
theorem readRow?_classRow (hname : IsWordRun m.name.toList) :
    readRow? (classRow m.name m).toList = some m := by
  unfold readRow?
  rw [fieldsOf_classRow hname]
  simp only [readDepth?_depthText, String.ofList_toList, Int.toString_eq_repr, Int.toInt?_repr]
  rfl

/-- A row takes one line. -/
theorem not_mem_classRow (hname : IsWordRun name.toList) (m : Position) :
    '\n' ∉ (classRow name m).toList := by
  have hname' : '\n' ∉ name.toList := hname.not_mem_of_isWord (by decide)
  have hdepth : '\n' ∉ (depthText m.depth).toList := not_mem_depthText (by decide) (by decide) _
  have hcount : '\n' ∉ (toString m.childCount).toList :=
    not_mem_of_isNumeral (Number.isNumeral_toString _) (by decide)
  rw [toList_classRow]
  simp only [List.mem_append, List.mem_cons, hname', hdepth, hcount, or_false]
  decide

/-! ## The lines above -/

/-- The lines of the plain report before those of the classes. -/
def headlines (values : Factors Binary64) : List String :=
  ["Project metrics:"] ++
    (factorTexts values).named.map (fun (name, text) => name.toUpper ++ " = " ++ text) ++
    ["", "Class, DIT, NOC"]

/-- None of the lines above the rows takes more than one. -/
theorem not_mem_headlines (values : Factors Binary64) :
    ∀ line ∈ headlines values, '\n' ∉ line.toList := by
  -- neither numbers nor names hold a line break
  have hfixed : ∀ x : Binary64, '\n' ∉ (x.toFixed 3).toList :=
    fun x => not_mem_of_isNumeral (x.isNumeral_toFixed 3) (by decide)
  have hexact : ∀ x : Binary64, '\n' ∉ x.toText.toList :=
    fun x => not_mem_of_isNumeral x.isNumeral_toText (by decide)
  have hnamed : ∀ name ∈ ["mhf", "ahf", "mif", "aif", "pof"],
      '\n' ∉ (name.toUpper ++ " = ").toList := by decide +kernel
  have hline : ∀ name ∈ ["mhf", "ahf", "mif", "aif", "pof"], ∀ text : String,
      '\n' ∉ text.toList → '\n' ∉ (name.toUpper ++ " = " ++ text).toList := by
    intro name hname text htext
    rw [String.toList_append, List.mem_append, not_or]
    exact ⟨hnamed name hname, htext⟩
  intro line hmem
  simp only [headlines, factorTexts, Factors.named, List.map_cons, List.map_nil, List.mem_append,
    List.mem_cons, List.not_mem_nil, or_false] at hmem
  rcases hmem with (rfl | rfl | rfl | rfl | rfl | rfl) | rfl | rfl
  · decide
  · exact hline _ (by simp) _ (hfixed _)
  · exact hline _ (by simp) _ (hfixed _)
  · exact hline _ (by simp) _ (hexact _)
  · exact hline _ (by simp) _ (hexact _)
  · exact hline _ (by simp) _ (hfixed _)
  · decide
  · decide

/-- The lines of a plain report are found again behind the eight lines above them. -/
theorem splitOn_text {positions : OrderedMap Position} (values : Factors Binary64)
    (hwords : ∀ name ∈ positions.keys, IsWordRun name.toList) :
    splitOn '\n' (text values positions).toList =
      (headlines values).map String.toList ++
        ((positions.entries.map fun (name, m) => (classRow name m).toList) ++ [[]]) := by
  have hlines : ∀ line ∈ textLines values positions, '\n' ∉ line.toList := by
    intro line hmem
    rcases List.mem_append.1 hmem with habove | hrow
    · exact not_mem_headlines values line habove
    · rcases List.mem_map.1 hrow with ⟨⟨name, m⟩, hentry, rfl⟩
      exact not_mem_classRow (hwords name (List.mem_map_of_mem hentry)) m
  rw [text, Text.splitOn_join_lines hlines]
  show (headlines values ++ _).map String.toList ++ _ = _
  rw [List.map_append, List.append_assoc, List.map_map]
  rfl

/-- The rows of a plain report are those of the positions, in their order. -/
theorem classRows_text {positions : OrderedMap Position} (values : Factors Binary64)
    (hwords : ∀ name ∈ positions.keys, IsWordRun name.toList) :
    classRows (text values positions) =
      positions.entries.map fun (name, m) => (classRow name m).toList := by
  have hlength : ((headlines values).map String.toList).length = 8 := rfl
  rw [classRows, splitOn_text values hwords, ← hlength, List.drop_left, List.dropLast_concat]

end Report

namespace Analysis

/-- The plain report of an analysis. -/
def plainReport (a : Analysis) : String :=
  Report.text (a.factors.map Score.value) a.hierarchy.positions

/-- What the plain report of an analysis tells of the classes. -/
structure TellsPositions (a : Analysis) : Prop where
  /-- Eight lines, those of the classes, and nothing behind the last line feed. -/
  lines : ∃ above, splitOn '\n' a.plainReport.toList =
    above ++ (Report.classRows a.plainReport ++ [[]]) ∧ above.length = 8
  /-- One line for each class. -/
  rows : (Report.classRows a.plainReport).length = a.hierarchy.classes.size
  /-- Its name, its depth and its number of children. -/
  fields : ∀ row ∈ Report.classRows a.plainReport, (Report.fieldsOf row).length = 3
  read : (Report.classRows a.plainReport).map Report.readRow? =
    a.hierarchy.positions.values.map some

variable {team : Team} {sources : List SourceFile} {a : Analysis}

/-- The hierarchy of an analysis is that of its sources. -/
theorem hierarchy_eq_of_value_ofSources (h : (ofSources team sources).run.value = .ok a) :
    a.hierarchy = hierarchyOf sources := by
  rw [value_ofSources] at h
  cases hfactors : Factor.ofHierarchy (hierarchyOf sources) with
  | error e =>
    rw [hfactors] at h
    cases h
  | ok factors =>
    rw [hfactors] at h
    rw [← Except.ok.inj h]

/-- A position stands under the name of its class. -/
theorem entries_positions (h : (ofSources team sources).run.value = .ok a) :
    a.hierarchy.positions.entries = a.hierarchy.positions.values.map fun m => (m.name, m) := by
  rw [hierarchy_eq_of_value_ofSources h, OrderedMap.values, List.map_map]
  show (hierarchyOf sources).classes.entries.map _ = (List.map _ _).map _
  rw [List.map_map]
  rfl

/-- Positions are listed in the order of the classes. -/
theorem keys_positions (h : (ofSources team sources).run.value = .ok a) :
    a.hierarchy.positions.keys = a.hierarchy.classes.keys := by
  rw [hierarchy_eq_of_value_ofSources h]
  show (List.map _ (List.map _ _)) = _
  rw [List.map_map]
  rfl

/-- The plain report of an analysis tells the position of every class. -/
theorem tellsPositions_of_value_ofSources (h : (ofSources team sources).run.value = .ok a) :
    a.TellsPositions := by
  have hwords : ∀ name ∈ a.hierarchy.positions.keys, IsWordRun name.toList := by
    intro name hname
    rw [keys_positions h, hierarchy_eq_of_value_ofSources h] at hname
    exact isWordRun_of_mem_keys hname
  have hrows := Report.classRows_text (a.factors.map Score.value) hwords
  refine ⟨⟨(Report.headlines (a.factors.map Score.value)).map String.toList, ?_, rfl⟩, ?_, ?_, ?_⟩
  · rw [plainReport, hrows]
    exact Report.splitOn_text _ hwords
  · rw [plainReport, hrows, List.length_map, ← List.length_map (f := Prod.fst)]
    show a.hierarchy.positions.keys.length = _
    rw [keys_positions h, OrderedMap.length_keys]
  · intro row hrow
    rw [plainReport, hrows] at hrow
    rcases List.mem_map.1 hrow with ⟨⟨name, m⟩, hentry, rfl⟩
    rw [Report.fieldsOf_classRow (hwords name (List.mem_map_of_mem hentry))]
    rfl
  · -- each row is read back to the position from which it was made
    rw [plainReport, hrows, entries_positions h, List.map_map, List.map_map]
    apply List.map_congr_left
    intro m hm
    have hname : m.name ∈ a.hierarchy.positions.keys := by
      rw [OrderedMap.keys, entries_positions h, List.map_map]
      exact List.mem_map_of_mem hm
    exact Report.readRow?_classRow (hwords m.name hname)

/-- The plain report of an analysis of sources can be read back: behind eight lines it has one for
each class, and each of these has three fields, which come to the position of the class. So if the
lines of the classes are those of another analysis, its positions are the same. -/
theorem plainReport_of_ofSources (h : (ofSources team sources).run.value = .ok a) :
    a.TellsPositions ∧
      ∀ (team' : Team) (sources' : List SourceFile) (b : Analysis),
        (ofSources team' sources').run.value = .ok b →
        Report.classRows a.plainReport = Report.classRows b.plainReport →
        a.hierarchy.positions = b.hierarchy.positions := by
  have htells := tellsPositions_of_value_ofSources h
  refine ⟨htells, ?_⟩
  intro team' sources' b hb hrows
  have hread := htells.read
  rw [hrows, (tellsPositions_of_value_ofSources hb).read] at hread
  have hvalues : b.hierarchy.positions.values = a.hierarchy.positions.values :=
    List.map_injective_iff.2 (Option.some_injective _) hread
  apply OrderedMap.eq_of_entries_eq
  rw [entries_positions h, entries_positions hb, hvalues]

/-- A class of the name that stands for a missing depth, and one above which there is a cycle. -/
theorem plainReport_of_ofSources_cycle :
    let sources : List SourceFile := [⟨"a.kt", "class cycle class DIT : NOC class NOC : DIT"⟩]
    ∃ a, (ofSources ⟨1, by decide⟩ sources).run.value = .ok a ∧ a.TellsPositions ∧
      Report.classRows a.plainReport =
        ["cycle, 1, 0".toList, "DIT, cycle, 1".toList, "NOC, cycle, 1".toList] := by
  intro sources
  have hrows : (ofSources ⟨1, by decide⟩ sources).run.value.toOption.map
      (fun a => Report.classRows a.plainReport) =
      some ["cycle, 1, 0".toList, "DIT, cycle, 1".toList, "NOC, cycle, 1".toList] := by
    decide +kernel
  rcases exists_eq_ok (x := (ofSources ⟨1, by decide⟩ sources).run.value)
    (by decide +kernel) with ⟨a, ha⟩
  rw [ha] at hrows
  exact ⟨a, ha, (plainReport_of_ofSources ha).1, Option.some.inj hrows⟩

end Analysis
end DesignMetrics
