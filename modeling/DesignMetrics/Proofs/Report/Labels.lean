import DesignMetrics.Proofs.Hierarchy.Coherence
import DesignMetrics.Proofs.Report.Fold
import DesignMetrics.Proofs.Report.Markup
import DesignMetrics.Report.Table

/-!
# Names and paths in tables

The table of the classes shows the name and the path of every class. If they are plain texts of
single cells, the lines of a cell make them up again, up to blanks where a line ends.
-/

namespace DesignMetrics.Report

open Text (IsSingle isBlank trimEnd cells)

variable {cs : List Char}

/-! ## Lines of a cell -/

namespace Cell

variable {width : Nat}

/-- A line fills the width of its column. -/
theorem length_lineOf (h : IsSingle cs) : (lineOf width cs).length = width := by
  have hsingle : IsSingle (cs.take width) := h.mono (List.take_subset _ _)
  have hle := List.length_take_le width cs
  rw [lineOf, leftAligned, Text.cells_of_isSingle hsingle, List.length_append,
    List.length_replicate]
  omega

theorem isSingle_lineOf (h : IsSingle cs) : IsSingle (lineOf width cs) :=
  Text.isSingle_append.2 ⟨h.mono (List.take_subset _ _), Text.isSingle_replicate_blank _⟩

/-- A line shows its piece up to blanks at the end. -/
theorem trimEnd_lineOf (h : (trimEnd cs).length ≤ width) :
    trimEnd (lineOf width cs) = trimEnd cs := by
  obtain ⟨blanks, hblanks, hcs⟩ := Text.exists_eq_trimEnd_append cs
  have htake : cs.take width = trimEnd cs ++ blanks.take (width - (trimEnd cs).length) := by
    conv_lhs => rw [hcs]
    rw [List.take_append, List.take_of_length_le h]
  have hpad : ∀ n, ∀ c ∈ List.replicate n ' ', isBlank c = true := by
    intro n c hc
    rw [List.eq_of_mem_replicate hc]
    rfl
  rw [lineOf, leftAligned, Text.trimEnd_append_of_forall (hpad _), htake,
    Text.trimEnd_append_of_forall fun c hc => hblanks c (List.mem_of_mem_take hc),
    Text.trimEnd_trimEnd]

theorem shown_plain (cs : List Char) : Style.shown {} cs = cs :=
  if_pos (.inl rfl)

/-- A text without styles is one segment. -/
theorem segments_of_ne_nil (hne : cs ≠ []) :
    (⟨cs, []⟩ : StyledText Style).segments = [⟨cs, {}⟩] := by
  have hlength : 0 < cs.length := List.length_pos_iff.2 hne
  show (⟨cs, []⟩ : StyledText Style).segmentsFrom 0 [cs.length] = _
  rw [StyledText.segmentsFrom, if_pos hlength]
  simp [StyledText.segmentsFrom, StyledText.styleAt]

/-- Segments that fill the width stay as they are. -/
theorem fitSegments_of_eq {ss : List Segment}
    (h : (ss.map fun s => cells s.chars).foldl (· + ·) 0 = width) :
    fitSegments width ss = .ok (ss ++ [⟨[], {}⟩]) := by
  rw [fitSegments]
  simp only [h, if_neg (lt_irrefl width), Nat.sub_self, List.replicate_zero]

/-- A line that is as wide as its column is shown as it is, with a blank on either side. -/
theorem shownLine_eq (hwidth : 0 < width) (h : IsSingle cs) (hlength : cs.length = width) :
    shownLine width ⟨cs, []⟩ = .ok (' ' :: cs ++ [' ']) := by
  have hcells : cells cs = width := by rw [Text.cells_of_isSingle h, hlength]
  have hblank : cells [' '] = 1 := rfl
  have hnone : cells [] = 0 := rfl
  have hne : cs ≠ [] := by
    rintro rfl
    exact absurd hlength hwidth.ne
  -- the line is fitted three times, and is as wide as it should be each time
  rw [shownLine, fitCell, segments_of_ne_nil hne, fitSegments_of_eq (by simp [hcells])]
  show Except.bind (Except.bind (fitSegments (width + 2) _) _) _ = _
  rw [fitSegments_of_eq (by simp [hcells, hblank, hnone]; omega)]
  show Except.bind (fitSegments (width + 2) _) _ = _
  rw [fitSegments_of_eq (by simp [hcells, hblank, hnone]; omega)]
  show Except.ok _ = _
  simp [Segment.shown, shown_plain]

end Cell

open Cell

/-- The name or the path of a class that is shown as it is written. -/
structure IsLabel (cs : List Char) : Prop where
  single : IsSingle cs
  plain : Markup.IsPlain cs

/-- The lines of pieces between the blanks of their cells. -/
def shownPieces (pieces : List (List Char)) : List (List Char) :=
  pieces.map fun piece => ' ' :: lineOf nameWidth piece ++ [' ']

/-- The lines of a label are its pieces, each in a cell of its own. -/
theorem exists_labelLines (h : IsSingle cs) :
    ∃ pieces, Pieces nameWidth cs pieces ∧ labelLines ⟨cs, []⟩ = .ok (shownPieces pieces) := by
  have hwidth : 0 < nameWidth := by decide
  obtain ⟨pieces, hpieces, hfold⟩ := exists_fold hwidth h (List Char)
  refine ⟨pieces, hpieces, ?_⟩
  have hsingle : ∀ piece ∈ pieces, IsSingle piece := hpieces.isSingle h
  -- there are no spans, so no style is looked up
  have hresolve : (pieces.map fun piece => (⟨lineOf nameWidth piece, []⟩ :
      StyledText (List Char))).mapM Markup.resolve =
        .ok (pieces.map fun piece => ⟨lineOf nameWidth piece, []⟩) := by
    rw [mapM_eq_ok_iff, List.forall₂_map_left_iff, List.forall₂_map_right_iff, List.forall₂_same]
    intro piece _
    rfl
  have hshown : (pieces.map fun piece => (⟨lineOf nameWidth piece, []⟩ :
      StyledText Style)).mapM (shownLine nameWidth) = .ok (shownPieces pieces) := by
    rw [mapM_eq_ok_iff, shownPieces, List.forall₂_map_left_iff, List.forall₂_map_right_iff,
      List.forall₂_same]
    intro piece hpiece
    exact shownLine_eq hwidth (isSingle_lineOf (hsingle piece hpiece))
      (length_lineOf (hsingle piece hpiece))
  rw [labelLines, hfold]
  show Except.bind ((List.mapM Markup.resolve _).mapError _) _ = _
  rw [hresolve]
  show (List.mapM (shownLine nameWidth) _).mapError _ = _
  rw [hshown]
  rfl

/-! ## Reading cells -/

/-- What stands in a cell whose text begins at a place of the line. -/
def readCell (place : Nat) (line : List Char) : List Char :=
  trimEnd ((line.drop place).take nameWidth)

/-- The places of names and paths: behind the bars and blanks in front of them. -/
def namePlace : Nat := 2

def pathPlace : Nat := 33

/-- A text is shown by lines if its pieces are read in them, one after the other. So nothing is
lost but blanks where a line ends. -/
structure ShownAt (place : Nat) (lines : List (List Char)) (cs : List Char) : Prop where
  folded : ∃ pieces empty, Pieces nameWidth cs pieces ∧
    lines.map (readCell place) = pieces.map trimEnd ++ List.replicate empty []
  joined : (∀ c ∈ cs, isBlank c = false) ∨ cs.length ≤ nameWidth ∧ trimEnd cs = cs →
    (lines.map (readCell place)).flatten = cs

/-- Lines in which the pieces are read show the text. -/
theorem shownAt_of_pieces {place : Nat} {lines pieces : List (List Char)} {empty : Nat}
    (hpieces : Pieces nameWidth cs pieces)
    (hread : lines.map (readCell place) = pieces.map trimEnd ++ List.replicate empty []) :
    ShownAt place lines cs := by
  refine ⟨⟨pieces, empty, hpieces, hread⟩, fun hkept => ?_⟩
  -- no piece ends with a blank, so none is cut off with the padding
  have htrim : pieces.map trimEnd = pieces := by
    rcases hkept with hfull | ⟨hfits, hend⟩
    · rw [List.map_congr_left (g := id) fun piece hpiece => ?_, List.map_id]
      rw [id, Text.trimEnd_eq_self_iff]
      cases hlast : piece.getLast? with
      | none => rfl
      | some c =>
        apply hfull c
        rw [← hpieces.flatten_eq]
        exact List.mem_flatten_of_mem hpiece (List.mem_of_getLast? hlast)
    · rw [hpieces.whole hfits, List.map_singleton, hend]
  rw [hread, htrim, List.flatten_append, hpieces.flatten_eq]
  simp

/-! ## Rows -/

/-- A list that is read past its end is followed by the default. -/
theorem map_range_getD {α : Type} (as : List α) {n : Nat} (h : as.length ≤ n) (d : α) :
    (List.range n).map (fun i => as.getD i d) = as ++ List.replicate (n - as.length) d := by
  apply List.ext_getElem
  · simp
    omega
  · intro i hi hi'
    by_cases hlt : i < as.length
    · simp [List.getElem_append_left hlt, hlt]
    · simp [List.getElem_append_right (not_lt.1 hlt), hlt]

/-- Text between the blanks of a cell. -/
def margined (text : List Char) : List Char :=
  ' ' :: text ++ [' ']

/-- A cell is read where it stands in its line, whatever is on both sides. -/
theorem readCell_append (before rest : List Char) {text : List Char}
    (h : text.length = nameWidth) :
    readCell (before.length + 1) (before ++ margined text ++ rest) = trimEnd text := by
  have hdrop : (before ++ margined text ++ rest).drop (before.length + 1) =
      text ++ ([' '] ++ rest) := by
    rw [← List.drop_drop, List.append_assoc, List.drop_left]
    simp [margined]
  rw [readCell, hdrop, ← h, List.take_left]

/-- The texts of a column: one for each line, and blank ones below the last. -/
def textAt (pieces : List (List Char)) (i : Nat) : List Char :=
  (pieces.map (lineOf nameWidth)).getD i (List.replicate nameWidth ' ')

/-- Every line of a column has a text, if only a blank one. -/
theorem getD_shownPieces (pieces : List (List Char)) (i : Nat) :
    (shownPieces pieces).getD i (List.replicate (nameWidth + 2) ' ') =
      margined (textAt pieces i) := by
  have hblank : List.replicate (nameWidth + 2) ' ' = margined (List.replicate nameWidth ' ') := rfl
  have hpieces : shownPieces pieces = (pieces.map (lineOf nameWidth)).map margined := by
    rw [List.map_map]
    rfl
  rw [hblank, hpieces, List.getD_eq_getElem?_getD, List.getElem?_map, textAt,
    List.getD_eq_getElem?_getD, Option.getD_map]

/-- Every text of a column is as wide as the column. -/
theorem length_textAt {pieces : List (List Char)} (h : ∀ piece ∈ pieces, IsSingle piece) (i : Nat) :
    (textAt pieces i).length = nameWidth := by
  rw [textAt, List.getD_eq_getElem?_getD, List.getElem?_map]
  cases hpiece : pieces[i]? with
  | none => rfl
  | some piece => exact length_lineOf (h piece (List.mem_of_getElem? hpiece))

/-- Read from the top down, the texts of a column are its pieces, and below them nothing. -/
theorem map_textAt {pieces : List (List Char)} {n : Nat} (hpieces : Pieces nameWidth cs pieces)
    (hn : pieces.length ≤ n) : (List.range n).map (fun i => trimEnd (textAt pieces i)) =
      pieces.map trimEnd ++ List.replicate (n - pieces.length) [] := by
  have hblank : trimEnd (List.replicate nameWidth ' ') = [] := by decide
  have hlength : (pieces.map (lineOf nameWidth)).length ≤ n := by rwa [List.length_map]
  have htexts := map_range_getD _ hlength (List.replicate nameWidth ' ')
  rw [List.length_map] at htexts
  have hmap : (List.range n).map (fun i => trimEnd (textAt pieces i)) =
      ((List.range n).map (textAt pieces)).map trimEnd := by
    rw [List.map_map]
    rfl
  rw [hmap]
  show ((List.range n).map fun i => (pieces.map (lineOf nameWidth)).getD i _).map trimEnd = _
  rw [htexts, List.map_append, List.map_replicate, hblank, List.map_map]
  congr 1
  apply List.map_congr_left
  intro piece hpiece
  exact trimEnd_lineOf (hpieces.fits piece hpiece)

section

variable (names paths : List (List Char)) (depth count : List Char)

/-- The table of the classes with these rows. -/
def classTableOf (rows : List (List (List (List Char)))) : Table :=
  ⟨"Classes", classColumns, rows⟩

/-- A line of a row, whose last two cells have a single one. -/
def rowLine (i : Nat) : List Char :=
  ['│'] ++ margined (textAt names i) ++ (['│'] ++ margined (textAt paths i) ++
    (['│'] ++ [depth].getD i depthColumn.blank ++ (['│'] ++ [count].getD i childrenColumn.blank ++
      ['│'])))

/-- There are as many lines as the longer one of both cells has, and at least one. -/
def rowHeight : Nat :=
  max (max 1 names.length) paths.length

/-- The lines of a row are as many as its highest cell has. -/
theorem rowLines_eq (rows : List (List (List (List Char)))) :
    (classTableOf rows).rowLines [shownPieces names, shownPieces paths, [depth], [count]] =
      (List.range (rowHeight names paths)).map (rowLine names paths depth count) := by
  have hheight : ([shownPieces names, shownPieces paths, [depth], [count]].map
      List.length).foldl max 1 = rowHeight names paths := by
    simp only [shownPieces, rowHeight, List.map_cons, List.map_nil, List.foldl_cons,
      List.foldl_nil, List.length_map, List.length_singleton]
    omega
  rw [Table.rowLines, hheight]
  apply List.map_congr_left
  intro i _
  have hname := getD_shownPieces names i
  have hpath := getD_shownPieces paths i
  show Table.bars '│' [(shownPieces names).getD i (List.replicate (nameWidth + 2) ' '),
    (shownPieces paths).getD i (List.replicate (nameWidth + 2) ' '),
    [depth].getD i depthColumn.blank, [count].getD i childrenColumn.blank] = _
  rw [hname, hpath]
  simp [Table.bars, rowLine]

variable {names paths} (hnames : ∀ piece ∈ names, IsSingle piece)
include hnames

/-- The name of a class is read from its own column. -/
theorem readCell_namePlace (i : Nat) :
    readCell namePlace (rowLine names paths depth count i) = trimEnd (textAt names i) :=
  readCell_append ['│'] _ (length_textAt hnames i)

/-- So is the path. -/
theorem readCell_pathPlace (hpaths : ∀ piece ∈ paths, IsSingle piece) (i : Nat) :
    readCell pathPlace (rowLine names paths depth count i) = trimEnd (textAt paths i) := by
  have hbefore : (['│'] ++ margined (textAt names i) ++ ['│']).length + 1 = pathPlace := by
    simp [margined, length_textAt hnames i, pathPlace, nameWidth]
  -- the cell of the name stands in front, with a bar on either side
  rw [← hbefore, rowLine, ← List.append_assoc _ _ (_ ++ (_ ++ _)), ← List.append_assoc _ ['│']]
  exact readCell_append _ _ (length_textAt hpaths i)

end

/-- The lines of a row show the name and the path whose pieces they are made of. -/
theorem shownAt_rowLines {name path : List Char} {names paths : List (List Char)}
    (hname : IsSingle name) (hpath : IsSingle path) (hnames : Pieces nameWidth name names)
    (hpaths : Pieces nameWidth path paths) (depth count : List Char) :
    let lines := (List.range (rowHeight names paths)).map (rowLine names paths depth count)
    ShownAt namePlace lines name ∧ ShownAt pathPlace lines path := by
  intro lines
  have hnames' := hnames.isSingle hname
  have hpaths' := hpaths.isSingle hpath
  constructor
  · have hheight : names.length ≤ rowHeight names paths := by
      unfold rowHeight
      omega
    apply shownAt_of_pieces hnames
    rw [← map_textAt hnames hheight, List.map_map]
    exact List.map_congr_left fun i _ => readCell_namePlace depth count hnames' i
  · have hheight : paths.length ≤ rowHeight names paths := by
      unfold rowHeight
      omega
    apply shownAt_of_pieces hpaths
    rw [← map_textAt hpaths hheight, List.map_map]
    exact List.map_congr_left fun i _ => readCell_pathPlace depth count hnames' hpaths' i

/-! ## The table -/

/-- The row of an entry shows its labels. -/
theorem exists_classCells {e : ClassEntry} {name path : List Char} (hname : IsSingle name)
    (hpath : IsSingle path) : ∃ row, classCells e ⟨name, []⟩ ⟨path, []⟩ = .ok row ∧
      ∀ rows, ShownAt namePlace ((classTableOf rows).rowLines row) name ∧
        ShownAt pathPlace ((classTableOf rows).rowLines row) path := by
  obtain ⟨names, hnames, hnameLines⟩ := exists_labelLines hname
  obtain ⟨paths, hpaths, hpathLines⟩ := exists_labelLines hpath
  refine ⟨[shownPieces names, shownPieces paths, [depthColumn.cell (depthText e.depth).toList],
    [childrenColumn.cell (toString e.childCount).toList]], ?_, fun rows => ?_⟩
  · rw [classCells, hnameLines, hpathLines]
    rfl
  · rw [rowLines_eq]
    exact shownAt_rowLines hname hpath hnames hpaths _ _

/-- A row shows the labels of a class, in whatever table it stands. -/
def ShowsRow (c : ClassInfo) (row : List (List (List Char))) : Prop :=
  ∀ rows, ShownAt namePlace ((classTableOf rows).rowLines row) c.name.toList ∧
    ShownAt pathPlace ((classTableOf rows).rowLines row) c.file.toList

/-- Classes with labels have a table, and each of its rows shows the class at its place. -/
theorem exists_classTable {entries : List ClassEntry}
    (h : ∀ e ∈ entries, IsLabel e.info.name.toList ∧ IsLabel e.info.file.toList) :
    ∃ rows, classTable entries = .ok (classTableOf rows) ∧
      List.Forall₂ ShowsRow (entries.map ClassEntry.info) rows := by
  -- labels are read as they are written
  have hlabels : entries.mapM (fun e => return (e, ← labels e)) =
      Except.ok (entries.map fun e => (e, (⟨e.info.name.toList, []⟩ : StyledText (List Char)),
        (⟨e.info.file.toList, []⟩ : StyledText (List Char)))) := by
    apply mapM_eq_ok
    intro e he
    obtain ⟨hname, hpath⟩ := h e he
    rw [labels, Markup.read_of_isPlain hname.single hname.plain,
      Markup.read_of_isPlain hpath.single hpath.plain]
    rfl
  -- so every class has a row, in which both are folded
  have hentry : ∀ e ∈ entries, ∃ row,
      classCells e ⟨e.info.name.toList, []⟩ ⟨e.info.file.toList, []⟩ = .ok row ∧
        ShowsRow e.info row := by
    intro e he
    obtain ⟨hname, hpath⟩ := h e he
    exact exists_classCells hname.single hpath.single
  obtain ⟨rows, hrows, hshown⟩ := exists_mapM_eq_ok hentry
  have hcells : (entries.map fun e => (e, (⟨e.info.name.toList, []⟩ : StyledText (List Char)),
      (⟨e.info.file.toList, []⟩ : StyledText (List Char)))).mapM
        (fun (e, name, path) => classCells e name path) = .ok rows := by
    rw [mapM_eq_ok_iff, List.forall₂_map_left_iff]
    exact mapM_eq_ok_iff.1 hrows
  refine ⟨rows, ?_, List.forall₂_map_left_iff.2 hshown⟩
  rw [classTable, hlabels]
  show Except.bind (List.mapM _ (entries.map _)) _ = _
  rw [hcells]
  rfl

/-- The tables of an analysis show the name and the path of every class, in the order of the
classes. -/
def ShowsLabels (a : Analysis) : Prop :=
  ∃ rows, tables a = .ok ((factorTable a.factors).toText ++ (classTableOf rows).toText) ∧
    List.Forall₂ ShowsRow a.hierarchy.classes.values rows

/-- Every analysis has tables that show all names and paths as they are written, if these are plain
texts of single cells. No other texts of single cells are read as they are written. -/
theorem tables_show_labels (infos : List ClassInfo) (factors : Factors Factor.Score)
    (failures : List ReadFailure)
    (h : ∀ c ∈ (Hierarchy.ofInfos infos).classes.values,
      IsLabel c.name.toList ∧ IsLabel c.file.toList) :
    ShowsLabels ⟨Hierarchy.ofInfos infos, factors, failures⟩ ∧
    ∀ cs, IsSingle cs → ((∃ t, Markup.read cs = .ok t ∧ t.chars = cs) ↔ IsLabel cs) := by
  constructor
  · have hcoherent : (Hierarchy.ofInfos infos).Coherent := (Classes.keyed_ofInfos infos).coherent
    obtain ⟨x, hx, hinfos⟩ := hcoherent.exists_export factors failures
    have hfactors : x.factors = factors := by
      obtain ⟨entries, -, heq⟩ := bind_eq_ok.1 hx
      cases heq
      rfl
    have hentries : ∀ e ∈ x.classes, IsLabel e.info.name.toList ∧ IsLabel e.info.file.toList := by
      intro e he
      apply h
      rw [← hinfos]
      exact List.mem_map_of_mem he
    obtain ⟨rows, htable, hrows⟩ := exists_classTable hentries
    rw [hinfos] at hrows
    refine ⟨rows, ?_, hrows⟩
    rw [tables, hx]
    simp only [htable, hfactors]
    rfl
  · intro cs hsingle
    rw [Markup.read_chars_eq_self_iff hsingle]
    exact ⟨fun hplain => ⟨hsingle, hplain⟩, IsLabel.plain⟩

/-- Brackets around what begins with a capital are shown, and a long path is folded. -/
theorem tables_show_labels_folded :
    let zero : Factor.Score := ⟨.zero, .zero false, rfl⟩
    ShowsLabels ⟨Hierarchy.ofInfos [{ name := "A", file := "[Id]/a/very/long/path/to/a/A.kt" }],
      ⟨zero, zero, zero, zero, zero⟩, []⟩ := by
  intro zero
  refine (tables_show_labels [{ name := "A", file := "[Id]/a/very/long/path/to/a/A.kt" }]
    ⟨zero, zero, zero, zero, zero⟩ [] ?_).1
  intro c hc
  obtain rfl : c = { name := "A", file := "[Id]/a/very/long/path/to/a/A.kt" } :=
    List.mem_singleton.1 hc
  refine ⟨⟨by decide +kernel, Markup.isPlain_of_notMem (by decide)⟩, ?_⟩
  -- brackets are read as text if all of the path is
  have hsingle : IsSingle "[Id]/a/very/long/path/to/a/A.kt".toList := by decide +kernel
  have hread : Markup.read "[Id]/a/very/long/path/to/a/A.kt".toList =
      .ok ⟨"[Id]/a/very/long/path/to/a/A.kt".toList, []⟩ := by decide +kernel
  exact ⟨hsingle, (Markup.read_chars_eq_self_iff hsingle).1 ⟨_, hread, rfl⟩⟩

example : Markup.read "[id]/a.kt".toList = .ok ⟨"/a.kt".toList, [⟨0, 5, "id".toList⟩]⟩ := by
  decide +kernel

end DesignMetrics.Report
