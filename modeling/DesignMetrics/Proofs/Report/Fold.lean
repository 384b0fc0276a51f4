import DesignMetrics.Proofs.Except
import DesignMetrics.Proofs.Text.Split
import DesignMetrics.Proofs.Text.Width
import DesignMetrics.Report.Cell

/-!
# Folded lines

A text whose characters take one cell each is folded into pieces that make it up again. A line holds
what stands in its piece, up to blanks at the end for which there is no room.
-/

namespace DesignMetrics.Report.Cell

open Text (IsSingle isBlank trimEnd cells clusters)

variable {width : Nat} {cs ds : List Char}

/-! ## Words -/

/-- Only blanks have no words. -/
theorem words_eq_nil_iff (cs : List Char) : words cs = [] ↔ ∀ c ∈ cs, isBlank c = true := by
  induction cs with
  | nil => simp [words]
  | cons c rest ih =>
    rw [words]
    cases hwords : words rest with
    | nil =>
      have hblank := ih.1 hwords
      by_cases hc : isBlank c = true
      · simp only [hc, if_true, true_iff, List.forall_mem_cons, true_and]
        exact hblank
      · simp [hc]
    | cons word later =>
      have hsome : ¬ ∀ c ∈ rest, isBlank c = true := fun h => by
        rw [ih.2 h] at hwords
        exact absurd hwords (List.cons_ne_nil _ _).symm
      refine iff_of_false ?_ fun h => hsome fun d hd => h d (List.mem_cons_of_mem c hd)
      simp only
      split <;> exact List.cons_ne_nil _ _

/-- The words of a text make it up, unless it is blank. -/
theorem flatten_words (h : words cs ≠ []) : (words cs).flatten = cs := by
  induction cs with
  | nil => rfl
  | cons c rest ih =>
    rw [words] at h ⊢
    cases hwords : words rest with
    | nil =>
      rw [hwords] at h
      by_cases hc : isBlank c = true
      · simp [hc] at h
      · simp [hc]
    | cons word later =>
      have hrest := ih (by rw [hwords]; exact List.cons_ne_nil _ _)
      rw [hwords, List.flatten_cons] at hrest
      simp only
      split
      · rw [← hrest]
        rfl
      · rw [List.flatten_cons, List.flatten_cons, ← hrest, List.cons_append, ← List.append_assoc,
          List.takeWhile_append_dropWhile]

/-! ## Words that are cut -/

section

variable {line : List Char}

/-- A word that is chopped loses nothing. -/
theorem flatten_chopFrom (width : Nat) (cs line : List Char) :
    (chopFrom width line line.length (cs.map fun c => ⟨[c], 1⟩)).flatten = line ++ cs := by
  induction cs generalizing line with
  | nil =>
    cases line <;> simp [chopFrom]
  | cons c rest ih =>
    rw [List.map_cons, chopFrom]
    split
    · have hrest := ih [c]
      simp only [List.length_singleton] at hrest
      rw [List.flatten_cons, hrest, List.singleton_append]
    · have hrest := ih (line ++ [c])
      simp only [List.length_append, List.length_singleton] at hrest
      rw [hrest, List.append_assoc, List.singleton_append]

/-- No piece of a chopped word is wider than the column. -/
theorem length_le_of_mem_chopFrom (hwidth : 0 < width) (hline : line.length ≤ width)
    {piece : List Char} (h : piece ∈ chopFrom width line line.length (cs.map fun c => ⟨[c], 1⟩)) :
    piece.length ≤ width := by
  induction cs generalizing line with
  | nil =>
    rw [List.map_nil, chopFrom] at h
    split at h
    · exact absurd h List.not_mem_nil
    · rwa [List.mem_singleton.1 h]
  | cons c rest ih =>
    rw [List.map_cons, chopFrom] at h
    split at h
    · rcases List.mem_cons.1 h with rfl | h
      · exact hline
      · have hfirst : [c].length ≤ width := hwidth
        exact ih hfirst h
    · next hroom =>
      have hlonger : (line ++ [c]).length = line.length + 1 := by simp
      simp only at h hroom
      rw [← hlonger] at h hroom
      exact ih (not_lt.1 hroom) h

/-- Chopping loses nothing. -/
theorem flatten_chop (width : Nat) (h : IsSingle cs) : (chop width cs).flatten = cs := by
  rw [chop, Text.clusters_of_isSingle h]
  exact flatten_chopFrom width cs []

/-- Every piece that is chopped off fits. -/
theorem length_le_of_mem_chop (hwidth : 0 < width) (h : IsSingle cs) {piece : List Char}
    (hpiece : piece ∈ chop width cs) : piece.length ≤ width := by
  rw [chop, Text.clusters_of_isSingle h] at hpiece
  have hempty : ([] : List Char).length ≤ width := Nat.zero_le _
  exact length_le_of_mem_chopFrom hwidth hempty hpiece

end

/-! ## Lines -/

/-- The lines of words that are written behind `line`, one after the other. -/
def linesOf (width : Nat) (line : List Char) : List (List Char) → List (List Char)
  | [] => [line]
  | word :: rest =>
    let size := (trimEnd word).length
    if line.length + size ≤ width then linesOf width (line ++ word) rest
    else if width < size then
      let pieces := chop width word
      line :: (pieces.dropLast ++ linesOf width (pieces.getLastD []) rest)
    else line :: linesOf width word rest

/-- The starts of further pieces come after those of the first ones. -/
theorem startsFrom_append (start : Nat) (ps qs : List (List Char)) :
    startsFrom start (ps ++ qs) = startsFrom start ps ++
      startsFrom (start + ps.flatten.length) qs := by
  induction ps generalizing start with
  | nil => rfl
  | cons p ps ih =>
    simp only [List.cons_append, startsFrom, ih, List.flatten_cons, List.length_append,
      Nat.add_assoc]

/-- No piece starts before the first one does. -/
theorem le_of_mem_startsFrom {start n : Nat} {ps : List (List Char)}
    (h : n ∈ startsFrom start ps) : start ≤ n := by
  induction ps generalizing start with
  | nil => exact absurd h List.not_mem_nil
  | cons p ps ih =>
    rcases List.mem_cons.1 h with rfl | h
    · exact le_refl _
    · have hle := ih h
      omega

/-- The pieces of a word, the last of which the next word may follow. -/
theorem exists_chop_eq (width : Nat) {word : List Char} (h : IsSingle word) (hne : word ≠ []) :
    ∃ others last, chop width word = others ++ [last] ∧ others.flatten ++ last = word := by
  have hword := flatten_chop width h
  rcases List.eq_nil_or_concat' (chop width word) with hnil | ⟨others, last, hchop⟩
  · rw [hnil] at hword
    exact absurd hword.symm hne
  · rw [hchop, List.flatten_append, List.flatten_singleton] at hword
    exact ⟨others, last, hchop, hword⟩

theorem ne_nil_of_lt_length_trimEnd {word : List Char} (h : width < (trimEnd word).length) :
    word ≠ [] := by
  rintro rfl
  exact absurd h (Nat.not_lt_zero _)

/-- No characters are lost between lines. -/
theorem flatten_linesOf {words : List (List Char)} (h : ∀ word ∈ words, IsSingle word)
    (line : List Char) : (linesOf width line words).flatten = line ++ words.flatten := by
  induction words generalizing line with
  | nil => simp [linesOf]
  | cons word rest ih =>
    rw [List.forall_mem_cons] at h
    rw [linesOf, List.flatten_cons]
    split
    · rw [ih h.2, List.append_assoc]
    split
    · next hlong =>
      obtain ⟨others, last, hchop, hword⟩ :=
        exists_chop_eq width h.1 (ne_nil_of_lt_length_trimEnd hlong)
      simp only
      rw [hchop, List.dropLast_concat, List.getLastD_concat, List.flatten_cons,
        List.flatten_append, ih h.2, ← List.append_assoc others.flatten, hword]
    · rw [List.flatten_cons, ih h.2]

/-- Lines begin where they are said to. -/
theorem startsFrom_linesOf (width : Nat) {words : List (List Char)}
    (h : ∀ word ∈ words, IsSingle word) (line : List Char) (start : Nat) :
    startsFrom start (linesOf width line words) =
      start :: breaksFrom width line.length (start + line.length) words := by
  induction words generalizing line start with
  | nil => rfl
  | cons word rest ih =>
    rw [List.forall_mem_cons] at h
    have htrimmed : cells (trimEnd word) = (trimEnd word).length :=
      Text.cells_of_isSingle (h.1.mono (Text.trimEnd_sublist word).subset)
    have hword : cells word = word.length := Text.cells_of_isSingle h.1
    rw [linesOf, breaksFrom, htrimmed]
    simp only
    split
    · rw [ih h.2, hword, List.length_append, Nat.add_assoc]
    split
    · next hlong =>
      obtain ⟨others, last, hchop, hsplit⟩ :=
        exists_chop_eq width h.1 (ne_nil_of_lt_length_trimEnd hlong)
      -- the next word is written behind the last piece of this one
      have hlast : cells last = last.length :=
        Text.cells_of_isSingle (Text.isSingle_append.1 (hsplit ▸ h.1)).2
      have hnext : start + line.length + others.flatten.length + last.length =
          start + line.length + word.length := by
        rw [← hsplit, List.length_append, Nat.add_assoc]
      rw [hchop, List.dropLast_concat, List.getLastD_concat, hlast, startsFrom, startsFrom_append,
        startsFrom_append, ih h.2, hnext]
      simp [startsFrom]
    · rw [startsFrom, ih h.2, hword]

/-- A line is at most as long as its words without the blanks at its end. -/
theorem length_trimEnd_append_le (as bs : List Char) :
    (trimEnd (as ++ bs)).length ≤ as.length + (trimEnd bs).length := by
  simp only [trimEnd, Text.dropTrailing_eq_rdropWhile, List.rdropWhile, List.reverse_append,
    List.dropWhile_append, List.length_reverse]
  have hdrop := (List.dropWhile_sublist isBlank (l := as.reverse)).length_le
  rw [List.length_reverse] at hdrop
  split
  · omega
  · rw [List.length_append, List.length_reverse]
    omega

/-- Without blanks at its end, every line has room. -/
theorem length_trimEnd_le_of_mem_linesOf (hwidth : 0 < width) {words : List (List Char)}
    (h : ∀ word ∈ words, IsSingle word) {line : List Char}
    (hline : (trimEnd line).length ≤ width) {piece : List Char}
    (hpiece : piece ∈ linesOf width line words) : (trimEnd piece).length ≤ width := by
  induction words generalizing line with
  | nil => rwa [List.mem_singleton.1 hpiece]
  | cons word rest ih =>
    rw [List.forall_mem_cons] at h
    rw [linesOf] at hpiece
    simp only at hpiece
    split at hpiece
    · next hfits =>
      -- there is room for the word
      have hle := length_trimEnd_append_le line word
      exact ih h.2 (by omega) hpiece
    split at hpiece
    · next hlong =>
      -- a word longer than a line is chopped, and its last piece can be carried on
      obtain ⟨others, last, hchop, -⟩ :=
        exists_chop_eq width h.1 (ne_nil_of_lt_length_trimEnd hlong)
      have hshort : ∀ p ∈ others ++ [last], (trimEnd p).length ≤ width := by
        intro p hp
        rw [← hchop] at hp
        have hle := length_le_of_mem_chop hwidth h.1 hp
        have htrim := (Text.trimEnd_sublist p).length_le
        omega
      rw [hchop, List.dropLast_concat, List.getLastD_concat, List.mem_cons,
        List.mem_append] at hpiece
      rcases hpiece with rfl | hother | hpiece
      · exact hline
      · exact hshort piece (List.mem_append_left _ hother)
      · exact ih h.2 (hshort last (by simp)) hpiece
    · next hroom hshort =>
      -- any other word begins a line
      rcases List.mem_cons.1 hpiece with rfl | hpiece
      · exact hline
      · exact ih h.2 (not_lt.1 hshort) hpiece

/-! ## Pieces -/

/-- The pieces of a text of which each makes a line of `width` cells. -/
structure Pieces (width : Nat) (cs : List Char) (pieces : List (List Char)) : Prop where
  flatten_eq : pieces.flatten = cs
  fits : ∀ piece ∈ pieces, (trimEnd piece).length ≤ width
  whole : cs.length ≤ width → pieces = [cs]

/-- Pieces of single cells are such themselves. -/
theorem Pieces.isSingle {pieces : List (List Char)} (hpieces : Pieces width cs pieces)
    (h : IsSingle cs) : ∀ piece ∈ pieces, IsSingle piece := by
  intro piece hpiece
  apply h.mono
  rw [← hpieces.flatten_eq]
  exact fun c hc => List.mem_flatten_of_mem hpiece hc

/-- A piece that begins at the start of the text needs no position. -/
theorem exists_startsFrom_eq (pieces : List (List Char)) :
    ∃ first others, (first :: others).flatten = pieces.flatten ∧
      (∀ piece ∈ first :: others, piece = [] ∨ piece ∈ pieces) ∧
      (startsFrom 0 pieces).filter (· ≠ 0) = startsFrom first.length others := by
  induction pieces with
  | nil => exact ⟨[], [], rfl, by simp, rfl⟩
  | cons piece pieces ih =>
    cases piece with
    | nil =>
      -- an empty piece begins where the next one does
      obtain ⟨first, others, hflatten, hmem, hstarts⟩ := ih
      refine ⟨first, others, by rw [hflatten]; rfl, ?_, ?_⟩
      · intro p hp
        exact (hmem p hp).imp id (List.mem_cons_of_mem _)
      · rw [startsFrom, List.filter_cons_of_neg (by simp)]
        exact hstarts
    | cons c rest =>
      refine ⟨c :: rest, pieces, rfl, fun p hp => .inr hp, ?_⟩
      rw [startsFrom, List.filter_cons_of_neg (by simp), Nat.zero_add, List.filter_eq_self]
      intro n hn
      have hle := le_of_mem_startsFrom hn
      simp at hle ⊢
      omega

/-- A text is cut into its pieces where they start. -/
theorem partsFrom_startsFrom (σ : Type) {before : List Char} {first : List Char}
    {others : List (List Char)} (h : cs = before ++ (first :: others).flatten) :
    (⟨cs, []⟩ : StyledText σ).partsFrom before.length
      (startsFrom (before.length + first.length) others) =
        (first :: others).map fun piece => ⟨piece, []⟩ := by
  induction others generalizing before first with
  | nil =>
    rw [List.flatten_singleton] at h
    simp [startsFrom, StyledText.partsFrom, StyledText.part, h]
  | cons second others ih =>
    have hsplit : cs = (before ++ first) ++ (second :: others).flatten := by
      rw [h, List.flatten_cons, List.append_assoc]
    have hnext := ih hsplit
    rw [List.length_append] at hnext
    rw [startsFrom, StyledText.partsFrom, hnext]
    simp [StyledText.part, h]

/-- A text that is cut at the starts of its pieces comes apart into them. -/
theorem cutAt_startsFrom {σ : Type} {first : List Char} {others : List (List Char)}
    (h : cs = (first :: others).flatten) :
    (⟨cs, []⟩ : StyledText σ).cutAt (startsFrom first.length others) =
      (first :: others).map fun piece => ⟨piece, []⟩ := by
  cases others with
  | nil =>
    rw [List.flatten_singleton] at h
    rw [h]
    rfl
  | cons second others =>
    have hsplit : cs = [] ++ (first :: second :: others).flatten := h
    have hparts := partsFrom_startsFrom σ hsplit
    rw [List.length_nil, Nat.zero_add] at hparts
    exact hparts

/-- A line that has room for all words takes them all. -/
theorem linesOf_of_length_le {words : List (List Char)} {line : List Char}
    (h : line.length + words.flatten.length ≤ width) :
    linesOf width line words = [line ++ words.flatten] := by
  induction words generalizing line with
  | nil => simp [linesOf]
  | cons word rest ih =>
    have htrim := (Text.trimEnd_sublist word).length_le
    rw [List.flatten_cons, List.length_append] at h
    rw [linesOf, List.flatten_cons, ← List.append_assoc]
    simp only
    rw [if_pos (by omega)]
    apply ih
    rw [List.length_append]
    omega

section

variable (h : IsSingle cs)
include h

/-- The words of a text are texts of single cells. -/
theorem isSingle_of_mem_words (hne : words cs ≠ []) {word : List Char} (hword : word ∈ words cs) :
    IsSingle word := by
  apply h.mono
  rw [← flatten_words hne]
  exact fun c hc => List.mem_flatten_of_mem hword hc

/-- A text that fits is not cut, and neither is a blank one. -/
theorem breaks_eq_nil (huncut : words cs = [] ∨ cs.length ≤ width) : breaks width cs = [] := by
  by_cases hwords : words cs = []
  · rw [breaks, hwords]
    rfl
  · have hfits := huncut.resolve_left hwords
    have hlines : linesOf width [] (words cs) = [cs] := by
      rw [linesOf_of_length_le, flatten_words hwords, List.nil_append]
      rw [flatten_words hwords]
      simpa using hfits
    have hsingle : ∀ word ∈ words cs, IsSingle word :=
      fun word => isSingle_of_mem_words h hwords
    have hstarts := startsFrom_linesOf width hsingle [] 0
    rw [hlines] at hstarts
    have hnone : breaksFrom width 0 0 (words cs) = [] := (List.cons.inj hstarts).2.symm
    rw [breaks, hnone]
    rfl

/-- A text is cut into pieces that make it up. -/
theorem exists_pieces (hwidth : 0 < width) (σ : Type) :
    ∃ pieces, Pieces width cs pieces ∧
      (⟨cs, []⟩ : StyledText σ).cutAt (breaks width cs) =
        pieces.map fun piece => ⟨piece, []⟩ := by
  by_cases huncut : words cs = [] ∨ cs.length ≤ width
  · -- the text is its only piece
    refine ⟨[cs], ⟨List.flatten_singleton, ?_, fun _ => rfl⟩, ?_⟩
    · intro piece hpiece
      rw [List.mem_singleton.1 hpiece]
      rcases huncut with hwords | hfits
      · have hnone : trimEnd cs = [] := by
          rw [trimEnd, Text.dropTrailing_eq_rdropWhile, List.rdropWhile_eq_nil_iff]
          exact (words_eq_nil_iff cs).1 hwords
        rw [hnone]
        exact Nat.zero_le _
      · exact (Text.trimEnd_sublist cs).length_le.trans hfits
    · rw [breaks_eq_nil h huncut]
      rfl
  · rw [not_or] at huncut
    have hsingle : ∀ word ∈ words cs, IsSingle word :=
      fun word => isSingle_of_mem_words h huncut.1
    obtain ⟨first, others, hpieces, hmem, hstarts⟩ :=
      exists_startsFrom_eq (linesOf width [] (words cs))
    rw [flatten_linesOf hsingle, List.nil_append, flatten_words huncut.1] at hpieces
    -- an empty first line is left out, as nothing is cut at the start
    refine ⟨first :: others, ⟨hpieces, ?_, fun hfits => absurd hfits huncut.2⟩, ?_⟩
    · intro piece hpiece
      rcases hmem piece hpiece with rfl | hline
      · exact Nat.zero_le _
      · exact length_trimEnd_le_of_mem_linesOf hwidth hsingle (Nat.zero_le _) hline
    · have hbreaks : breaks width cs = startsFrom first.length others := by
        rw [← hstarts, startsFrom_linesOf width hsingle, breaks, List.filter_cons_of_neg (by simp)]
        rfl
      rw [hbreaks, cutAt_startsFrom hpieces.symm]

end

/-! ## Cells -/

/-- A line of a cell: a piece without the blanks at its end for which there is no room. -/
def lineOf (width : Nat) (piece : List Char) : List Char :=
  leftAligned width (piece.take width)

/-- What fits but for blanks at its end loses only blanks. -/
theorem dropExcess_eq {σ : Type} {piece : List Char} (h : (trimEnd piece).length ≤ width) :
    dropExcess width (⟨piece, []⟩ : StyledText σ) = ⟨piece.take width, []⟩ := by
  have htrim := (Text.trimEnd_sublist piece).length_le
  unfold dropExcess
  simp only
  split
  · next hnone =>
    rw [List.take_of_length_le (by omega)]
  · next hsome =>
    have hlength : piece.length - min (piece.length - (trimEnd piece).length)
        (piece.length - width) = width := by omega
    rw [hlength]
    rfl

/-- A text that fits is filled up with blanks. -/
theorem fitLine_eq {σ : Type} (h : IsSingle cs) (hle : cs.length ≤ width) :
    fitLine width (⟨cs, []⟩ : StyledText σ) = .ok ⟨leftAligned width cs, []⟩ := by
  have hcells := Text.cells_of_isSingle h
  rw [fitLine, fit, hcells, if_neg (by omega)]
  show Except.ok (if _ then _ else _) = _
  rw [if_neg (by simp)]
  simp [leftAligned, hcells]

/-- There are no tabs in a text of single cells. -/
theorem tabStops_of_isSingle (h : IsSingle cs) (start : Nat) : tabStops start cs = [] := by
  induction cs generalizing start with
  | nil => rfl
  | cons c rest ih =>
    have htab : c ≠ '\t' := by
      rintro rfl
      exact h.notMem (by decide +kernel) List.mem_cons_self
    rw [tabStops, ih (Text.isSingle_cons.1 h).2]
    exact if_neg htab

/-- A text is shown in lines of its pieces. -/
theorem exists_fold (hwidth : 0 < width) (h : IsSingle cs) (σ : Type) :
    ∃ pieces, Pieces width cs pieces ∧
      fold width (⟨cs, []⟩ : StyledText σ) =
        .ok (pieces.map fun piece => ⟨lineOf width piece, []⟩) := by
  obtain ⟨pieces, hpieces, hcut⟩ := exists_pieces h hwidth σ
  refine ⟨pieces, hpieces, ?_⟩
  have hlines : (⟨cs, []⟩ : StyledText σ).lines = [⟨cs, []⟩] := by
    rw [StyledText.lines, if_neg]
    simpa using h.notMem (d := '\n') (by decide +kernel)
  have htabs : expandTabs (⟨cs, []⟩ : StyledText σ) = ⟨cs, []⟩ := by
    rw [expandTabs, tabStops_of_isSingle h]
  have hfit : (pieces.map fun piece => (⟨piece, []⟩ : StyledText σ)).mapM
      (fun part => fitLine width (dropExcess width part)) =
        .ok (pieces.map fun piece => ⟨lineOf width piece, []⟩) := by
    rw [mapM_eq_ok_iff, List.forall₂_map_left_iff, List.forall₂_map_right_iff, List.forall₂_same]
    intro piece hpiece
    have hsingle : IsSingle (piece.take width) :=
      (hpieces.isSingle h piece hpiece).mono (List.take_subset _ _)
    rw [dropExcess_eq (hpieces.fits piece hpiece), fitLine_eq hsingle (List.length_take_le _ _)]
    rfl
  rw [fold, hlines]
  simp only [List.mapM_cons, List.mapM_nil, htabs, hcut, hfit]
  show Except.ok _ = _
  simp

end DesignMetrics.Report.Cell
