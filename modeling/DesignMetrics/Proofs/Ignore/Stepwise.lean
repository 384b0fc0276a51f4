import DesignMetrics.Ignore.Load
import DesignMetrics.Proofs.Ignore.Confined

/-!
# Rules moved step by step

A line can be written for the directory above its own, then for the one above that, and so on up to
the root. It comes to the line that is written for the root at once: what has been moved is tied to
its place, and is taken for what it was. So what the ignore files below the root say for the root
comes to what the directories on the way would pass on to each other.
-/

namespace DesignMetrics.Ignore

open Files (Path Tree)

/-- What the steps of a path are: none is empty, and none begins with a slash. -/
def IsStep (name : List Char) : Prop :=
  name ≠ [] ∧ name.head? ≠ some '/'

variable {outer inner pattern line : List Char}

theorem IsStep.exists_cons (h : IsStep inner) :
    ∃ c more, inner = c :: more ∧ (c == '/') = false := by
  rcases List.exists_cons_of_ne_nil h.1 with ⟨c, more, rfl⟩
  refine ⟨c, more, rfl, ?_⟩
  rw [beq_eq_false_iff_ne]
  rintro rfl
  exact h.2 rfl

/-! ## Moved patterns -/

/-- What stands in a moved pattern after its directory and a slash, white space at the end
included. -/
def placedTail (pattern : List Char) : List Char :=
  (if isAnchored pattern then [] else deep ++ ['/']) ++ pattern.dropWhile (· == '/')

theorem moveUnder_eq (base pattern : List Char) :
    moveUnder base pattern = '/' :: (base ++ '/' :: placedTail pattern) := by
  unfold moveUnder placedTail
  split <;> simp [deep]

/-- The slash between its directory and its name ties a moved pattern to its place. -/
theorem IsStep.isAnchored_moveUnder (h : IsStep inner) (pattern : List Char) :
    isAnchored (moveUnder inner pattern) = true := by
  rcases h.exists_cons with ⟨c, more, rfl, hc⟩
  have htrim : Text.trimEnd (moveUnder (c :: more) pattern) =
      ('/' :: c :: more) ++ '/' :: Text.trimEnd (placedTail pattern) := by
    rw [moveUnder_eq]
    exact Text.dropTrailing_append_cons (by decide) ('/' :: c :: more) (placedTail pattern)
  -- the first letter of the directory keeps the slash in front of it
  have hkept : ('/' :: c :: more) ++ '/' :: Text.trimEnd (placedTail pattern) =
      ['/'] ++ c :: (more ++ '/' :: Text.trimEnd (placedTail pattern)) := by
    simp
  unfold isAnchored
  rw [htrim, hkept, Text.dropTrailing_append_cons (p := (· == '/')) hc]
  simp

/-- A pattern that is moved twice stands behind both directories. -/
theorem IsStep.moveUnder_moveUnder (h : IsStep inner) (outer pattern : List Char) :
    moveUnder outer (moveUnder inner pattern) = moveUnder (outer ++ '/' :: inner) pattern := by
  have hanchored := h.isAnchored_moveUnder pattern
  rcases h.exists_cons with ⟨c, more, rfl, hc⟩
  have hdrop : (moveUnder (c :: more) pattern).dropWhile (· == '/') =
      (c :: more) ++ '/' :: placedTail pattern := by
    rw [moveUnder_eq, List.dropWhile_cons_of_pos (p := (· == '/')) (beq_self_eq_true '/')]
    exact List.dropWhile_cons_of_neg (ne_true_of_eq_false hc)
  rw [moveUnder_eq outer, placedTail, if_pos hanchored, hdrop, moveUnder_eq]
  simp

/-! ## Moved lines -/

theorem trim_cons {c : Char} (hblank : Text.isBlank c = false) (rest : List Char) :
    Text.trim (c :: rest) = c :: Text.trimEnd rest := by
  unfold Text.trim Text.trimStart
  rw [List.dropWhile_cons_of_neg (by simp [hblank])]
  exact Text.dropTrailing_cons (.inl hblank)

theorem isPassive_cons_eq_false {c : Char} (hblank : Text.isBlank c = false) (hcomment : c ≠ '#')
    (hescape : c ≠ '\\') (rest : List Char) : isPassive (c :: rest) = false := by
  unfold isPassive
  simp [trim_cons hblank, hcomment, hescape]

/-- A line that was rewritten begins with its mark or a slash, and is rewritten again. -/
theorem isPassive_relocateChars (hne : inner ≠ []) (hactive : isPassive line = false) :
    isPassive (relocateChars inner line) = false := by
  rw [relocateChars_of_active hne hactive, moveUnder_eq]
  split
  · apply isPassive_cons_eq_false (by decide) (by decide) (by decide)
  · apply isPassive_cons_eq_false (by decide) (by decide) (by decide)

/-- A line that means nothing is left as it is. -/
theorem relocateChars_of_passive (hpassive : isPassive line = true) (base : List Char) :
    relocateChars base line = line := by
  unfold relocateChars
  rw [hpassive, Bool.or_true, if_pos rfl]

/-- Lines are moved twice as they are moved once. -/
theorem IsStep.relocateChars_relocateChars (hinner : IsStep inner) (houter : outer ≠ [])
    (line : List Char) :
    relocateChars outer (relocateChars inner line) =
      relocateChars (outer ++ '/' :: inner) line := by
  cases hpassive : isPassive line with
  | true =>
    -- what means nothing here means nothing in any directory
    rw [relocateChars_of_passive hpassive, relocateChars_of_passive hpassive,
      relocateChars_of_passive hpassive]
  | false =>
    have hmoved := isPassive_relocateChars hinner.1 hpassive
    have hboth : outer ++ '/' :: inner ≠ [] := by simp
    rw [relocateChars_of_active houter hmoved, relocateChars_of_active hboth hpassive,
      relocateChars_of_active hinner.1 hpassive]
    -- the mark of a line that takes paths back stays in front of everything
    by_cases hbang : line.head? = some '!'
    · rw [if_pos hbang]
      show '!' :: moveUnder outer (moveUnder inner (patternOf line)) =
        '!' :: moveUnder (outer ++ '/' :: inner) (patternOf line)
      rw [hinner.moveUnder_moveUnder]
    · rw [if_neg hbang, List.nil_append, List.nil_append]
      have hhead : (moveUnder inner (patternOf line)).head? ≠ some '!' := by
        rw [moveUnder_eq]
        simp
      rw [if_neg hhead, patternOf_of_head?_ne hhead, List.nil_append,
        hinner.moveUnder_moveUnder]

/-- Moving a line up by a longer path is moving it up by its end, and then by the rest. -/
theorem IsStep.relocate_append {outer inner : String} (hinner : IsStep inner.toList)
    (houter : outer ≠ "") (line : String) :
    relocate (outer ++ "/" ++ inner) line = relocate outer (relocate inner line) := by
  have houter : outer.toList ≠ [] := fun hnil => houter (String.toList_eq_nil_iff.1 hnil)
  have hboth : (outer ++ "/" ++ inner).toList = outer.toList ++ '/' :: inner.toList := by simp
  unfold relocate
  rw [String.toList_ofList, hinner.relocateChars_relocateChars houter, hboth]

/-- Written for the directory above and then for the root, or for the root at once, a line is the
same. -/
theorem relocate_relocate {outer inner : String} (houter : outer ≠ "") (hinner : inner ≠ "")
    (hslash : inner.toList.head? ≠ some '/') (line : String) :
    relocate outer (relocate inner line) = relocate (outer ++ "/" ++ inner) line := by
  have hstep : IsStep inner.toList :=
    ⟨fun hnil => hinner (String.toList_eq_nil_iff.1 hnil), hslash⟩
  exact (hstep.relocate_append houter line).symm

/-- A line with its mark, written for `b/c` and then for the directory of `b`. -/
theorem relocate_relocate_marked :
    relocate "a" (relocate "b/c" "!x/ ") = relocate ("a" ++ "/" ++ "b/c") "!x/ " ∧
      relocate "a" (relocate "b/c" "!x/ ") = "!/a/b/c/**/x/ " :=
  ⟨relocate_relocate (by decide) (by decide) (by decide) "!x/ ", by decide +kernel⟩

/-! ## Lines of nested directories -/

variable {t : Tree} {root : Path} {outer : String} {names : List String}

/-- For the directory itself a line is left as it is. -/
theorem relocate_root (line : String) : relocate "" line = line := by
  unfold relocate relocateChars
  rw [String.toList_empty, List.isEmpty_nil, Bool.true_or, if_pos rfl, String.ofList_toList]

/-- Steps with slashes between them are one step. -/
theorem isStep_intercalate (hnames : ∀ name ∈ names, IsStep name.toList) (hne : names ≠ []) :
    IsStep ("/".intercalate names).toList := by
  cases names with
  | nil => exact absurd rfl hne
  | cons name names =>
    obtain ⟨hname, -⟩ := List.forall_mem_cons.1 hnames
    cases names with
    | nil =>
      rw [String.intercalate_singleton]
      exact hname
    | cons next names =>
      obtain ⟨c, more, hcons, hc⟩ := hname.exists_cons
      rw [String.intercalate_cons_cons]
      simp only [String.toList_append, hcons]
      exact ⟨by simp, by simpa using hc⟩

/-- A line that is moved up by a whole path is moved up by the first name of it at the end. -/
theorem relocate_intercalate_cons (houter : outer ≠ "")
    (hnames : ∀ name ∈ names, IsStep name.toList) (line : String) :
    relocate ("/".intercalate (outer :: names)) line =
      relocate outer (relocate ("/".intercalate names) line) := by
  cases names with
  | nil =>
    rw [String.intercalate_singleton, String.intercalate_nil, relocate_root]
  | cons next names =>
    have hstep := isStep_intercalate hnames (List.cons_ne_nil next names)
    rw [String.intercalate_cons_cons]
    exact hstep.relocate_append houter line

/-- What the ignore file of a nested directory says for the root is what it says for the directory
one level below the root, moved up once. -/
theorem linesOf_cons (houter : outer ≠ "") (hnames : ∀ name ∈ names, IsStep name.toList) :
    linesOf t root (outer :: names) =
      (linesOf t (root.append [outer]) names).map (List.map (relocate outer)) := by
  have hplace : (root.append [outer]).append (names ++ [fileName]) =
      root.append (outer :: names ++ [fileName]) := by
    simp [Path.append]
  unfold linesOf
  rw [hplace]
  cases t.readText (root.append (outer :: names ++ [fileName])) with
  | error e => rfl
  | ok cs =>
    show Except.ok _ = Except.ok _
    rw [List.map_map]
    refine congrArg Except.ok (List.map_congr_left fun line _ => ?_)
    exact relocate_intercalate_cons houter hnames (String.ofList line)

/-- The lines of a nested directory come to the root one directory at a time, from the innermost
name to the outermost. -/
theorem linesOf_eq_foldr (hnames : ∀ name ∈ names, IsStep name.toList) :
    linesOf t root names =
      (linesOf t (root.append names) []).map (List.map fun line => names.foldr relocate line) := by
  induction names generalizing root with
  | nil =>
    have hroot : root.append [] = root := by simp [Path.append]
    rw [hroot]
    cases linesOf t root [] with
    | error e => rfl
    | ok lines => exact congrArg Except.ok (List.map_id lines).symm
  | cons outer names ih =>
    obtain ⟨houter, hmore⟩ := List.forall_mem_cons.1 hnames
    have houter : outer ≠ "" := fun h => houter.1 (h ▸ rfl)
    have hplace : (root.append [outer]).append names = root.append (outer :: names) := by
      simp [Path.append]
    rw [linesOf_cons houter hmore, ih hmore, hplace]
    cases linesOf t (root.append (outer :: names)) [] with
    | error e => rfl
    | ok lines =>
      show Except.ok _ = Except.ok _
      rw [List.map_map]
      rfl

end DesignMetrics.Ignore
