import DesignMetrics.Text.Trim
import Mathlib.Data.List.Basic
import Mathlib.Data.List.DropRight

/-!
# Cutting and joining texts

Cutting at a separator undoes joining with it, so that a joined text shows the names it was made of.
-/

namespace DesignMetrics.Text

variable {separator : Char}

/-- Splitting leaves at least one piece. -/
theorem splitOn_ne_nil (cs : List Char) : splitOn separator cs ≠ [] := by
  cases cs with
  | nil => exact List.cons_ne_nil _ _
  | cons c rest =>
    rw [splitOn]
    split
    · exact List.cons_ne_nil _ _
    · split <;> exact List.cons_ne_nil _ _

/-- A separator begins a piece, and every other character goes on with one. -/
theorem splitOn_cons (c : Char) (rest : List Char) :
    splitOn separator (c :: rest) =
      if c = separator then [] :: splitOn separator rest
      else (splitOn separator rest).modifyHead (c :: ·) := by
  rw [splitOn]
  cases h : splitOn separator rest with
  | nil => exact absurd h (splitOn_ne_nil rest)
  | cons piece pieces => rfl

/-- Splitting is that of the library. -/
theorem splitOn_eq (separator : Char) (cs : List Char) :
    splitOn separator cs = cs.splitOn separator := by
  induction cs with
  | nil => rfl
  | cons c rest ih =>
    rw [splitOn_cons, ih, List.splitOn_cons_eq_if_modifyHead]
    simp only [beq_iff_eq]

/-- No piece has the separator in it. -/
theorem not_mem_of_mem_splitOn {cs piece : List Char} (h : piece ∈ splitOn separator cs) :
    separator ∉ piece := by
  induction cs generalizing piece with
  | nil =>
    rw [List.mem_singleton.1 h]
    exact List.not_mem_nil
  | cons c rest ih =>
    rw [splitOn_cons] at h
    split at h
    · obtain rfl | h := List.mem_cons.1 h
      · exact List.not_mem_nil
      · exact ih h
    · next hc =>
      cases hrest : splitOn separator rest with
      | nil => exact absurd hrest (splitOn_ne_nil rest)
      | cons first pieces =>
        rw [hrest] at h ih
        obtain rfl | h := List.mem_cons.1 h
        · rw [List.mem_cons, not_or]
          exact ⟨Ne.symm hc, ih List.mem_cons_self⟩
        · exact ih (List.mem_cons_of_mem _ h)

/-- The pieces of a text with the separator in front of all but the first are the text. -/
theorem eq_of_splitOn_eq_cons {cs first : List Char} {others : List (List Char)}
    (h : splitOn separator cs = first :: others) :
    cs = first ++ others.flatMap (separator :: ·) := by
  induction cs generalizing first others with
  | nil =>
    cases h
    rfl
  | cons c rest ih =>
    rw [splitOn_cons] at h
    cases hrest : splitOn separator rest with
    | nil => exact absurd hrest (splitOn_ne_nil rest)
    | cons piece pieces =>
      have hpieces := ih hrest
      rw [hrest] at h
      split at h
      · next hc =>
        cases h
        rw [hc, List.nil_append, List.flatMap_cons, List.cons_append, ← hpieces]
      · cases h
        rw [List.cons_append, ← hpieces]

/-- The pieces are made of the characters of the text. -/
theorem mem_of_mem_splitOn {cs piece : List Char} {c : Char} (h : piece ∈ splitOn separator cs)
    (hc : c ∈ piece) : c ∈ cs := by
  cases hpieces : splitOn separator cs with
  | nil => exact absurd hpieces (splitOn_ne_nil cs)
  | cons first others =>
    rw [eq_of_splitOn_eq_cons hpieces]
    rw [hpieces, List.mem_cons] at h
    obtain rfl | h := h
    · exact List.mem_append_left _ hc
    · exact List.mem_append_right _
        (List.mem_flatMap.2 ⟨piece, h, List.mem_cons_of_mem _ hc⟩)

/-- Every other character of a text stands in one of the pieces. -/
theorem exists_mem_splitOn {cs : List Char} {c : Char} (hc : c ∈ cs) (hne : c ≠ separator) :
    ∃ piece ∈ splitOn separator cs, c ∈ piece := by
  cases hpieces : splitOn separator cs with
  | nil => exact absurd hpieces (splitOn_ne_nil cs)
  | cons first others =>
    rw [eq_of_splitOn_eq_cons hpieces] at hc
    obtain hc | hc := List.mem_append.1 hc
    · exact ⟨first, List.mem_cons_self, hc⟩
    · obtain ⟨piece, hpiece, hc⟩ := List.mem_flatMap.1 hc
      exact ⟨piece, List.mem_cons_of_mem _ hpiece, (List.mem_cons.1 hc).resolve_left hne⟩

/-- A separator cuts a text into what comes before it and what comes after it. -/
theorem splitOn_append_cons (as bs : List Char) :
    splitOn separator (as ++ separator :: bs) = splitOn separator as ++ splitOn separator bs := by
  induction as with
  | nil => rw [List.nil_append, splitOn_cons, if_pos rfl]; rfl
  | cons c rest ih =>
    rw [List.cons_append, splitOn_cons, splitOn_cons, ih]
    split
    · rfl
    · cases h : splitOn separator rest with
      | nil => exact absurd h (splitOn_ne_nil rest)
      | cons piece pieces => rfl

/-- Texts without the separator are found again in what they were joined to. -/
theorem splitOn_intercalate {names : List (List Char)} (hne : names ≠ [])
    (h : ∀ name ∈ names, separator ∉ name) :
    splitOn separator ([separator].intercalate names) = names := by
  rw [splitOn_eq, List.splitOn_intercalate separator h hne]

/-- Names without a slash are the pieces of the path that they make. -/
theorem splitOn_intercalate_slash {names : List String} (hne : names ≠ [])
    (h : ∀ name ∈ names, '/' ∉ name.toList) :
    splitOn '/' ("/".intercalate names).toList = names.map String.toList := by
  rw [String.toList_intercalate]
  refine splitOn_intercalate (by simpa using hne) ?_
  simpa using h

/-- Joined by slashes, names without a slash are told apart. -/
theorem eq_of_intercalate_eq {as bs : List String} (has : as ≠ []) (hbs : bs ≠ [])
    (ha : ∀ name ∈ as, '/' ∉ name.toList) (hb : ∀ name ∈ bs, '/' ∉ name.toList)
    (h : "/".intercalate as = "/".intercalate bs) : as = bs := by
  have hmap : as.map String.toList = bs.map String.toList := by
    rw [← splitOn_intercalate_slash has ha, ← splitOn_intercalate_slash hbs hb, h]
  exact List.map_injective_iff.2 (fun _ _ => String.toList_inj.1) hmap

/-! ## Cutting at the end -/

theorem dropTrailing_eq_rdropWhile (p : Char → Bool) (cs : List Char) :
    dropTrailing p cs = cs.rdropWhile p := by
  induction cs with
  | nil => rfl
  | cons c rest ih =>
    rw [dropTrailing, ih, List.rdropWhile, List.rdropWhile, List.reverse_cons,
      List.dropWhile_append]
    cases rest.reverse.dropWhile p with
    | nil =>
      by_cases hc : p c = true <;> simp [hc]
    | cons d kept => simp

/-- What stays at the end keeps what stands in front of it. -/
theorem dropTrailing_cons {p : Char → Bool} {c : Char} {rest : List Char}
    (h : p c = false ∨ dropTrailing p rest ≠ []) :
    dropTrailing p (c :: rest) = c :: dropTrailing p rest := by
  rw [dropTrailing]
  cases hrest : dropTrailing p rest with
  | nil =>
    obtain hc | hne := h
    · exact if_neg (by simp [hc])
    · exact absurd hrest hne
  | cons _ _ => rfl

/-- A character that is not cut off keeps what stands before it. -/
theorem dropTrailing_append_cons {p : Char → Bool} {c : Char} (hc : p c = false)
    (as bs : List Char) : dropTrailing p (as ++ c :: bs) = as ++ c :: dropTrailing p bs := by
  induction as with
  | nil => exact dropTrailing_cons (.inl hc)
  | cons a as ih =>
    rw [List.cons_append, dropTrailing_cons (.inr (by rw [ih]; simp)), ih, List.cons_append]

/-! ## White space at the ends -/

/-- Nothing is trimmed from a text that does not begin with a blank. -/
theorem trimStart_eq_self_iff {cs : List Char} :
    trimStart cs = cs ↔ cs.head?.any isBlank = false := by
  cases cs <;> simp [trimStart, List.dropWhile_eq_self_iff]

/-- Nothing is trimmed from a text that does not end with one. -/
theorem trimEnd_eq_self_iff {cs : List Char} :
    trimEnd cs = cs ↔ cs.getLast?.any isBlank = false := by
  rw [trimEnd, dropTrailing_eq_rdropWhile, List.rdropWhile_eq_self_iff]
  by_cases hcs : cs = []
  · simp [hcs]
  · simp [hcs, List.getLast?_eq_some_getLast hcs]

theorem trimStart_sublist (cs : List Char) : (trimStart cs).Sublist cs :=
  List.dropWhile_sublist _

theorem trimEnd_sublist (cs : List Char) : (trimEnd cs).Sublist cs := by
  rw [trimEnd, dropTrailing_eq_rdropWhile]
  exact (List.rdropWhile_prefix _ _).sublist

theorem trim_sublist (cs : List Char) : (trim cs).Sublist cs :=
  (trimEnd_sublist _).trans (trimStart_sublist cs)

/-- Blanks behind a text are trimmed with its own. -/
theorem trimEnd_append_of_forall {as bs : List Char} (h : ∀ c ∈ bs, isBlank c = true) :
    trimEnd (as ++ bs) = trimEnd as := by
  simp only [trimEnd, dropTrailing_eq_rdropWhile, List.rdropWhile, List.reverse_append]
  rw [List.dropWhile_append_of_pos (by simpa using h)]

/-- Nothing but blanks is trimmed. -/
theorem exists_eq_trimEnd_append (cs : List Char) :
    ∃ blanks, (∀ c ∈ blanks, isBlank c = true) ∧ cs = trimEnd cs ++ blanks := by
  rw [trimEnd, dropTrailing_eq_rdropWhile]
  exact ⟨cs.rtakeWhile isBlank, fun c hc => List.mem_rtakeWhile_imp hc,
    (List.rdropWhile_append_rtakeWhile).symm⟩

theorem trimEnd_trimEnd (cs : List Char) : trimEnd (trimEnd cs) = trimEnd cs := by
  simp only [trimEnd, dropTrailing_eq_rdropWhile, List.rdropWhile_idempotent]

/-- Nothing is removed from a text if nothing is removed from either end. -/
theorem trim_eq_self_iff {cs : List Char} : trim cs = cs ↔ trimStart cs = cs ∧ trimEnd cs = cs := by
  constructor
  · intro h
    have hend := (trimEnd_sublist (trimStart cs)).length_le
    have hstart := (trimStart_sublist cs).length_le
    have hlength := congrArg List.length h
    unfold trim at h hlength
    have hkept : trimStart cs = cs := (trimStart_sublist cs).eq_of_length (by omega)
    refine ⟨hkept, ?_⟩
    rwa [hkept] at h
  · intro ⟨hstart, hend⟩
    rw [trim, hstart, hend]

end DesignMetrics.Text
