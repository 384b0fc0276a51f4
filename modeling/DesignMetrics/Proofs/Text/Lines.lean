import DesignMetrics.Proofs.Text.Split
import DesignMetrics.Text.Quoted

/-!
# What lines are made of

Lines without a line feed are found again in the text that they make. A quoted text has none,
whatever is quoted.
-/

namespace DesignMetrics.Text

variable {separator : Char} {piece : List Char}

theorem splitOn_of_not_mem (h : separator ∉ piece) : splitOn separator piece = [piece] := by
  induction piece with
  | nil => rfl
  | cons c rest ih =>
    rw [List.mem_cons, not_or] at h
    rw [splitOn_cons, if_neg (Ne.symm h.1), ih h.2]
    rfl

/-- Lines that all end with a line feed are found again, with nothing after the last one. -/
theorem splitOn_join_lines {lines : List String} (h : ∀ line ∈ lines, '\n' ∉ line.toList) :
    splitOn '\n' (String.join (lines.map (· ++ "\n"))).toList =
      lines.map String.toList ++ [[]] := by
  induction lines with
  | nil => rfl
  | cons line lines ih =>
    rcases List.forall_mem_cons.1 h with ⟨hline, hlines⟩
    have hfeed : (line ++ "\n").toList = line.toList ++ ['\n'] := by simp
    rw [List.map_cons, String.join_cons, String.toList_append, hfeed, List.append_assoc,
      List.singleton_append, splitOn_append_cons, splitOn_of_not_mem hline, ih hlines]
    rfl

/-- What stands in none of several names, nor between them, is not in what they are joined to. -/
theorem not_mem_intercalate {between : String} {names : List String} {c : Char}
    (hbetween : c ∉ between.toList) (h : ∀ name ∈ names, c ∉ name.toList) :
    c ∉ (between.intercalate names).toList := by
  induction names with
  | nil => exact List.not_mem_nil
  | cons name names ih =>
    rcases List.forall_mem_cons.1 h with ⟨hname, hnames⟩
    cases names with
    | nil => rwa [String.intercalate_singleton]
    | cons next names =>
      rw [String.intercalate_cons_cons, String.toList_append, String.toList_append]
      simp only [List.mem_append, hname, hbetween, ih hnames, or_self, not_false_eq_true]

/-! ## Quoted texts -/

theorem isAlphanum_of_mem_hexDigits {width n : Nat} {c : Char} (h : c ∈ hexDigits width n) :
    c.isAlphanum = true := by
  have hdigit : ∀ d < 16, (Nat.digitChar d).isAlphanum = true := by decide
  induction width generalizing n with
  | zero => cases h
  | succ width ih =>
    rw [hexDigits] at h
    rcases List.mem_append.1 h with hbefore | hlast
    · exact ih hbefore
    · rw [List.mem_singleton.1 hlast]
      exact hdigit _ (Nat.mod_lt n (by decide))

/-- What cannot be shown is told by letters and digits. -/
theorem not_mem_hexEscape (n : Nat) : '\n' ∉ hexEscape n := by
  have hdigits : ∀ width, '\n' ∉ hexDigits width n := by
    intro width hmem
    exact absurd (isAlphanum_of_mem_hexDigits hmem) (by decide)
  unfold hexEscape
  split
  · simp [hdigits]
  · split <;> simp [hdigits]

theorem not_mem_quotedChar {mark c : Char} (hmark : mark ≠ '\n') : '\n' ∉ quotedChar mark c := by
  unfold quotedChar
  split
  · next hkept =>
    -- neither the mark nor a backslash is a line feed
    have hc : '\n' ≠ c := by
      rintro rfl
      revert hkept
      simp [Ne.symm hmark]
    simp [hc]
  split
  · decide
  split
  · decide
  next hfeed =>
  split
  · decide
  split
  · simpa using Ne.symm hfeed
  · exact not_mem_hexEscape c.toNat

/-- A quoted text stands on one line. -/
theorem not_mem_quoted (s : String) : '\n' ∉ (quoted s).toList := by
  have hmark : quoteMark s.toList ≠ '\n' := by
    unfold quoteMark
    split <;> decide
  unfold quoted
  rw [String.toList_ofList]
  simp only [List.cons_append, List.mem_cons, List.mem_append, List.mem_flatMap, List.not_mem_nil,
    or_false, not_or]
  refine ⟨Ne.symm hmark, ?_, Ne.symm hmark⟩
  rintro ⟨c, -, hmem⟩
  exact not_mem_quotedChar hmark hmem

end DesignMetrics.Text
