import DesignMetrics.Proofs.Except
import DesignMetrics.Proofs.Text.Width
import DesignMetrics.Report.Markup
import Mathlib.Data.List.Infix
import Mathlib.Data.List.TakeWhile

/-!
# Texts without style tags

Which texts are read as they are written: those in which no brackets make a tag and no backslash
stands in front of a bracket. Every other text comes out shorter, if it can be read at all.
-/

namespace DesignMetrics.Report.Markup

open Text (IsSingle)

variable {cs rest content : List Char} {position : Nat}

/-- Where brackets stand around what begins like a tag, there are other brackets in between. -/
def IsUntagged (cs : List Char) : Prop :=
  ∀ before c more after, cs = before ++ '[' :: c :: more ++ ']' :: after → startsTag c = true →
    '[' ∈ more ∨ ']' ∈ more

/-- No bracket that opens stands behind a backslash. -/
def IsUnescaped (cs : List Char) : Prop :=
  ∀ before after, cs ≠ before ++ '\\' :: '[' :: after

/-- Nothing in a text is read as anything else than itself. -/
structure IsPlain (cs : List Char) : Prop where
  untagged : IsUntagged cs
  unescaped : IsUnescaped cs

/-- A text without an opening bracket is plain. -/
theorem isPlain_of_notMem (h : '[' ∉ cs) : IsPlain cs where
  untagged before c more after hcs := absurd (by rw [hcs]; simp) h
  unescaped before after hcs := h (by rw [hcs]; simp)

/-! ## Tags -/

/-- Between the brackets of a tag stands what begins like one and has no other brackets in it. -/
theorem content?_eq_some (h : content? rest = some content) :
    ∃ c more after, content = c :: more ∧ rest = content ++ ']' :: after ∧ startsTag c = true ∧
      '[' ∉ more ∧ ']' ∉ more := by
  unfold content? at h
  simp only at h
  split at h
  · next c more after hcontent hafter =>
    split at h
    · next hstarts =>
      have hcs := Option.some.inj h
      have hsplit : rest = content ++ ']' :: after := by
        rw [← hcs, ← hafter]
        exact (List.prefix_iff_eq_append.1 (List.takeWhile_prefix _)).symm
      -- the content is taken up to the first bracket
      have hplain : ∀ d ∈ more, (d != ']' && d != '[') = true := by
        intro d hd
        apply List.mem_takeWhile_imp (p := fun d => d != ']' && d != '[') (l := rest)
        rw [hcontent]
        exact List.mem_cons_of_mem c hd
      refine ⟨c, more, after, hcs ▸ hcontent, hsplit, hstarts, ?_, ?_⟩
      · intro hmem
        simpa using hplain _ hmem
      · intro hmem
        simpa using hplain _ hmem
    · exact absurd h (by simp)
  · exact absurd h (by simp)

/-- The content of brackets that make a tag is read up to the first that closes. -/
theorem content?_append {c : Char} {more : List Char} (hstarts : startsTag c = true)
    (hopen : '[' ∉ more) (hclose : ']' ∉ more) (after : List Char) :
    content? (c :: more ++ ']' :: after) = some (c :: more) := by
  have hc : (c != ']' && c != '[') = true := by
    have hbrackets : startsTag '[' = false ∧ startsTag ']' = false := by decide
    simp only [Bool.and_eq_true, bne_iff_ne]
    constructor
    · rintro rfl
      rw [hbrackets.2] at hstarts
      exact absurd hstarts Bool.false_ne_true
    · rintro rfl
      rw [hbrackets.1] at hstarts
      exact absurd hstarts Bool.false_ne_true
  -- nothing before the bracket that closes stops it
  have hcontent : (c :: more ++ ']' :: after).takeWhile (fun d => d != ']' && d != '[') =
      c :: more := by
    rw [List.takeWhile_append_of_pos]
    · simp
    · intro d hd
      rcases List.mem_cons.1 hd with rfl | hd
      · exact hc
      · simp only [Bool.and_eq_true, bne_iff_ne]
        exact ⟨fun h => hclose (h ▸ hd), fun h => hopen (h ▸ hd)⟩
  unfold content?
  simp only [hcontent, List.drop_left, hstarts, if_true]

/-- The characters of the texts among pieces. -/
def textLength : List Piece → Nat
  | [] => 0
  | .text cs :: rest => cs.length + textLength rest
  | .tag _ _ :: rest => textLength rest

/-- The length of the text in two lists of pieces is added up. -/
theorem textLength_append (as bs : List Piece) :
    textLength (as ++ bs) = textLength as + textLength bs := by
  induction as with
  | nil => simp [textLength]
  | cons p as ih =>
    cases p <;> simp only [List.cons_append, textLength, ih]
    omega

theorem textLength_consText (c : Char) (pieces : List Piece) :
    textLength (consText c pieces) = textLength pieces + 1 := by
  cases pieces with
  | nil => rfl
  | cons p rest =>
    cases p <;> simp only [consText, textLength, List.length_cons, List.length_nil] <;> omega

/-- A tag takes more characters than are left of it as text. -/
theorem tagged?_eq_some {found : List Piece} {size : Nat}
    (h : tagged? position cs = some (found, size)) :
    (∃ before c more after, cs = before ++ '[' :: c :: more ++ ']' :: after ∧
      startsTag c = true ∧ '[' ∉ more ∧ ']' ∉ more) ∧
    textLength found < size ∧ size ≤ cs.length := by
  unfold tagged? at h
  simp only at h
  split at h
  · next rest hrest =>
    rw [Option.map_eq_some_iff] at h
    obtain ⟨content, hcontent, hpair⟩ := h
    obtain ⟨c, more, after, rfl, rfl, hstarts, hopen, hclose⟩ := content?_eq_some hcontent
    obtain ⟨hfound, hsize⟩ := Prod.mk.inj hpair
    have hsplit : cs.takeWhile (· == '\\') ++ cs.drop (cs.takeWhile (· == '\\')).length = cs :=
      List.prefix_iff_eq_append.1 (List.takeWhile_prefix _)
    rw [hrest] at hsplit
    generalize cs.takeWhile (· == '\\') = slashes at hsplit hfound hsize
    refine ⟨⟨slashes, c, more, after, ?_, hstarts, hopen, hclose⟩, ?_, ?_⟩
    · rw [← hsplit]
      simp
    · -- at most half of the backslashes are text, and without them the tag is not
      rw [← hfound, ← hsize, textLength_append]
      split <;> split <;> simp [textLength] <;> omega
    · rw [← hsize, ← hsplit]
      simp
      omega
  · exact absurd h (by simp)

/-- The pieces hold no more text than stands behind what is skipped. -/
theorem textLength_piecesFrom_le (skip position : Nat) (cs : List Char) :
    textLength (piecesFrom skip position cs) ≤ cs.length - skip := by
  induction cs generalizing skip position with
  | nil =>
    cases skip <;> exact Nat.zero_le _
  | cons c rest ih =>
    -- what is skipped was counted with the tag before
    cases skip with
    | succ skip =>
      have hrest := ih skip (position + 1)
      rw [piecesFrom, List.length_cons]
      omega
    | zero =>
      rw [piecesFrom]
      cases htagged : tagged? position (c :: rest) with
      | none =>
        have hrest := ih 0 (position + 1)
        simp only [textLength_consText, List.length_cons]
        omega
      | some result =>
        obtain ⟨found, size⟩ := result
        obtain ⟨-, hshorter, hsize⟩ := tagged?_eq_some htagged
        have hrest := ih (size - 1) (position + 1)
        simp only [textLength_append, List.length_cons] at hsize ⊢
        omega

/-- No tag stands in front of a text without tags. -/
theorem tagged?_of_isUntagged (h : IsUntagged cs) (position : Nat) :
    tagged? position cs = none := by
  cases htagged : tagged? position cs with
  | none => rfl
  | some result =>
    obtain ⟨⟨before, c, more, after, hcs, hstarts, hopen, hclose⟩, -, -⟩ := tagged?_eq_some htagged
    rcases h before c more after hcs hstarts with hmem | hmem
    · exact absurd hmem hopen
    · exact absurd hmem hclose

/-- The rest of a text without tags has none either. -/
theorem IsUntagged.of_cons {c : Char} (h : IsUntagged (c :: cs)) : IsUntagged cs := by
  intro before d more after hcs hstarts
  exact h (c :: before) d more after (by rw [hcs]; simp) hstarts

/-- A character in front adds no tag unless it opens one. -/
theorem isUntagged_cons {c : Char} (h : tagged? position (c :: cs) = none) (hcs : IsUntagged cs) :
    IsUntagged (c :: cs) := by
  intro before d more after hsplit hstarts
  cases before with
  | cons b before =>
    exact hcs before d more after (List.cons.inj hsplit).2 hstarts
  | nil =>
    by_contra hmem
    rw [not_or] at hmem
    have hcontent := content?_append hstarts hmem.1 hmem.2 after
    have hsplit' : c :: cs = '[' :: (d :: more ++ ']' :: after) := hsplit
    have hnone : ('[' :: (d :: more ++ ']' :: after)).takeWhile (· == '\\') = [] := by
      apply List.takeWhile_cons_of_neg
      decide
    unfold tagged? at h
    simp only [hsplit', hnone, List.length_nil, List.drop_zero, hcontent] at h
    exact absurd h (by simp)

/-- A text without tags is a single piece. -/
theorem piecesFrom_of_isUntagged (h : IsUntagged cs) (hne : cs ≠ []) (position : Nat) :
    piecesFrom 0 position cs = [.text cs] := by
  induction cs generalizing position with
  | nil => exact absurd rfl hne
  | cons c rest ih =>
    rw [piecesFrom, tagged?_of_isUntagged h]
    by_cases hrest : rest = []
    · rw [hrest]
      rfl
    · simp only [ih h.of_cons hrest]
      rfl

/-- Where all characters are left as text, there are no tags. -/
theorem isUntagged_of_length_le (h : cs.length ≤ textLength (piecesFrom 0 position cs)) :
    IsUntagged cs := by
  induction cs generalizing position with
  | nil =>
    intro before c more after hcs
    exact absurd hcs (by simp)
  | cons c rest ih =>
    rw [piecesFrom] at h
    cases htagged : tagged? position (c :: rest) with
    | none =>
      simp only [htagged, textLength_consText, List.length_cons] at h
      have hrest : rest.length ≤ textLength (piecesFrom 0 (position + 1) rest) := by omega
      exact isUntagged_cons htagged (ih hrest)
    | some result =>
      obtain ⟨found, size⟩ := result
      obtain ⟨-, hshorter, hsize⟩ := tagged?_eq_some htagged
      -- a tag takes more characters than it leaves, and the rest cannot make up for them
      have hrest := textLength_piecesFrom_le (size - 1) (position + 1) rest
      simp only [htagged, textLength_append, List.length_cons] at h hsize
      omega

/-! ## Backslashes -/

/-- What is unescaped is left of the text. -/
theorem unescape_sublist (cs : List Char) : (unescape cs).Sublist cs := by
  fun_induction unescape cs with
  | case1 => exact List.Sublist.refl _
  | case2 rest ih => exact (ih.cons_cons '[').cons '\\'
  | case3 c rest hnot ih => exact ih.cons_cons c

/-- A text stays as it is exactly if no backslash escapes a bracket. -/
theorem unescape_eq_self_iff : unescape cs = cs ↔ IsUnescaped cs := by
  fun_induction unescape cs with
  | case1 => exact iff_of_true rfl fun before after h => absurd h (by simp)
  | case2 rest ih =>
    refine iff_of_false (fun h => ?_) fun h => h [] rest rfl
    exact absurd (List.cons.inj h).1 (by decide)
  | case3 c rest hnot ih =>
    rw [List.cons.injEq, eq_self_iff_true, true_and, ih]
    constructor
    · intro h before after hcs
      cases before with
      | nil =>
        obtain ⟨hc, hrest⟩ := List.cons.inj hcs
        exact hnot after hc hrest
      | cons b before => exact h before after (List.cons.inj hcs).2
    · intro h before after hcs
      exact h (c :: before) after (by rw [hcs]; rfl)

/-- What is visible is left of the text. -/
theorem visible_sublist (cs : List Char) : (visible cs).Sublist cs :=
  List.filter_sublist.trans (unescape_sublist cs)

/-- Control characters take no cells. -/
theorem charCells_of_isControl {c : Char} (h : isControl c = true) : Text.charCells c = 0 := by
  have hall : (['\x07', '\x08', '\x0b', '\x0c', '\x0d'].all fun d =>
      Text.charCells d == 0) = true := by
    decide +kernel
  rw [List.all_eq_true] at hall
  have hzero := hall c (List.contains_iff_mem.1 h)
  exact beq_iff_eq.1 hzero

/-- In a text of single cells nothing is invisible but backslashes in front of brackets. -/
theorem visible_eq_self_iff (h : IsSingle cs) : visible cs = cs ↔ IsUnescaped cs := by
  have hcontrol : ∀ ds : List Char, ds ⊆ cs → ds.filter (fun c => !isControl c) = ds := by
    intro ds hsub
    rw [List.filter_eq_self]
    intro c hc
    have hone := h c (hsub hc)
    by_contra hnot
    have hzero := charCells_of_isControl (c := c) (by simpa using hnot)
    omega
  rw [visible, hcontrol _ (unescape_sublist cs).subset, unescape_eq_self_iff]

/-! ## What is read -/

/-- No more is shown than the texts among the pieces. -/
theorem length_le_of_readFrom {opened : List OpenTag} {pieces : List Piece}
    {result : List Char × List (Span (List Char))}
    (h : readFrom opened position pieces = .ok result) : result.1.length ≤ textLength pieces := by
  induction pieces generalizing opened position result with
  | nil =>
    cases h
    exact le_refl _
  | cons piece rest ih =>
    cases piece with
    | text cs =>
      obtain ⟨⟨chars, spans⟩, hrest, h⟩ := bind_eq_ok.1 h
      cases h
      have hlater : chars.length ≤ textLength rest := ih hrest
      have hshown := (visible_sublist cs).length_le
      simp only [textLength, List.length_append]
      omega
    | tag place t =>
      rw [textLength]
      unfold readFrom at h
      split at h
      · -- whichever tag is closed, the text behind is read with the others open
        have hclosed : ∀ (found : OpenTag) (others : List OpenTag),
            (found.check >>= fun _ => readFrom others position rest >>= fun later =>
              pure (later.1, found.span position :: later.2)) = Except.ok result →
                result.1.length ≤ textLength rest := by
          intro found others h
          obtain ⟨_, -, h⟩ := bind_eq_ok.1 h
          obtain ⟨⟨chars, spans⟩, hrest, h⟩ := bind_eq_ok.1 h
          cases h
          have hlater : chars.length ≤ textLength rest := ih hrest
          exact hlater
        simp only at h
        split at h
        · split at h
          · cases h
          · exact hclosed _ _ h
        · obtain ⟨name, -, h⟩ := bind_eq_ok.1 h
          split at h
          · exact hclosed _ _ h
          · cases h
      · obtain ⟨name, -, hrest⟩ := bind_eq_ok.1 h
        exact ih hrest

/-- A plain text of single cells is read as it is written, without styles. -/
theorem read_of_isPlain (hsingle : IsSingle cs) (h : IsPlain cs) : read cs = .ok ⟨cs, []⟩ := by
  by_cases hne : cs = []
  · rw [hne]
    rfl
  have hvisible := (visible_eq_self_iff hsingle).2 h.unescaped
  rw [read, piecesFrom_of_isUntagged h.untagged hne]
  show Except.ok _ = _
  simp [hvisible]
  rfl

/-- A text is shown as it is written exactly if nothing in it is a tag or escaped. -/
theorem read_chars_eq_self_iff (hsingle : IsSingle cs) :
    (∃ t, read cs = .ok t ∧ t.chars = cs) ↔ IsPlain cs := by
  constructor
  · rintro ⟨t, hread, hchars⟩
    obtain ⟨⟨chars, spans⟩, hpieces, h⟩ := bind_eq_ok.1 hread
    cases h
    -- as many characters are shown as were read, so all of them were text
    have hlength := length_le_of_readFrom hpieces
    simp only at hchars hlength
    rw [hchars] at hlength
    have huntagged := isUntagged_of_length_le hlength
    refine ⟨huntagged, ?_⟩
    rw [← visible_eq_self_iff hsingle]
    by_cases hne : cs = []
    · rw [hne]
      rfl
    · rw [piecesFrom_of_isUntagged huntagged hne] at hpieces
      obtain ⟨⟨more, ends⟩, hends, h⟩ := bind_eq_ok.1 hpieces
      cases hends
      cases h
      simpa using hchars
  · intro h
    exact ⟨_, read_of_isPlain hsingle h, rfl⟩

end DesignMetrics.Report.Markup
