import DesignMetrics.Ignore.Rule
import DesignMetrics.Proofs.Except
import DesignMetrics.Proofs.Text.Split

/-!
# What patterns fit

Letters without a meaning of their own stand for themselves, and every step that stands for a
character uses one up. So a pattern fits only what begins like it and is long enough.
-/

namespace DesignMetrics.Ignore

/-- A text without the characters that mean something in a pattern. -/
def IsPlain (cs : List Char) : Prop :=
  ∀ c ∈ cs, c ≠ '*' ∧ c ≠ '?' ∧ c ≠ '[' ∧ c ≠ '\\'

instance : DecidablePred IsPlain := fun cs => List.decidableBAll _ cs

/-- A segment that fits no empty name. -/
def IsSolid (segment : List Char) : Prop :=
  segment = ['*'] ∨ ∃ c ∈ segment, c ≠ '*'

instance : DecidablePred IsSolid := fun segment =>
  @instDecidableOr _ _ inferInstance (List.decidableBEx _ segment)

variable {cs segment : List Char} {segments : List (List Char)} {directory slash : Bool}
  {steps : List Step} {ending : Ending}

/-! ## Letters that stand for themselves -/

theorem IsPlain.of_cons {c : Char} (h : IsPlain (c :: cs)) : IsPlain cs :=
  fun d hd => h d (List.mem_cons_of_mem c hd)

/-- A plain text is read letter by letter. -/
theorem IsPlain.glob_eq (h : IsPlain cs) : glob cs = .ok (cs.map .literal) := by
  unfold glob
  induction cs with
  | nil => rfl
  | cons c cs ih =>
    obtain ⟨hmany, hone, hbracket, hescape⟩ := h c List.mem_cons_self
    rw [globFrom, ih h.of_cons]
    · simp only [if_neg hmany, if_neg hone]
      rfl
    · exact hescape
    · exact hbracket

/-- A plain segment is not `**`. -/
theorem IsPlain.ne_deep (h : IsPlain segment) : segment ≠ deep := by
  rintro rfl
  exact (h '*' List.mem_cons_self).1 rfl

/-- The steps of a plain segment are its letters. -/
theorem IsPlain.segmentSteps_eq (h : IsPlain segment) :
    segmentSteps segment = .ok (segment.map fun c => .item (.literal c)) := by
  have hstar : segment ≠ ['*'] := by
    rintro rfl
    exact (h '*' List.mem_cons_self).1 rfl
  rw [segmentSteps, if_neg hstar, h.glob_eq]
  show Except.ok ((segment.map GlobItem.literal).map Step.item) = _
  rw [List.map_map]
  rfl

/-! ## Fitting -/

/-- A letter fits nothing but itself. -/
theorem fitSteps_literal {c : Char}
    (h : (fitSteps ending (.item (.literal c) :: steps) cs).isSome) :
    ∃ rest, cs = c :: rest ∧ (fitSteps ending steps rest).isSome := by
  cases cs with
  | nil => cases h
  | cons d rest =>
    have hrests : Step.rests (.item (.literal c)) (d :: rest) = if d == c then [rest] else [] := rfl
    rw [fitSteps, hrests] at h
    by_cases hd : d = c
    · rw [if_pos (beq_iff_eq.2 hd), List.findSome?_singleton] at h
      exact ⟨rest, by rw [hd], h⟩
    · rw [if_neg (by simpa using hd)] at h
      cases h

/-- A slash fits nothing but a slash. -/
theorem fitSteps_slash (h : (fitSteps ending (.slash :: steps) cs).isSome) :
    ∃ rest, cs = '/' :: rest ∧ (fitSteps ending steps rest).isSome := by
  cases cs with
  | nil => cases h
  | cons c rest =>
    have hrests : Step.rests .slash (c :: rest) = if c = '/' then [rest] else [] := rfl
    rw [fitSteps, hrests] at h
    by_cases hc : c = '/'
    · rw [if_pos hc, List.findSome?_singleton] at h
      exact ⟨rest, by rw [hc], h⟩
    · rw [if_neg hc] at h
      cases h

/-- Directories of any depth between two names begin with a slash, or there are none. -/
theorem fitSteps_innerDirectories (h : (fitSteps ending (.innerDirectories :: steps) cs).isSome) :
    cs.head? = some '/' ∨ (fitSteps ending steps cs).isSome := by
  by_cases hslash : cs.head? = some '/'
  · exact .inl hslash
  · have hrests : Step.rests .innerDirectories cs = [cs] := by
      rw [Step.rests]
      rintro c rest rfl
      exact hslash rfl
    rw [fitSteps, hrests, List.findSome?_singleton] at h
    exact .inr h

/-- What only stands for a directory is followed by a slash. -/
theorem Ending.head?_of_fits? (hne : ending ≠ .entry) (h : (ending.fits? cs).isSome) :
    cs.head? = some '/' := by
  rw [Ending.fits?.eq_def] at h
  split at h <;> simp_all

/-- A text that stands for itself comes first in what it fits. -/
theorem fitSteps_literals (h : (fitSteps ending
    (segment.map (fun c => .item (.literal c)) ++ steps) cs).isSome) :
    ∃ rest, cs = segment ++ rest ∧ (fitSteps ending steps rest).isSome := by
  induction segment generalizing cs with
  | nil => exact ⟨cs, rfl, h⟩
  | cons c segment ih =>
    obtain ⟨after, rfl, hafter⟩ := fitSteps_literal h
    obtain ⟨rest, rfl, hrest⟩ := ih hafter
    exact ⟨rest, rfl, hrest⟩

/-! ## Segments -/

/-- The steps of a segment come in front of those of the segments behind it. -/
theorem assemble_cons (hne : segment ≠ deep)
    (h : assemble directory slash (segment :: segments) = .ok (steps, ending)) :
    ∃ own steps', segmentSteps segment = .ok own ∧
      assemble directory true segments = .ok (steps', ending) ∧
      steps = (if slash then [.slash] else []) ++ own ++ steps' := by
  rw [assemble, if_neg hne] at h
  obtain ⟨own, hown, h⟩ := bind_eq_ok.1 h
  obtain ⟨rest, hrest, h⟩ := bind_eq_ok.1 h
  cases h
  exact ⟨own, rest.1, hown, hrest, rfl⟩

/-- What is left for segments after others begins with a slash. -/
theorem head?_of_fits_assemble (hne : segments ≠ [])
    (h : assemble directory true segments = .ok (steps, ending))
    (hfits : (fitSteps ending steps cs).isSome) : cs.head? = some '/' := by
  induction segments generalizing steps with
  | nil => exact absurd rfl hne
  | cons segment rest ih =>
    by_cases hdeep : segment = deep
    · rw [assemble, if_pos hdeep] at h
      cases rest with
      | nil =>
        -- a deep segment at the end means what is below
        have hending : steps = [] ∧ ending ≠ .entry := by
          cases directory <;> cases h <;> exact ⟨rfl, by decide⟩
        obtain ⟨rfl, hentry⟩ := hending
        exact Ending.head?_of_fits? hentry hfits
      | cons next rest =>
        obtain ⟨result, hresult, h⟩ := bind_eq_ok.1 h
        cases h
        obtain hslash | hfits := fitSteps_innerDirectories hfits
        · exact hslash
        · exact ih (List.cons_ne_nil _ _) hresult hfits
    · obtain ⟨own, steps', -, -, rfl⟩ := assemble_cons hdeep h
      obtain ⟨_, rfl, -⟩ := fitSteps_slash hfits
      rfl

/-- Plain segments with others after them fit what begins with the plain ones. -/
theorem exists_fits_of_plain {plain : List (List Char)}
    (hplain : ∀ segment ∈ plain, IsPlain segment)
    (h : assemble directory true (plain ++ segments) = .ok (steps, ending))
    (hfits : (fitSteps ending steps cs).isSome) :
    ∃ steps' rest, cs = plain.flatMap ('/' :: ·) ++ rest ∧
      assemble directory true segments = .ok (steps', ending) ∧
      (fitSteps ending steps' rest).isSome := by
  induction plain generalizing steps cs with
  | nil => exact ⟨steps, cs, rfl, h, hfits⟩
  | cons segment plain ih =>
    obtain ⟨hsegment, hrest⟩ := List.forall_mem_cons.1 hplain
    obtain ⟨own, steps', hown, hsteps', rfl⟩ := assemble_cons hsegment.ne_deep h
    obtain rfl := Except.ok.inj (hsegment.segmentSteps_eq.symm.trans hown)
    obtain ⟨after, rfl, hafter⟩ := fitSteps_slash hfits
    obtain ⟨after, rfl, hafter'⟩ := fitSteps_literals hafter
    obtain ⟨steps'', rest, rfl, hsteps'', hrest⟩ := ih hrest hsteps' hafter'
    exact ⟨steps'', rest, by simp, hsteps'', hrest⟩

/-! ## Steps that use up characters -/

/-- Whether a step stands for at least one character. -/
def Step.consumes : Step → Bool
  | .item .many | .leadingDirectories | .innerDirectories => false
  | _ => true

theorem isSuffix_of_mem_singleton {rest : List Char} (h : rest ∈ [cs]) : rest <:+ cs :=
  List.mem_singleton.1 h ▸ List.suffix_rfl

/-- Passing over characters leaves an end of the text. -/
theorem isSuffix_of_mem_passOver {p : Char → Bool} {rest : List Char} (h : rest ∈ passOver p cs) :
    rest <:+ cs := by
  induction cs with
  | nil => exact isSuffix_of_mem_singleton h
  | cons c cs ih =>
    rw [passOver] at h
    split at h
    · obtain h | h := List.mem_append.1 h
      · exact (ih h).trans (List.suffix_cons c cs)
      · exact isSuffix_of_mem_singleton h
    · exact isSuffix_of_mem_singleton h

/-- A step that consumes something leaves less than the whole text. -/
theorem exists_isSuffix_of_consumes {step : Step} {rest : List Char}
    (hstep : step.consumes = true) (h : rest ∈ step.rests cs) :
    ∃ c after, cs = c :: after ∧ rest <:+ after := by
  -- a step for a single character leaves all that stands behind it
  have hone : ∀ (b : Bool) (after : List Char), rest ∈ (if b then [after] else []) →
      rest <:+ after := by
    intro b after hb
    split at hb
    · exact isSuffix_of_mem_singleton hb
    · cases hb
  cases step with
  | item i =>
    cases i with
    | many => cases hstep
    | _ =>
      cases cs with
      | nil => cases h
      | cons c after => exact ⟨c, after, rfl, hone _ after h⟩
  | anyName =>
    cases cs with
    | nil => cases h
    | cons c after =>
      rw [Step.rests] at h
      split at h
      · exact ⟨c, after, rfl, isSuffix_of_mem_passOver h⟩
      · cases h
  | slash =>
    cases cs with
    | nil => cases h
    | cons c after => exact ⟨c, after, rfl, hone (c = '/') after (by simpa [Step.rests] using h)⟩
  | leadingDirectories => cases hstep
  | innerDirectories => cases hstep

/-- A step leaves over what stands at the end. -/
theorem isSuffix_of_mem_rests {step : Step} {rest : List Char} (h : rest ∈ step.rests cs) :
    rest <:+ cs := by
  by_cases hstep : step.consumes = true
  · obtain ⟨c, after, rfl, hafter⟩ := exists_isSuffix_of_consumes hstep h
    exact hafter.trans (List.suffix_cons c after)
  cases step with
  | item i =>
    cases i with
    | many => exact isSuffix_of_mem_passOver h
    | _ => exact absurd rfl hstep
  | leadingDirectories =>
    cases cs with
    | nil => exact isSuffix_of_mem_singleton h
    | cons c cs =>
      -- directories are passed over up to a slash, or none is
      obtain h | h := List.mem_append.1 h
      · obtain ⟨deeper, hdeeper, hrest⟩ := List.mem_filterMap.1 h
        split at hdeeper
        · split at hrest
          · cases hrest
            exact (List.suffix_cons '/' _).trans
              ((isSuffix_of_mem_passOver hdeeper).trans (List.suffix_cons c cs))
          · cases hrest
        · cases hdeeper
      · exact isSuffix_of_mem_singleton h
  | innerDirectories =>
    rw [Step.rests.eq_def] at h
    simp only at h
    split at h
    · next c cs =>
      obtain h | h := List.mem_append.1 h
      · split at h
        · exact (isSuffix_of_mem_passOver h).trans
            ((List.suffix_cons c cs).trans (List.suffix_cons '/' (c :: cs)))
        · cases h
      · exact isSuffix_of_mem_singleton h
    · exact isSuffix_of_mem_singleton h
  | _ => exact absurd rfl hstep

/-- What is fitted is as long at least as there are steps that use up characters. -/
theorem countP_consumes_le (h : (fitSteps ending steps cs).isSome) :
    steps.countP Step.consumes ≤ cs.length := by
  induction steps generalizing cs with
  | nil => exact Nat.zero_le _
  | cons step steps ih =>
    rw [fitSteps, List.findSome?_isSome_iff] at h
    obtain ⟨rest, hrest, hfits⟩ := h
    by_cases hstep : step.consumes = true
    · rw [List.countP_cons_of_pos hstep]
      obtain ⟨c, after, rfl, hafter⟩ := exists_isSuffix_of_consumes hstep hrest
      exact Nat.succ_le_succ (Nat.le_trans (ih hfits) hafter.length_le)
    · rw [List.countP_cons_of_neg hstep]
      exact Nat.le_trans (ih hfits) (isSuffix_of_mem_rests hrest).length_le

/-! ## Segments that use up characters -/

/-- A solid segment is not `**`. -/
theorem IsSolid.ne_deep (h : IsSolid segment) : segment ≠ deep := by
  rintro rfl
  revert h
  decide +kernel

theorem IsSolid.ne_nil (h : IsSolid segment) : segment ≠ [] := by
  rintro rfl
  revert h
  decide +kernel

/-- Brackets do not stand for many characters. -/
theorem ne_many_of_bracket? {item : GlobItem} {size : Nat} (h : bracket? cs = some (item, size)) :
    item ≠ .many := by
  unfold bracket? at h
  simp only at h
  split at h
  · cases h
  · split at h
    · cases h
      simp
    · cases h

/-- A pattern that does not begin with a star begins with something that uses up a character. -/
theorem exists_of_globFrom_cons {c : Char} {items : List GlobItem} (hc : c ≠ '*')
    (h : globFrom 0 (c :: cs) = .ok items) :
    ∃ item rest, items = item :: rest ∧ item ≠ .many := by
  rw [globFrom.eq_def] at h
  simp only at h
  split at h
  · next hnil => cases hnil
  · next hskip _ => cases hskip
  · -- an escaped character
    split at h
    · cases h
    · next escaped _ _ =>
      obtain ⟨rest, -, h⟩ := bind_eq_ok.1 h
      exact ⟨.literal escaped, rest, (Except.ok.inj h).symm, by simp⟩
  · -- brackets
    split at h
    · cases h
    · next item size hbracket =>
      obtain ⟨rest, -, h⟩ := bind_eq_ok.1 h
      exact ⟨item, rest, (Except.ok.inj h).symm, ne_many_of_bracket? hbracket⟩
  · next heq =>
    -- a question mark, or a character that stands for itself
    obtain ⟨rfl, rfl⟩ := List.cons.inj heq
    obtain ⟨rest, -, h⟩ := bind_eq_ok.1 h
    refine ⟨_, rest, (Except.ok.inj h).symm, ?_⟩
    rw [if_neg hc]
    split <;> simp

/-- A segment that is more than stars has an item that takes exactly one character. -/
theorem exists_ne_many {items : List GlobItem} (hsegment : ∃ c ∈ segment, c ≠ '*')
    (h : glob segment = .ok items) : ∃ item ∈ items, item ≠ .many := by
  unfold glob at h
  induction segment generalizing items with
  | nil => simp at hsegment
  | cons c segment ih =>
    by_cases hc : c = '*'
    · -- a star may stand for nothing, so that another character has to be found behind it
      subst hc
      obtain ⟨rest, hrest, h⟩ := bind_eq_ok.1 (show (globFrom 0 segment >>= _) = .ok items from h)
      obtain rfl := Except.ok.inj h
      obtain ⟨item, hmem, hne⟩ := ih (by simpa using hsegment) hrest
      exact ⟨item, List.mem_cons_of_mem _ hmem, hne⟩
    · obtain ⟨item, rest, rfl, hne⟩ := exists_of_globFrom_cons hc h
      exact ⟨item, List.mem_cons_self, hne⟩

/-- A solid segment has a step that consumes something. -/
theorem IsSolid.one_le_countP {own : List Step} (h : IsSolid segment)
    (hown : segmentSteps segment = .ok own) : 1 ≤ own.countP Step.consumes := by
  rw [segmentSteps] at hown
  split at hown
  · cases hown
    decide
  · next hne =>
    obtain ⟨items, hitems, hown⟩ := bind_eq_ok.1 hown
    obtain rfl := Except.ok.inj hown
    obtain ⟨item, hmem, hitem⟩ := exists_ne_many (h.resolve_left hne) hitems
    refine List.countP_pos_iff.2 ⟨.item item, List.mem_map_of_mem hmem, ?_⟩
    cases item with
    | many => exact absurd rfl hitem
    | _ => rfl

/-- Behind a directory, a segment that fits no empty name asks for two characters at least. -/
theorem two_le_countP_assemble (h : assemble directory true segments = .ok (steps, ending))
    (hmem : segment ∈ segments) (hsolid : IsSolid segment) :
    2 ≤ steps.countP Step.consumes := by
  induction segments generalizing steps with
  | nil => cases hmem
  | cons first rest ih =>
    by_cases hdeep : first = deep
    · have hmem : segment ∈ rest := by
        obtain rfl | hmem := List.mem_cons.1 hmem
        · exact absurd hdeep hsolid.ne_deep
        · exact hmem
      rw [assemble, if_pos hdeep, if_neg (by simpa using List.ne_nil_of_mem hmem)] at h
      obtain ⟨result, hresult, h⟩ := bind_eq_ok.1 h
      cases h
      rw [List.countP_cons_of_neg (by decide)]
      exact ih hresult hmem
    · obtain ⟨own, steps', hown, hsteps', rfl⟩ := assemble_cons hdeep h
      -- the slash in front of a segment uses up one character, the segment another one
      rw [if_pos rfl, List.countP_append, List.countP_append,
        List.countP_cons_of_pos (by decide), List.countP_nil]
      obtain rfl | hmem := List.mem_cons.1 hmem
      · have := hsolid.one_le_countP hown
        omega
      · have := ih hsteps' hmem
        omega

end DesignMetrics.Ignore
