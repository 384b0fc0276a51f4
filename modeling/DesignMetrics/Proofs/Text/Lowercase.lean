import DesignMetrics.Proofs.Source.Token
import DesignMetrics.Text.Lowercase
import Mathlib.Data.List.Forall2

/-!
# Small letters

Lower case puts small letters in the place of capitals, letter by letter. Small letters have none
themselves, so lower case is reached in one pass, and no white space, dot or comma comes in by it.
-/

namespace DesignMetrics.Text

/-! ## The table of letters -/

namespace CaseRange

variable {r other : CaseRange} {n : Nat}

/-- All small letters of a range come before a code point. -/
def isBelow (r : CaseRange) (first : Nat) : Bool :=
  Nat.blt (r.last + r.shift.toNat) (first + (-r.shift).toNat)

/-- All small letters of a range come after a code point. -/
def isBeyond (r : CaseRange) (last : Nat) : Bool :=
  Nat.blt (last + (-r.shift).toNat) (r.first + r.shift.toNat)

/-- The small letters of a range are no capitals of another one: they lie outside of it, or
between its capitals. -/
def misses (r other : CaseRange) : Bool :=
  r.isBelow other.first || r.isBeyond other.last ||
    ((r.step == 2 || r.first == r.last) && other.step == 2 &&
      (r.first + r.shift.natAbs + other.first) % 2 == 1)

/-- The small letters of a range are characters beyond ASCII, and none of them has a small letter
itself or is white space. -/
def isSettled (r : CaseRange) : Bool :=
  caseRanges.all r.misses &&
    blankRanges.all (fun range => r.isBelow range.1 || r.isBeyond range.2) &&
    (r.isBelow 0x130 || r.isBeyond 0x130) && (r.isBelow 0xD800 || r.isBeyond 0xDFFF) &&
    r.isBeyond 127 && r.isBelow 0x110000

/-- The sign of the unit kelvin has the small letter `k`. -/
def kelvin : CaseRange := ⟨0x212A, 0x212A, 1, -8383⟩

/-- All ranges are settled but the capitals of ASCII and the sign of the kelvin. -/
theorem isSettled_or : ∀ r ∈ caseRanges, r.isSettled = true ∨ r.last = 90 ∨
    (r.first = kelvin.first ∧ r.last = kelvin.last ∧ r.shift = kelvin.shift) := by
  decide +kernel

theorem contains_iff :
    r.contains n = true ↔ (r.first ≤ n ∧ n ≤ r.last) ∧ (n - r.first) % r.step = 0 := by
  simp only [contains, Bool.and_eq_true, decide_eq_true_eq, beq_iff_eq]

section

variable {m : Nat} (hn : r.contains n = true) (hm : (m : Int) = n + r.shift)
include hn hm

theorem lt_of_isBelow {first : Nat} (h : r.isBelow first = true) : m < first := by
  have hbounds := (contains_iff.1 hn).1
  simp only [isBelow, Nat.blt_eq] at h
  omega

theorem lt_of_isBeyond {last : Nat} (h : r.isBeyond last = true) : last < m := by
  have hbounds := (contains_iff.1 hn).1
  simp only [isBeyond, Nat.blt_eq] at h
  omega

/-- The small letter of a capital is outside of an interval that the range leaves out. -/
theorem lt_or_lt_of_avoids {first last : Nat}
    (h : (r.isBelow first || r.isBeyond last) = true) : m < first ∨ last < m := by
  rw [Bool.or_eq_true] at h
  exact h.imp (lt_of_isBelow hn hm) (lt_of_isBeyond hn hm)

/-- A small letter that a range misses is no capital of it. -/
theorem contains_eq_false_of_misses (hmisses : r.misses other = true) :
    other.contains m = false := by
  rw [← Bool.not_eq_true, contains_iff]
  intro hcontains
  unfold misses at hmisses
  rw [Bool.or_eq_true] at hmisses
  rcases hmisses with havoids | hparity
  · have hside := lt_or_lt_of_avoids hn hm havoids
    omega
  · -- the capitals of the other range have the other parity
    simp only [Bool.and_eq_true, Bool.or_eq_true, beq_iff_eq] at hparity
    obtain ⟨⟨hstep, hother⟩, hodd⟩ := hparity
    have hcapital := contains_iff.1 hn
    rw [hother] at hcontains
    have heven : (n - r.first) % 2 = 0 := by
      rcases hstep with htwo | hsingle
      · rw [← htwo]
        exact hcapital.2
      · have hzero : n - r.first = 0 := by omega
        rw [hzero]
    omega

end

/-- What is known of the small letter of a capital. -/
structure Settled (m : Nat) : Prop where
  valid : m.isValidChar
  beyond : 127 < m
  undotted : m ≠ 0x130
  unlisted : ∀ r ∈ caseRanges, r.contains m = false
  unblank : blankRanges.contains m = false

/-- Small letters of a settled range are settled. -/
theorem IsSettled.settled {m : Nat} (h : r.isSettled = true) (hn : r.contains n = true)
    (hm : (m : Int) = n + r.shift) : Settled m := by
  simp only [isSettled, Bool.and_eq_true, List.all_eq_true] at h
  obtain ⟨⟨⟨⟨⟨hmisses, hblank⟩, hdotted⟩, hsurrogate⟩, hbeyond⟩, hbelow⟩ := h
  have hside := lt_or_lt_of_avoids hn hm hsurrogate
  have hlast := lt_of_isBelow hn hm hbelow
  refine ⟨?_, lt_of_isBeyond hn hm hbeyond, ?_, ?_, ?_⟩
  · exact hside.imp id fun hgap => ⟨hgap, hlast⟩
  · have hdot := lt_or_lt_of_avoids hn hm hdotted
    omega
  · exact fun other hother => contains_eq_false_of_misses hn hm (hmisses other hother)
  · rw [← Bool.not_eq_true]
    intro hcontains
    obtain ⟨range, hrange, hle⟩ := Ranges.exists_of_contains hcontains
    have hout := lt_or_lt_of_avoids hn hm (hblank range hrange)
    omega

end CaseRange

/-! ## One letter -/

/-- White space, a dot or a comma. -/
def isPause (c : Char) : Bool :=
  isBlank c || c == '.' || c == ','

/-- A character that lower case does not change, nor what is around it. -/
def IsSmall (c : Char) : Prop :=
  smallLetter c = [c] ∧ c ≠ 'Σ'

instance (c : Char) : Decidable (IsSmall c) :=
  inferInstanceAs (Decidable (_ ∧ _))

/-- Either a character stays as it is, or small letters come in its place, none of which is a
pause. -/
def Shrinks (c : Char) : Prop :=
  smallLetter c = [c] ∨
    smallLetter c ≠ [] ∧ ∀ d ∈ smallLetter c, IsSmall d ∧ isPause d = false

instance (c : Char) : Decidable (Shrinks c) :=
  -- only the letters at hand are looked at, not all characters
  have (cs : List Char) : Decidable (∀ d ∈ cs, IsSmall d ∧ isPause d = false) :=
    List.decidableBAll _ cs
  inferInstanceAs (Decidable (_ ∨ _))

theorem toNat_ofNat_of_isValidChar {n : Nat} (h : n.isValidChar) : (Char.ofNat n).toNat = n := by
  rw [Char.ofNat, dif_pos h]
  rfl

/-- The small letters of ASCII are found among its characters. -/
theorem shrinks_ascii {c : Char} (hc : c.toNat < 128) : Shrinks c := by
  have hall : ∀ n < 128, Shrinks (Char.ofNat n) := by decide +kernel
  have hofNat : Char.ofNat c.toNat = c := Char.ofNat_toNat c
  rw [← hofNat]
  exact hall c.toNat hc

/-- A capital beyond ASCII has the small letter that its range gives. -/
theorem smallLetter_of_find? {c : Char} {r : CaseRange} (hascii : 128 ≤ c.toNat)
    (hdotted : c ≠ '\u0130') (hr : caseRanges.find? (·.contains c.toNat) = some r) :
    smallLetter c = [Char.ofNat (c.toNat + r.shift).toNat] := by
  unfold smallLetter
  rw [if_neg (by omega), if_neg (by simpa using hdotted), hr]

/-- A character in no range is its own small letter. -/
theorem smallLetter_of_find?_eq_none {c : Char} (hascii : 128 ≤ c.toNat) (hdotted : c ≠ '\u0130')
    (hr : caseRanges.find? (·.contains c.toNat) = none) : smallLetter c = [c] := by
  unfold smallLetter
  rw [if_neg (by omega), if_neg (by simpa using hdotted), hr]

/-- A settled character is small, and no pause. -/
theorem CaseRange.Settled.isSmall {d : Char} (h : Settled d.toNat) :
    IsSmall d ∧ isPause d = false := by
  have hbeyond := h.beyond
  have hdotted : d ≠ '\u0130' := by
    rintro rfl
    exact h.undotted rfl
  have hnone : caseRanges.find? (·.contains d.toNat) = none := by
    rw [List.find?_eq_none]
    intro r hr
    rw [h.unlisted r hr]
    simp
  refine ⟨⟨smallLetter_of_find?_eq_none (by omega) hdotted hnone, ?_⟩, ?_⟩
  · rintro rfl
    -- capital sigma is listed
    have hsigma : (caseRanges.all fun r => !r.contains 'Σ'.toNat) = true := by
      rw [List.all_eq_true]
      intro r hr
      rw [h.unlisted r hr]
      rfl
    exact absurd hsigma (by decide +kernel)
  · have hdot : d ≠ '.' := by
      rintro rfl
      exact absurd hbeyond (by decide)
    have hcomma : d ≠ ',' := by
      rintro rfl
      exact absurd hbeyond (by decide)
    unfold isPause isBlank
    rw [h.unblank]
    simp [hdot, hcomma]

/-- Small letters are there already, or come in the place of capitals. -/
theorem shrinks (c : Char) : Shrinks c := by
  by_cases hascii : c.toNat < 128
  · exact shrinks_ascii hascii
  by_cases hdotted : c = '\u0130'
  · rw [hdotted]
    decide +kernel
  have hbeyond : 128 ≤ c.toNat := by omega
  cases hfind : caseRanges.find? (·.contains c.toNat) with
  | none => exact .inl (smallLetter_of_find?_eq_none hbeyond hdotted hfind)
  | some r =>
    have hmem : r ∈ caseRanges := List.mem_of_find?_eq_some hfind
    have hcontains : r.contains c.toNat = true :=
      List.find?_some (p := fun r : CaseRange => r.contains c.toNat) hfind
    have hbounds := (CaseRange.contains_iff.1 hcontains).1
    have hsmall := smallLetter_of_find? hbeyond hdotted hfind
    -- a range is settled, or lies within ASCII, or holds the Kelvin sign alone
    rcases CaseRange.isSettled_or r hmem with hsettled | hlast | ⟨hfirst, hlast, hshift⟩
    · right
      rw [hsmall]
      refine ⟨List.cons_ne_nil _ _, fun d hd => ?_⟩
      have hm : ((c.toNat + r.shift).toNat : Int) = c.toNat + r.shift := by
        have hpositive : r.isBeyond 127 = true := by
          simp only [CaseRange.isSettled, Bool.and_eq_true] at hsettled
          exact hsettled.1.2
        simp only [CaseRange.isBeyond, Nat.blt_eq] at hpositive
        omega
      have hletter := CaseRange.IsSettled.settled hsettled hcontains hm
      rw [List.mem_singleton.1 hd]
      apply CaseRange.Settled.isSmall
      rwa [toNat_ofNat_of_isValidChar hletter.valid]
    · omega
    · -- the only small letter of ASCII that is reached from outside
      have hc : c.toNat = 0x212A := by
        rw [hfirst, hlast] at hbounds
        exact Nat.le_antisymm hbounds.2 hbounds.1
      have hkelvin : c = '\u212a' := Char.toNat_inj.1 hc
      rw [hkelvin]
      decide +kernel

/-- White space lies between the ranges of capitals. -/
theorem blankRanges_avoid_caseRanges : ∀ r ∈ caseRanges, ∀ range ∈ blankRanges,
    r.last < range.1 ∨ range.2 < r.first := by
  decide +kernel

/-- Pauses are no capitals. -/
theorem smallLetter_of_isPause {c : Char} (hc : isPause c = true) : smallLetter c = [c] := by
  by_cases hascii : c.toNat < 128
  · have hall : ∀ n < 128, isPause (Char.ofNat n) = true →
        smallLetter (Char.ofNat n) = [Char.ofNat n] := by decide +kernel
    have hsame := hall c.toNat hascii
    rw [Char.ofNat_toNat] at hsame
    exact hsame hc
  · have hdotted : c ≠ '\u0130' := by
      rintro rfl
      exact absurd hc (by decide)
    -- beyond ASCII, only white space is a pause
    have hblank : isBlank c = true := by
      simp only [isPause, Bool.or_eq_true, beq_iff_eq] at hc
      rcases hc with (hblank | rfl) | rfl
      · exact hblank
      · exact absurd (show '.'.toNat < 128 by decide) hascii
      · exact absurd (show ','.toNat < 128 by decide) hascii
    obtain ⟨range, hrange, hle⟩ := Ranges.exists_of_contains hblank
    apply smallLetter_of_find?_eq_none (by omega) hdotted
    rw [List.find?_eq_none]
    intro r hr hcontains
    have hbounds := (CaseRange.contains_iff.1 hcontains).1
    have havoids := blankRanges_avoid_caseRanges r hr range hrange
    omega

/-! ## Whole texts -/

/-- What lower case puts in the place of one character. -/
structure Replaces (c : Char) (smalls : List Char) : Prop where
  ne_nil : smalls ≠ []
  isSmall : ∀ d ∈ smalls, IsSmall d
  eq_of_isPause : ∀ d ∈ smalls, isPause d = true → d = c
  eq_singleton : isPause c = true → smalls = [c]

namespace Replaces

variable {c : Char} {cs smalls : List Char} {pieces : List (List Char)} {p : Char → Bool}

/-- A letter is replaced by its small ones, whatever stands around it. -/
theorem smallLetter (hc : c ≠ 'Σ') : Replaces c (smallLetter c) := by
  rcases shrinks c with hsame | ⟨hne, hsmall⟩
  · rw [hsame]
    refine ⟨List.cons_ne_nil _ _, ?_, ?_, fun _ => rfl⟩
    · intro d hd
      rw [List.mem_singleton.1 hd]
      exact ⟨hsame, hc⟩
    · exact fun d hd _ => List.mem_singleton.1 hd
  · refine ⟨hne, fun d hd => (hsmall d hd).1, ?_, smallLetter_of_isPause⟩
    intro d hd hpause
    rw [(hsmall d hd).2] at hpause
    exact absurd hpause Bool.false_ne_true

/-- Both small forms of sigma are small letters, so it does not matter where a word ends. -/
theorem sigma (ends : Bool) : Replaces 'Σ' [if ends then 'ς' else 'σ'] := by
  have hforms : ∀ d : Char, d = 'ς' ∨ d = 'σ' → IsSmall d ∧ isPause d = false := by
    rintro d (rfl | rfl) <;> decide +kernel
  have hform := hforms (if ends then 'ς' else 'σ') (by cases ends <;> simp)
  refine ⟨List.cons_ne_nil _ _, ?_, ?_, fun hpause => absurd hpause (by decide)⟩
  · intro d hd
    rw [List.mem_singleton.1 hd]
    exact hform.1
  · intro d hd hpause
    rw [List.mem_singleton.1 hd, hform.2] at hpause
    exact absurd hpause Bool.false_ne_true

/-- What begins with a pause begins with it still, and nothing else begins with one. -/
theorem any_head? (h : Replaces c smalls) (hp : ∀ d, p d = true → isPause d = true) :
    smalls.head?.any p = p c := by
  cases hsmalls : smalls with
  | nil => exact absurd hsmalls h.ne_nil
  | cons d rest =>
    show p d = p c
    rw [Bool.eq_iff_iff]
    constructor
    · intro hd
      rwa [← h.eq_of_isPause d (by simp [hsmalls]) (hp d hd)]
    · intro hc
      have hsingle := h.eq_singleton (hp c hc)
      rw [hsmalls] at hsingle
      rwa [(List.cons.inj hsingle).1]

/-- The same holds at the end. -/
theorem any_getLast? (h : Replaces c smalls) (hp : ∀ d, p d = true → isPause d = true) :
    smalls.getLast?.any p = p c := by
  rw [List.getLast?_eq_some_getLast h.ne_nil]
  show p (smalls.getLast h.ne_nil) = p c
  rw [Bool.eq_iff_iff]
  constructor
  · intro hd
    rwa [← h.eq_of_isPause _ (List.getLast_mem h.ne_nil) (hp _ hd)]
  · intro hc
    simp only [h.eq_singleton (hp c hc), List.getLast_singleton, hc]

/-- No character is lost. -/
theorem flatten_eq_nil_iff (h : List.Forall₂ Replaces cs pieces) :
    pieces.flatten = [] ↔ cs = [] := by
  cases h with
  | nil => exact Iff.rfl
  | cons hfirst _ => simp [hfirst.ne_nil]

/-- In a text, the first of the small letters is a pause exactly if the first character is. -/
theorem any_head?_flatten (h : List.Forall₂ Replaces cs pieces)
    (hp : ∀ d, p d = true → isPause d = true) : pieces.flatten.head?.any p = cs.head?.any p := by
  cases h with
  | nil => rfl
  | cons hfirst _ =>
    have hhead := hfirst.any_head? hp
    rw [List.flatten_cons, List.head?_append_of_ne_nil _ hfirst.ne_nil, hhead]
    rfl

/-- The same holds of the last one. -/
theorem any_getLast?_flatten (h : List.Forall₂ Replaces cs pieces)
    (hp : ∀ d, p d = true → isPause d = true) :
    pieces.flatten.getLast?.any p = cs.getLast?.any p := by
  induction h with
  | nil => rfl
  | @cons c smalls cs pieces hfirst hrest ih =>
    by_cases hcs : cs = []
    · have hpieces := (flatten_eq_nil_iff hrest).2 hcs
      rw [List.flatten_cons, hpieces, List.append_nil, hcs, hfirst.any_getLast? hp]
      rfl
    · have hpieces := mt (flatten_eq_nil_iff hrest).1 hcs
      rw [List.flatten_cons, List.getLast?_append_of_ne_nil _ hpieces, ih,
        List.getLast?_cons_of_ne_nil hcs]

/-- Pauses are not made up. -/
theorem mem_of_mem_flatten (h : List.Forall₂ Replaces cs pieces) {d : Char}
    (hd : isPause d = true) (hmem : d ∈ pieces.flatten) : d ∈ cs := by
  induction h with
  | nil => exact hmem
  | cons hfirst _ ih =>
    rw [List.flatten_cons, List.mem_append] at hmem
    rcases hmem with hsmall | hmem
    · rw [hfirst.eq_of_isPause d hsmall hd]
      exact List.mem_cons_self
    · exact List.mem_cons_of_mem _ (ih hmem)

/-- Whatever comes for a letter is small. -/
theorem isSmall_of_mem_flatten (h : List.Forall₂ Replaces cs pieces) {d : Char}
    (hmem : d ∈ pieces.flatten) : IsSmall d := by
  induction h with
  | nil => exact absurd hmem List.not_mem_nil
  | cons hfirst _ ih =>
    rw [List.flatten_cons, List.mem_append] at hmem
    exact hmem.elim (hfirst.isSmall d) ih

end Replaces

/-- Lower case works character by character, whatever stands before the text. -/
theorem exists_replaces (before cs : List Char) :
    ∃ pieces, List.Forall₂ Replaces cs pieces ∧ lowercaseAfter before cs = pieces.flatten := by
  induction cs generalizing before with
  | nil => exact ⟨[], .nil, rfl⟩
  | cons c rest ih =>
    obtain ⟨pieces, hpieces, hrest⟩ := ih (c :: before)
    rw [lowercaseAfter, hrest]
    by_cases hc : c = 'Σ'
    · refine ⟨[if endsWord before rest then 'ς' else 'σ'] :: pieces, ?_, ?_⟩
      · rw [hc]
        exact .cons (Replaces.sigma _) hpieces
      · simp [hc]
    · refine ⟨smallLetter c :: pieces, .cons (Replaces.smallLetter hc) hpieces, ?_⟩
      simp [hc]

section

variable {cs : List Char} {p : Char → Bool}

/-- A text in small letters has nothing but small letters. -/
theorem isSmall_of_mem_lowercase {d : Char} (h : d ∈ lowercase cs) : IsSmall d := by
  obtain ⟨pieces, hpieces, hcs⟩ := exists_replaces [] cs
  rw [lowercase, hcs] at h
  exact Replaces.isSmall_of_mem_flatten hpieces h

/-- Lower case brings no pauses. -/
theorem mem_of_mem_lowercase {d : Char} (hd : isPause d = true) (h : d ∈ lowercase cs) :
    d ∈ cs := by
  obtain ⟨pieces, hpieces, hcs⟩ := exists_replaces [] cs
  rw [lowercase, hcs] at h
  exact Replaces.mem_of_mem_flatten hpieces hd h

/-- A pause stands at the start of a text in lower case if one stood there. -/
theorem any_head?_lowercase (cs : List Char) (hp : ∀ d, p d = true → isPause d = true) :
    (lowercase cs).head?.any p = cs.head?.any p := by
  obtain ⟨pieces, hpieces, hcs⟩ := exists_replaces [] cs
  rw [lowercase, hcs]
  exact Replaces.any_head?_flatten hpieces hp

/-- A pause stands at the end of a text in lower case if one stood there. -/
theorem any_getLast?_lowercase (cs : List Char) (hp : ∀ d, p d = true → isPause d = true) :
    (lowercase cs).getLast?.any p = cs.getLast?.any p := by
  obtain ⟨pieces, hpieces, hcs⟩ := exists_replaces [] cs
  rw [lowercase, hcs]
  exact Replaces.any_getLast?_flatten hpieces hp

/-- Small letters stay as they are, whatever stands before them. -/
theorem lowercaseAfter_of_isSmall (before : List Char) (h : ∀ c ∈ cs, IsSmall c) :
    lowercaseAfter before cs = cs := by
  induction cs generalizing before with
  | nil => rfl
  | cons c rest ih =>
    have hc := h c List.mem_cons_self
    have hrest := ih (c :: before) fun d hd => h d (List.mem_cons_of_mem c hd)
    rw [lowercaseAfter, hrest, hc.1]
    simp [hc.2]

/-- A text of small letters stays as it is. -/
theorem lowercase_of_isSmall (h : ∀ c ∈ cs, IsSmall c) : lowercase cs = cs :=
  lowercaseAfter_of_isSmall [] h

/-- Lower case is reached in one pass. -/
theorem lowercase_lowercase (cs : List Char) : lowercase (lowercase cs) = lowercase cs :=
  lowercase_of_isSmall fun _ => isSmall_of_mem_lowercase

end

end DesignMetrics.Text
