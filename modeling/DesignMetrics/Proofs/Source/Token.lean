import DesignMetrics.Source.Token

/-!
# Cutting a text into tokens

A text may be cut between two characters that are not of one run: the tokens of the two parts,
put together, are the tokens of the whole.
-/

namespace DesignMetrics

namespace Text

/-- A code point in a set is in one of its ranges. -/
theorem Ranges.exists_of_contains {ranges : Ranges} {n : Nat} (h : ranges.contains n = true) :
    ∃ range ∈ ranges, range.1 ≤ n ∧ n ≤ range.2 := by
  induction ranges with
  | nil => simp [contains] at h
  | cons range ranges ih =>
    obtain ⟨first, last⟩ := range
    rw [contains] at h
    split at h
    · exact absurd h (by simp)
    · rw [Bool.or_eq_true, decide_eq_true_eq] at h
      rcases h with hlast | hrest
      · exact ⟨_, List.mem_cons_self, by omega, hlast⟩
      · obtain ⟨range, hmem, hle⟩ := ih hrest
        exact ⟨range, List.mem_cons_of_mem _ hmem, hle⟩

/-- White space is not written in words. -/
theorem isWord_eq_false_of_isBlank {c : Char} (h : isBlank c = true) : isWord c = false := by
  obtain ⟨range, hmem, hfirst, hlast⟩ := Ranges.exists_of_contains h
  have hnone : ∀ range ∈ blankRanges, ∀ n ∈ List.range' range.1 (range.2 + 1 - range.1),
      isWord (Char.ofNat n) = false := by
    decide +kernel
  have hn : c.toNat ∈ List.range' range.1 (range.2 + 1 - range.1) := by
    rw [List.mem_range'_1]
    omega
  rw [← Char.ofNat_toNat c]
  exact hnone range hmem _ hn

/-- Characters of words are no white space. -/
theorem isBlank_eq_false_of_isWord {c : Char} (h : isWord c = true) : isBlank c = false := by
  rw [Bool.eq_false_iff]
  intro hb
  rw [isWord_eq_false_of_isBlank hb] at h
  exact absurd h (by simp)

end Text

namespace Source

open Text (isWord isBlank)

/-! ## Runs -/

/-- At least one character, and all of one kind. -/
structure IsRun (kind : Char → Bool) (cs : List Char) : Prop where
  ne_nil : cs ≠ []
  all : ∀ c ∈ cs, kind c = true

/-- The characters of a word. -/
abbrev IsWordRun := IsRun isWord

/-- The characters of white space between two words. -/
abbrev IsGap := IsRun isBlank

/-- No run of characters of a kind goes on in this text. -/
def Ends (kind : Char → Bool) (cs : List Char) : Prop :=
  ∀ c ∈ cs.head?, kind c = false

theorem isRun_iff {kind : Char → Bool} {cs : List Char} :
    IsRun kind cs ↔ cs ≠ [] ∧ cs.all kind = true := by
  rw [List.all_eq_true]
  exact ⟨fun h => ⟨h.ne_nil, h.all⟩, fun h => ⟨h.1, h.2⟩⟩

instance (kind : Char → Bool) (cs : List Char) : Decidable (IsRun kind cs) :=
  decidable_of_iff _ isRun_iff.symm

theorem ends_cons {kind : Char → Bool} {c : Char} (h : kind c = false) (cs : List Char) :
    Ends kind (c :: cs) := by
  intro d hd
  obtain rfl := Option.some.inj hd
  exact h

instance (kind : Char → Bool) : (cs : List Char) → Decidable (Ends kind cs)
  | [] => .isTrue fun _ hc => absurd hc (by simp)
  | c :: cs => decidable_of_iff (kind c = false) ⟨fun h => ends_cons h cs, fun h => h c rfl⟩

/-- A text that goes on no run does so whatever follows it. -/
theorem Ends.append {kind : Char → Bool} {cs : List Char} (h : Ends kind cs) (hne : cs ≠ [])
    (ds : List Char) : Ends kind (cs ++ ds) := by
  obtain ⟨c, cs, rfl⟩ := List.exists_cons_of_ne_nil hne
  exact h

theorem IsRun.singleton {kind : Char → Bool} {c : Char} (hc : kind c = true) :
    IsRun kind [c] :=
  ⟨by simp, by simpa using hc⟩

theorem IsRun.cons {kind : Char → Bool} {c : Char} {cs : List Char} (hc : kind c = true)
    (h : IsRun kind cs) : IsRun kind (c :: cs) :=
  ⟨by simp, List.forall_mem_cons.2 ⟨hc, h.all⟩⟩

/-- A run does not carry on runs of other kinds. -/
theorem IsRun.ends {kind other : Char → Bool} (hother : ∀ c, kind c = true → other c = false)
    {cs : List Char} (h : IsRun kind cs) (ds : List Char) : Ends other (cs ++ ds) := by
  intro c hc
  obtain ⟨d, cs, rfl⟩ := List.exists_cons_of_ne_nil h.ne_nil
  obtain rfl : d = c := by simpa using hc
  exact hother d (h.all d List.mem_cons_self)

/-- A word goes on no white space. -/
theorem IsRun.ends_isBlank {word : List Char} (hw : IsWordRun word) (cs : List Char) :
    Ends isBlank (word ++ cs) :=
  hw.ends (fun _ => Text.isBlank_eq_false_of_isWord) cs

/-- White space goes on no word. -/
theorem IsRun.ends_isWord {gap : List Char} (hg : IsGap gap) (cs : List Char) :
    Ends isWord (gap ++ cs) :=
  hg.ends (fun _ => Text.isWord_eq_false_of_isBlank) cs

/-- Texts between which no run goes on. -/
def Apart (cs ds : List Char) : Prop :=
  ∀ c ∈ cs.getLast?, (isWord c = true → Ends isWord ds) ∧ (isBlank c = true → Ends isBlank ds)

/-! ## Tokens of two texts -/

theorem Token.push_ne_nil (c : Char) (ts : List Token) : push c ts ≠ [] := by
  unfold push
  split
  · split <;> simp
  · split
    · split <;> simp
    · simp

/-- Only the empty text has no tokens. -/
theorem tokens_ne_nil {cs : List Char} (h : cs ≠ []) : tokens cs ≠ [] := by
  obtain ⟨c, cs, rfl⟩ := List.exists_cons_of_ne_nil h
  exact Token.push_ne_nil c (tokens cs)

/-- A character is put in front of the first token, whatever follows behind. -/
theorem Token.push_append (c : Char) {ts : List Token} (h : ts ≠ []) (us : List Token) :
    push c (ts ++ us) = push c ts ++ us := by
  obtain ⟨t, ts, rfl⟩ := List.exists_cons_of_ne_nil h
  unfold push
  split
  · cases t <;> rfl
  · split
    · cases t <;> rfl
    · rfl

/-- Only characters of words make a word. -/
theorem Token.push_ne_word {c : Char} (h : isWord c = false) (ts : List Token)
    (letters : List Char) (rest : List Token) : push c ts ≠ .word letters :: rest := by
  unfold push
  rw [if_neg (by rw [h]; simp)]
  split
  · split <;> simp
  · simp

/-- Only white space makes white space. -/
theorem Token.push_ne_blank {c : Char} (h : isBlank c = false) (ts : List Token)
    (spaces : List Char) (rest : List Token) : push c ts ≠ .blank spaces :: rest := by
  unfold push
  rw [if_neg (c := isBlank c = true) (by rw [h]; simp)]
  split
  · split <;> simp
  · simp

/-- A character that joins no run is a token of its own. -/
theorem Token.push_tokens {c : Char} {cs : List Char} (hword : isWord c = true → Ends isWord cs)
    (hblank : isBlank c = true → Ends isBlank cs) :
    push c (tokens cs) = push c [] ++ tokens cs := by
  cases cs with
  | nil => simp [tokens]
  | cons d cs =>
    have hts : push d (tokens cs) = tokens (d :: cs) := rfl
    unfold push
    split
    · next hc =>
      split
      · next heq => exact absurd (hts.trans heq) (push_ne_word (hword hc d rfl) _ _ _)
      · rfl
    · split
      · next hc =>
        split
        · next heq => exact absurd (hts.trans heq) (push_ne_blank (hblank hc d rfl) _ _ _)
        · rfl
      · rfl

/-- Where no run goes on, the tokens of two texts are those of the text that they make up. -/
theorem tokens_append {cs ds : List Char} (h : Apart cs ds) :
    tokens (cs ++ ds) = tokens cs ++ tokens ds := by
  induction cs with
  | nil => rfl
  | cons c cs ih =>
    cases cs with
    | nil =>
      obtain ⟨hword, hblank⟩ := h c rfl
      exact Token.push_tokens hword hblank
    | cons d cs =>
      have happart : Apart (d :: cs) ds := by
        intro b hb
        exact h b (by rwa [List.getLast?_cons_cons])
      show Token.push c (tokens (d :: cs ++ ds)) = Token.push c (tokens (d :: cs)) ++ tokens ds
      rw [ih happart, Token.push_append c (tokens_ne_nil (by simp))]

/-! ## Tokens of runs -/

/-- A word is one token. -/
theorem tokens_word {word : List Char} (hw : IsWordRun word) : tokens word = [.word word] := by
  obtain ⟨hne, hall⟩ := hw
  induction word with
  | nil => exact absurd rfl hne
  | cons c word ih =>
    have hc : isWord c = true := hall c List.mem_cons_self
    show Token.push c (tokens word) = [.word (c :: word)]
    unfold Token.push
    rw [if_pos hc]
    cases word with
    | nil => rfl
    | cons d word => rw [ih (by simp) fun b hb => hall b (List.mem_cons_of_mem _ hb)]

/-- White space between two words is one token. -/
theorem tokens_gap {gap : List Char} (hg : IsGap gap) : tokens gap = [.blank gap] := by
  obtain ⟨hne, hall⟩ := hg
  induction gap with
  | nil => exact absurd rfl hne
  | cons c gap ih =>
    have hc : isBlank c = true := hall c List.mem_cons_self
    show Token.push c (tokens gap) = [.blank (c :: gap)]
    unfold Token.push
    rw [if_neg (by rw [Text.isWord_eq_false_of_isBlank hc]; simp), if_pos hc]
    cases gap with
    | nil => rfl
    | cons d gap => rw [ih (by simp) fun b hb => hall b (List.mem_cons_of_mem _ hb)]

/-- A word ends where no word goes on. -/
theorem apart_word {word cs : List Char} (hw : IsWordRun word) (hcs : Ends isWord cs) :
    Apart word cs := by
  intro c hc
  have hword : isWord c = true := hw.all c (List.mem_of_getLast? hc)
  refine ⟨fun _ => hcs, fun hblank => ?_⟩
  rw [Text.isBlank_eq_false_of_isWord hword] at hblank
  exact absurd hblank (by simp)

/-- White space ends where none goes on. -/
theorem apart_gap {gap cs : List Char} (hg : IsGap gap) (hcs : Ends isBlank cs) :
    Apart gap cs := by
  intro c hc
  have hblank : isBlank c = true := hg.all c (List.mem_of_getLast? hc)
  refine ⟨fun hword => ?_, fun _ => hcs⟩
  rw [Text.isWord_eq_false_of_isBlank hblank] at hword
  exact absurd hword (by simp)

/-- A word in front of a text that does not carry it on. -/
theorem tokens_word_append {word : List Char} (hw : IsWordRun word) {cs : List Char}
    (hcs : Ends isWord cs) : tokens (word ++ cs) = .word word :: tokens cs := by
  rw [tokens_append (apart_word hw hcs), tokens_word hw]
  rfl

/-- White space in front of a text that does not carry it on. -/
theorem tokens_gap_append {gap : List Char} (hg : IsGap gap) {cs : List Char}
    (hcs : Ends isBlank cs) : tokens (gap ++ cs) = .blank gap :: tokens cs := by
  rw [tokens_append (apart_gap hg hcs), tokens_gap hg]
  rfl

/-- A character that belongs to no run is a mark. -/
theorem tokens_mark {c : Char} (hw : isWord c = false) (hb : isBlank c = false) (cs : List Char) :
    tokens (c :: cs) = .mark c :: tokens cs := by
  show Token.push c (tokens cs) = .mark c :: tokens cs
  unfold Token.push
  rw [if_neg (by rw [hw]; simp), if_neg (by rw [hb]; simp)]

/-- A word, and white space that sets it off from what follows. -/
theorem tokens_word_gap {word gap : List Char} (hw : IsWordRun word) (hg : IsGap gap)
    {cs : List Char} (hcs : Ends isBlank cs) :
    tokens (word ++ (gap ++ cs)) = .word word :: .blank gap :: tokens cs := by
  rw [tokens_word_append hw (hg.ends_isWord cs), tokens_gap_append hg hcs]

/-! ## What tokens are made of -/

/-- A token is a run of one kind or a character that belongs to no run. -/
def Token.Proper : Token → Prop
  | .word letters => IsWordRun letters
  | .blank spaces => IsGap spaces
  | .mark c => isWord c = false ∧ isBlank c = false

/-- A character that is put in front leaves tokens proper. -/
theorem Token.proper_push {c : Char} {ts : List Token} (h : ∀ t ∈ ts, t.Proper) :
    ∀ t ∈ push c ts, t.Proper := by
  unfold push
  split
  · next hc =>
    split
    · next letters rest =>
      rw [List.forall_mem_cons] at h ⊢
      have hletters : IsWordRun letters := h.1
      exact ⟨hletters.cons hc, h.2⟩
    · rw [List.forall_mem_cons]
      exact ⟨IsRun.singleton hc, h⟩
  · next hc =>
    split
    · next hb =>
      split
      · next spaces rest =>
        rw [List.forall_mem_cons] at h ⊢
        have hspaces : IsGap spaces := h.1
        exact ⟨hspaces.cons hb, h.2⟩
      · rw [List.forall_mem_cons]
        exact ⟨IsRun.singleton hb, h⟩
    · next hb =>
      rw [List.forall_mem_cons]
      exact ⟨⟨by simpa using hc, by simpa using hb⟩, h⟩

/-- Every token that is cut from a text is proper. -/
theorem Token.proper_of_mem_tokens {t : Token} {cs : List Char} (h : t ∈ tokens cs) :
    t.Proper := by
  induction cs generalizing t with
  | nil => exact absurd h (by simp [tokens])
  | cons c cs ih => exact proper_push (fun t ht => ih ht) t h

/-- Tokens hold characters of their text. -/
theorem Token.mem_of_mem_tokens {t : Token} {cs : List Char} (h : t ∈ tokens cs) {c : Char}
    (hc : c ∈ t.text) : c ∈ cs := by
  rw [← textOf_tokens cs]
  exact List.mem_flatMap_of_mem h hc

end Source
end DesignMetrics
