import DesignMetrics.Proofs.Source.Cut

/-!
# Where a reader finds something

What a search leaves behind, said without the search: the tokens fall into places and what stands
between them, at every place the reader reads just the tokens of that place, and from none of the
tokens in between does it read anything.
-/

namespace DesignMetrics.Source

variable {α : Type} {read? : List Token → Option (α × List Token)} {ts us rest : List Token}

/-- From none of these tokens on is anything read, if `rest` comes after them. -/
def Silent (read? : List Token → Option (α × List Token)) (ts rest : List Token) : Prop :=
  ∀ xs ys, ts = xs ++ ys → ys ≠ [] → read? (ys ++ rest) = none

/-- Tokens that start with a place where something is read and consist of such places and of what
stands between them. -/
inductive Located (read? : List Token → Option (α × List Token)) :
    List Token → List (Occurrence α) → Prop where
  | nil : Located read? [] []
  | cons {o : Occurrence α} {rest : List Token} {later : List (Occurrence α)}
      (hread : read? (o.source ++ (o.gap ++ rest)) = some (o.value, o.gap ++ rest))
      (hgap : Silent read? o.gap rest) (hlater : Located read? rest later) :
      Located read? (o.source ++ (o.gap ++ rest)) (o :: later)

/-! ## Silence -/

theorem silent_nil (rest : List Token) : Silent read? [] rest := by
  intro xs ys h hne
  exact absurd (List.nil_eq_append_iff.1 h).2 hne

theorem silent_cons_iff {t : Token} :
    Silent read? (t :: ts) rest ↔ read? (t :: (ts ++ rest)) = none ∧ Silent read? ts rest := by
  constructor
  · intro h
    refine ⟨h [] (t :: ts) rfl (by simp), fun xs ys hts hne => ?_⟩
    exact h (t :: xs) ys (by rw [hts, List.cons_append]) hne
  · rintro ⟨hfirst, hlater⟩ xs ys h hne
    cases xs with
    | nil =>
      rw [List.nil_append] at h
      rw [← h]
      exact hfirst
    | cons x xs =>
      exact hlater xs ys (List.cons.inj h).2 hne

/-- A search passes over tokens from which nothing is read. -/
theorem Silent.occurrences_append (h : Silent read? ts rest) :
    occurrences read? (ts ++ rest) =
      (ts ++ (occurrences read? rest).1, (occurrences read? rest).2) := by
  induction ts with
  | nil => rfl
  | cons t ts ih =>
    obtain ⟨hfirst, hlater⟩ := silent_cons_iff.1 h
    rw [List.cons_append, occurrences_of_eq_none hfirst, ih hlater]
    rfl

theorem Silent.readAll_append (h : Silent read? ts rest) :
    readAll read? (ts ++ rest) = readAll read? rest := by
  unfold readAll
  rw [h.occurrences_append]

theorem Silent.occurrences_eq (h : Silent read? ts []) : occurrences read? ts = (ts, []) := by
  have hnil : occurrences read? [] = ([], []) := rfl
  rw [← List.append_nil ts, h.occurrences_append, hnil]

/-- Where a silent text can be cut, nothing is read. -/
theorem Silent.read?_eq_none {text behind before after : List Char}
    (h : Silent read? (tokens text) (tokens behind)) (happart : Apart text behind)
    (htext : text = before ++ after) (hne : after ≠ [])
    (hcut : Apart before (after ++ behind)) : read? (tokens (after ++ behind)) = none := by
  subst htext
  rw [tokens_append happart.of_append]
  exact h (tokens before) (tokens after) (tokens_append hcut.of_append_right) (tokens_ne_nil hne)

/-- A text is silent if nothing is read where it can be cut. -/
theorem silent_tokens {text behind : List Char} (happart : Apart text behind)
    (h : ∀ before after, text = before ++ after → after ≠ [] → Apart before (after ++ behind) →
      read? (tokens (after ++ behind)) = none) :
    Silent read? (tokens text) (tokens behind) := by
  intro xs ys hts hne
  obtain ⟨before, after, rfl, -, rfl, hcut⟩ := exists_of_tokens_eq_append hts
  have hafter : after ≠ [] := by
    rintro rfl
    exact hne rfl
  rw [← tokens_append happart.of_append]
  exact h before after rfl hafter (hcut.append_right hafter behind)

/-! ## Places -/

/-- A search gives the places of its tokens, after what stands in front of them. -/
theorem Reads.exists_located {leads keywords : List String} (hr : Reads leads keywords read?)
    (ts : List Token) :
    ∃ rest, ts = (occurrences read? ts).1 ++ rest ∧
      Silent read? (occurrences read? ts).1 rest ∧
      Located read? rest (occurrences read? ts).2 := by
  induction hn : ts.length using Nat.strongRecOn generalizing ts with
  | _ n ih =>
    cases ts with
    | nil => exact ⟨[], rfl, silent_nil [], .nil⟩
    | cons t ts =>
      cases hread : read? (t :: ts) with
      | none =>
        obtain ⟨rest, hts, hsilent, hlocated⟩ := ih ts.length (by simp [← hn]) ts rfl
        rw [occurrences_of_eq_none hread]
        refine ⟨rest, congrArg (t :: ·) hts, silent_cons_iff.2 ⟨?_, hsilent⟩, hlocated⟩
        rwa [← hts]
      | some r =>
        obtain ⟨value, unread⟩ := r
        obtain ⟨source, hne, hsource, hocc⟩ := hr.occurrences_eq hread
        -- the search goes on behind the source, which is not empty
        have hlt : unread.length < n := by
          have hpos : 0 < source.length := List.length_pos_iff.2 hne
          rw [← hn, ← hsource, List.length_append]
          omega
        obtain ⟨rest, hunread, hsilent, hlocated⟩ := ih _ hlt unread rfl
        rw [hocc]
        refine ⟨t :: ts, rfl, silent_nil _, ?_⟩
        rw [← hsource] at hread ⊢
        rw [hunread] at hread
        have hplace := Located.cons (o := ⟨value, source, (occurrences read? unread).1⟩)
          hread hsilent hlocated
        rwa [← hunread] at hplace

end DesignMetrics.Source
