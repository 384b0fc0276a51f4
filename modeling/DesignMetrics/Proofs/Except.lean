import Mathlib.Data.List.Forall2

/-!
# Computations that may fail

Computations one after the other have a result exactly if each of them has one, and so has a list of
computations.
-/

namespace DesignMetrics

variable {ε α β : Type} {f : α → Except ε β} {as : List α} {bs : List β}

theorem exists_eq_ok {x : Except ε α} (h : x.toOption.isSome) : ∃ a, x = .ok a := by
  cases x with
  | error e => cases h
  | ok a => exact ⟨a, rfl⟩

/-- A chain of two steps comes to a value if both do. -/
theorem bind_eq_ok {x : Except ε α} {b : β} :
    (x >>= f) = .ok b ↔ ∃ a, x = .ok a ∧ f a = .ok b := by
  cases x with
  | error e =>
    refine ⟨fun h => ?_, ?_⟩
    · cases h
    · rintro ⟨a, ha, -⟩
      cases ha
  | ok a =>
    refine ⟨fun h => ⟨a, rfl, h⟩, ?_⟩
    rintro ⟨a', ha, h⟩
    cases ha
    exact h

/-- It fails where one of them does. -/
theorem bind_eq_error {x : Except ε α} {e : ε} :
    (x >>= f) = .error e ↔ x = .error e ∨ ∃ a, x = .ok a ∧ f a = .error e := by
  cases x with
  | error e' =>
    have hbind : (Except.error e' >>= f) = .error e ↔ e' = e :=
      ⟨fun h => Except.error.inj h, congrArg Except.error⟩
    simp [hbind]
  | ok a =>
    have hbind : (Except.ok a >>= f) = f a := rfl
    simp [hbind]

theorem mapError_eq_error {ε' : Type} {x : Except ε α} {g : ε → ε'} {e' : ε'} :
    x.mapError g = .error e' ↔ ∃ e, x = .error e ∧ g e = e' := by
  cases x <;> simp [Except.mapError]

theorem mapError_eq_ok {ε' : Type} {x : Except ε α} {g : ε → ε'} {a : α} :
    x.mapError g = .ok a ↔ x = .ok a := by
  cases x <;> simp [Except.mapError]

/-- The results of a list of computations are theirs, one by one. -/
theorem mapM_eq_ok_iff : as.mapM f = .ok bs ↔ List.Forall₂ (fun a b => f a = .ok b) as bs := by
  induction as generalizing bs with
  | nil =>
    rw [List.mapM_nil, List.forall₂_nil_left_iff]
    show Except.ok [] = Except.ok bs ↔ bs = []
    rw [Except.ok.injEq, eq_comm]
  | cons a as ih =>
    rw [List.mapM_cons, List.forall₂_cons_left_iff, bind_eq_ok]
    constructor
    · rintro ⟨b, hb, h⟩
      obtain ⟨cs, hcs, hbs⟩ := bind_eq_ok.1 h
      exact ⟨b, cs, hb, ih.1 hcs, (Except.ok.inj hbs).symm⟩
    · rintro ⟨b, cs, hb, hcs, rfl⟩
      exact ⟨b, hb, bind_eq_ok.2 ⟨cs, ih.2 hcs, rfl⟩⟩

/-- The first computation that fails decides the error of a list of them. -/
theorem mapM_eq_error_iff {e : ε} :
    as.mapM f = .error e ↔
      ∃ before a after, as = before ++ a :: after ∧ (∀ b ∈ before, ∃ c, f b = .ok c) ∧
        f a = .error e := by
  induction as with
  | nil =>
    rw [List.mapM_nil]
    refine iff_of_false (fun h => by cases h) ?_
    rintro ⟨before, a, after, h, -⟩
    exact absurd h.symm (by simp)
  | cons a as ih =>
    -- an error behind the first result is one of the remaining list
    have hrest : (∃ c, f a = .ok c ∧ (as.mapM f >>= fun cs => pure (c :: cs)) = .error e) ↔
        (∃ c, f a = .ok c) ∧ as.mapM f = .error e := by
      rw [← exists_and_right]
      refine exists_congr fun c => and_congr_right fun _ => ?_
      rw [bind_eq_error]
      exact or_iff_left fun ⟨cs, _, h⟩ => by cases h
    rw [List.mapM_cons, bind_eq_error, hrest, ih]
    constructor
    · rintro (ha | ⟨ha, before, b, after, rfl, hbefore, hb⟩)
      · exact ⟨[], a, as, rfl, by simp, ha⟩
      · exact ⟨a :: before, b, after, rfl, List.forall_mem_cons.2 ⟨ha, hbefore⟩, hb⟩
    · rintro ⟨before, b, after, heq, hbefore, hb⟩
      cases before with
      | nil =>
        obtain ⟨rfl, -⟩ := List.cons.inj heq
        exact .inl hb
      | cons first before =>
        obtain ⟨rfl, rfl⟩ := List.cons.inj heq
        obtain ⟨ha, hbefore⟩ := List.forall_mem_cons.1 hbefore
        exact .inr ⟨ha, before, b, after, rfl, hbefore, hb⟩

theorem mapM_eq_ok {g : α → β} (h : ∀ a ∈ as, f a = .ok (g a)) : as.mapM f = .ok (as.map g) := by
  rw [mapM_eq_ok_iff, List.forall₂_map_right_iff, List.forall₂_same]
  exact h

theorem exists_of_mem_forall₂ {R : α → β → Prop} {b : β} (h : List.Forall₂ R as bs) (hb : b ∈ bs) :
    ∃ a ∈ as, R a b := by
  induction h with
  | nil => cases hb
  | cons hab _ ih =>
    rcases List.mem_cons.1 hb with rfl | hb
    · exact ⟨_, List.mem_cons_self, hab⟩
    · obtain ⟨a, ha, hab⟩ := ih hb
      exact ⟨a, List.mem_cons_of_mem _ ha, hab⟩

theorem exists_forall₂ {R : α → β → Prop} (h : ∀ a ∈ as, ∃ b, R a b) :
    ∃ bs, List.Forall₂ R as bs := by
  induction as with
  | nil => exact ⟨[], .nil⟩
  | cons a as ih =>
    obtain ⟨b, hb⟩ := h a List.mem_cons_self
    obtain ⟨bs, hbs⟩ := ih fun c hc => h c (List.mem_cons_of_mem a hc)
    exact ⟨b :: bs, .cons hb hbs⟩

/-- Where each computation has a result of its kind, the list of them has one. -/
theorem exists_mapM_eq_ok {R : α → β → Prop} (h : ∀ a ∈ as, ∃ b, f a = .ok b ∧ R a b) :
    ∃ bs, as.mapM f = .ok bs ∧ List.Forall₂ R as bs := by
  obtain ⟨bs, hbs⟩ := exists_forall₂ h
  exact ⟨bs, mapM_eq_ok_iff.2 (hbs.imp fun _ _ => And.left), hbs.imp fun _ _ => And.right⟩

/-- Filtering keeps the elements that pass, in order, if all can be asked. -/
theorem filterAuxM_eq_ok {p : α → Except ε Bool} {before after : List α}
    (h : as.filterAuxM p before = .ok after) :
    ∃ kept : List α, after = kept.reverse ++ before ∧ kept.Sublist as ∧
      ∀ a, a ∈ kept ↔ a ∈ as ∧ p a = .ok true := by
  induction as generalizing before with
  | nil =>
    cases h
    exact ⟨[], rfl, List.Sublist.slnil, fun a => by simp⟩
  | cons a as ih =>
    obtain ⟨keep, hkeep, h⟩ := bind_eq_ok.1 h
    obtain ⟨kept, rfl, hsub, hmem⟩ := ih h
    cases keep with
    | false =>
      refine ⟨kept, rfl, hsub.cons a, fun b => ?_⟩
      rw [hmem, List.mem_cons, or_and_right, or_iff_right]
      rintro ⟨rfl, hb⟩
      rw [hkeep] at hb
      cases hb
    | true =>
      have hkept : (a :: kept).reverse ++ before = kept.reverse ++ (a :: before) := by simp
      refine ⟨a :: kept, hkept.symm, hsub.cons_cons a, fun b => ?_⟩
      rw [List.mem_cons, List.mem_cons, hmem, or_and_right]
      refine or_congr_left (and_iff_left_of_imp ?_).symm
      rintro rfl
      exact hkeep

/-- If a filter by tests has a result, each test has one. -/
theorem exists_of_filterAuxM {p : α → Except ε Bool} {before after : List α}
    (h : as.filterAuxM p before = .ok after) : ∀ a ∈ as, ∃ keep, p a = .ok keep := by
  induction as generalizing before with
  | nil => simp
  | cons a as ih =>
    obtain ⟨keep, hkeep, h⟩ := bind_eq_ok.1 h
    exact List.forall_mem_cons.2 ⟨⟨keep, hkeep⟩, ih h⟩

theorem filterAuxM_of_ok {p : α → Except ε Bool} {q : α → Bool} (h : ∀ a ∈ as, p a = .ok (q a))
    (before : List α) : as.filterAuxM p before = .ok ((as.filter q).reverse ++ before) := by
  induction as generalizing before with
  | nil => rfl
  | cons a as ih =>
    rw [List.forall_mem_cons] at h
    rw [List.filterAuxM, h.1]
    refine (ih h.2 _).trans ?_
    cases hq : q a <;> simp [hq]

/-- Tests that all have a result filter as these say. -/
theorem filterM_of_ok {p : α → Except ε Bool} {q : α → Bool} (h : ∀ a ∈ as, p a = .ok (q a)) :
    as.filterM p = .ok (as.filter q) := by
  rw [List.filterM, filterAuxM_of_ok h, List.append_nil]
  exact congrArg Except.ok (List.reverse_reverse _)

/-- A filter by tests that may fail keeps the same elements in whatever order they come. -/
theorem exists_filterM_of_perm {p : α → Except ε Bool} {as' kept : List α}
    (h : as.filterM p = .ok kept) (hperm : as'.Perm as) :
    ∃ kept', as'.filterM p = .ok kept' ∧ kept'.Perm kept := by
  obtain ⟨after, hafter, -⟩ := bind_eq_ok.1 h
  have hq : ∀ a ∈ as, p a = .ok ((p a).toOption.getD false) := by
    intro a ha
    obtain ⟨keep, hkeep⟩ := exists_of_filterAuxM hafter a ha
    rw [hkeep]
    rfl
  obtain rfl := Except.ok.inj ((filterM_of_ok hq).symm.trans h)
  exact ⟨_, filterM_of_ok fun a ha => hq a (hperm.subset ha), hperm.filter _⟩

/-- A filter by tests that may fail keeps what passes, in its order. -/
theorem filterM_eq_ok {p : α → Except ε Bool} {kept : List α} (h : as.filterM p = .ok kept) :
    kept.Sublist as ∧ ∀ a, a ∈ kept ↔ a ∈ as ∧ p a = .ok true := by
  obtain ⟨after, hafter, h⟩ := bind_eq_ok.1 h
  obtain ⟨found, rfl, hsub, hmem⟩ := filterAuxM_eq_ok hafter
  obtain rfl : found = kept := by
    rw [List.append_nil, List.reverse_reverse] at h
    exact Except.ok.inj h
  exact ⟨hsub, hmem⟩

end DesignMetrics
