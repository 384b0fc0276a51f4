import DesignMetrics.Proofs.Ignore.Confined

/-!
# Patterns below a directory

Below a directory a slash stands in front of the segments of a pattern, and in the root none does.
Once they have been brought into normal form, they fit the same either way, although a pattern
without a place begins with directories of any depth in the root and has them between two names
below a directory.
-/

namespace DesignMetrics.Ignore

variable {cs segment : List Char} {segments plain : List (List Char)} {directory : Bool}
  {steps : List Step} {ending : Ending} {shape : Shape}

/-! ## Plain segments in front -/

/-- The steps for plain segments with a slash in front of each of them. -/
def plainSteps (plain : List (List Char)) : List Step :=
  plain.flatMap fun segment => .slash :: segment.map fun c => .item (.literal c)

/-- Plain segments in front are assembled step by step. -/
theorem assemble_plain_append (hplain : ∀ segment ∈ plain, IsPlain segment)
    (h : assemble directory true segments = .ok (steps, ending)) :
    assemble directory true (plain ++ segments) = .ok (plainSteps plain ++ steps, ending) := by
  induction plain with
  | nil => exact h
  | cons segment plain ih =>
    obtain ⟨hsegment, hrest⟩ := List.forall_mem_cons.1 hplain
    rw [List.cons_append, assemble, if_neg hsegment.ne_deep, hsegment.segmentSteps_eq, ih hrest]
    show Except.ok ([.slash] ++ _ ++ (plainSteps plain ++ steps), ending) = _
    simp [plainSteps]

/-- A slash in front of a name is a step of its own. -/
theorem assemble_true_cons_eq_ok (hne : segment ≠ deep) :
    assemble directory true (segment :: segments) = .ok (.slash :: steps, ending) ↔
      assemble directory false (segment :: segments) = .ok (steps, ending) := by
  rw [assemble, if_neg hne, assemble, if_neg hne]
  cases segmentSteps segment with
  | error e => exact iff_of_false (fun h => by cases h) (fun h => by cases h)
  | ok own =>
    cases assemble directory true segments with
    | error e => exact iff_of_false (fun h => by cases h) (fun h => by cases h)
    | ok result =>
      show Except.ok ([.slash] ++ own ++ result.1, result.2) = _ ↔
        Except.ok ([] ++ own ++ result.1, result.2) = _
      simp

/-- A shape behind a plain directory begins with the names of that directory. -/
theorem shapeOf_plain_append {first : List Char} {others : List (List Char)}
    (hplain : ∀ segment ∈ first :: others, IsPlain segment)
    (h : assemble directory true segments = .ok (steps, ending)) :
    shapeOf directory (first :: others ++ segments) = .ok
      (.path (first.map (fun c => .item (.literal c)) ++ plainSteps others ++ steps) ending) := by
  have hfirst := (hplain first List.mem_cons_self).ne_deep
  refine (shapeOf_cons_eq_ok hfirst).2 ⟨_, _, (assemble_true_cons_eq_ok hfirst).1 ?_, rfl⟩
  exact assemble_plain_append hplain h

/-- A slash fits a slash. -/
theorem fitSteps_slash_cons (ending : Ending) (steps : List Step) (cs : List Char) :
    fitSteps ending (.slash :: steps) ('/' :: cs) = fitSteps ending steps cs := by
  have hrests : Step.rests .slash ('/' :: cs) = [cs] := rfl
  rw [fitSteps, hrests, List.findSome?_singleton]

/-- Letters fit themselves. -/
theorem fitSteps_literals_append (ending : Ending) (steps : List Step) (segment cs : List Char) :
    fitSteps ending (segment.map (fun c => .item (.literal c)) ++ steps) (segment ++ cs) =
      fitSteps ending steps cs := by
  induction segment with
  | nil => rfl
  | cons c segment ih =>
    have hrests : Step.rests (.item (.literal c)) (c :: (segment ++ cs)) = [segment ++ cs] :=
      if_pos (beq_self_eq_true c)
    rw [List.map_cons, List.cons_append, List.cons_append, fitSteps, hrests,
      List.findSome?_singleton, ih]

/-- Plain names fit themselves, each behind its slash. -/
theorem fitSteps_plainSteps (ending : Ending) (steps : List Step) (plain : List (List Char))
    (cs : List Char) :
    fitSteps ending (plainSteps plain ++ steps) (plain.flatMap ('/' :: ·) ++ cs) =
      fitSteps ending steps cs := by
  induction plain with
  | nil => rfl
  | cons segment plain ih =>
    have hsteps : plainSteps (segment :: plain) ++ steps =
        .slash :: (segment.map (fun c => .item (.literal c)) ++ (plainSteps plain ++ steps)) := by
      simp [plainSteps]
    have htext : (segment :: plain).flatMap ('/' :: ·) ++ cs =
        '/' :: (segment ++ (plain.flatMap ('/' :: ·) ++ cs)) := by
      simp
    rw [hsteps, htext, fitSteps_slash_cons, fitSteps_literals_append, ih]

/-! ## A slash in front -/

/-- Nothing else fits a slash. -/
theorem fitSteps_slash_eq_none (hslash : cs.head? ≠ some '/') :
    fitSteps ending (.slash :: steps) cs = none := by
  rw [← Option.not_isSome_iff_eq_none]
  intro hfits
  obtain ⟨rest, rfl, -⟩ := fitSteps_slash hfits
  exact hslash rfl

/-- Directories of any depth behind a slash are followed by one, and those in front of a name are
not. -/
theorem fitSteps_innerDirectories_slash (ending : Ending) (steps : List Step) (q : List Char) :
    fitSteps ending (.innerDirectories :: .slash :: steps) ('/' :: q) =
      fitSteps ending (.leadingDirectories :: steps) q := by
  rw [fitSteps, fitSteps]
  cases q with
  | nil =>
    show List.findSome? _ [['/']] = List.findSome? _ [[]]
    rw [List.findSome?_singleton, List.findSome?_singleton, fitSteps_slash_cons]
  | cons c rest =>
    -- both go through the same texts, and only the first one is asked for the slash later on
    rw [Step.rests, Step.rests, List.findSome?_append, List.findSome?_append,
      List.findSome?_singleton, List.findSome?_singleton, fitSteps_slash_cons]
    refine congrArg (Option.or · _) ?_
    rw [← List.head?_filterMap, ← List.head?_filterMap, List.filterMap_filterMap]
    refine congrArg List.head? (List.filterMap_congr fun left _ => ?_)
    split
    · exact fitSteps_slash_cons ending steps _
    · next hnot =>
      refine fitSteps_slash_eq_none fun hslash => ?_
      obtain ⟨left, rfl⟩ := List.head?_eq_some_iff.1 hslash
      exact hnot left rfl

/-- What fits all steps leaves an end of the text for the ending. -/
theorem exists_of_fitSteps (h : (fitSteps ending steps cs).isSome) :
    ∃ rest, rest <:+ cs ∧ (ending.fits? rest).isSome := by
  induction steps generalizing cs with
  | nil => exact ⟨cs, List.suffix_rfl, h⟩
  | cons step steps ih =>
    rw [fitSteps, List.findSome?_isSome_iff] at h
    obtain ⟨left, hleft, hfits⟩ := h
    obtain ⟨rest, hrest, hending⟩ := ih hfits
    exact ⟨rest, hrest.trans (isSuffix_of_mem_rests hleft), hending⟩

/-- Passing over characters may go on as far as it can. -/
theorem dropWhile_mem_passOver (p : Char → Bool) (cs : List Char) :
    cs.dropWhile p ∈ passOver p cs := by
  induction cs with
  | nil => exact List.mem_cons_self
  | cons c cs ih =>
    rw [passOver]
    split
    · next hc =>
      rw [List.dropWhile_cons_of_pos hc]
      exact List.mem_append_left _ ih
    · next hc =>
      rw [List.dropWhile_cons_of_neg hc]
      exact List.mem_cons_self

/-- Whatever the ending, a slash may come next. -/
theorem Ending.fits?_slash_isSome (ending : Ending) (cs : List Char) :
    (ending.fits? ('/' :: cs)).isSome := by
  cases ending <;> rfl

/-- A path that begins with a name, on a single line. -/
structure IsNamedPath (q : List Char) : Prop where
  ne_nil : q ≠ []
  no_newline : '\n' ∉ q
  no_slash : q.head? ≠ some '/'

/-- The first name of a path is one, with no directories in front of it. -/
theorem fitSteps_anyName_isSome {q : List Char} (hq : IsNamedPath q)
    (hending : ending = .entry ∨ '/' ∈ q) :
    (fitSteps ending [.leadingDirectories, .anyName] q).isSome := by
  obtain ⟨c, rest, rfl⟩ := List.exists_cons_of_ne_nil hq.ne_nil
  have hc : c ≠ '/' := fun hc => hq.no_slash (congrArg some hc)
  let left := rest.dropWhile (· != '/')
  have hleft : left ∈ Step.anyName.rests (c :: rest) := by
    rw [Step.rests, if_pos (by simpa using hc)]
    exact dropWhile_mem_passOver _ rest
  have hfits : (ending.fits? left).isSome := by
    cases hcase : left with
    | nil =>
      have hnot : '/' ∉ rest := fun hmem => by
        simpa using List.dropWhile_eq_nil_iff.1 hcase '/' hmem
      obtain rfl | hmem := hending
      · rfl
      · exact absurd ((List.mem_cons.1 hmem).resolve_left (Ne.symm hc)) hnot
    | cons d further =>
      have hd : d = '/' := by
        have hhead := List.head?_dropWhile_not (· != '/') rest
        simpa [left, hcase] using hhead
      rw [hd]
      exact ending.fits?_slash_isSome further
  -- no directory is passed over, then the whole name is
  rw [fitSteps, List.findSome?_isSome_iff]
  refine ⟨c :: rest, by simp [Step.rests], ?_⟩
  rw [fitSteps, List.findSome?_isSome_iff]
  exact ⟨left, hleft, hfits⟩

/-- A directory of any name is found in every path with a slash. -/
theorem fitSteps_anyName_isSome_iff {q : List Char} (hentry : ending ≠ .entry)
    (hq : IsNamedPath q) :
    (fitSteps ending [.leadingDirectories, .anyName] q).isSome ↔ '/' ∈ q := by
  refine ⟨fun h => ?_, fun h => fitSteps_anyName_isSome hq (.inr h)⟩
  obtain ⟨rest, hrest, hfits⟩ := exists_of_fitSteps h
  obtain ⟨further, rfl⟩ := List.head?_eq_some_iff.1 (Ending.head?_of_fits? hentry hfits)
  exact hrest.subset List.mem_cons_self

/-! ## Normal forms below a directory -/

/-- With a slash in front, segments have steps that fit what the shape fits without it. -/
structure FitsBehindSlash (directory : Bool) (normal : List (List Char)) (shape : Shape)
    (steps : List Step) (ending : Ending) : Prop where
  assemble_eq : assemble directory true normal = .ok (steps, ending)
  ordered : (Shape.path steps ending).rangesOrdered = true
  fits_iff : ∀ q, IsNamedPath q →
    ((fitSteps ending steps ('/' :: q)).isSome ↔ (shape.fits? q).isSome)

/-- A shape that begins with a name fits behind a slash what it fits at the start. -/
theorem fitsBehindSlash_of_name {rest : List (List Char)} (hne : segment ≠ deep)
    (h : shapeOf directory (segment :: rest) = .ok shape) (hordered : shape.rangesOrdered = true) :
    ∃ steps ending, FitsBehindSlash directory (segment :: rest) shape steps ending := by
  obtain ⟨steps, ending, hsteps, rfl⟩ := (shapeOf_cons_eq_ok hne).1 h
  refine ⟨.slash :: steps, ending, (assemble_true_cons_eq_ok hne).2 hsteps, hordered, ?_⟩
  intro q _
  rw [fitSteps_slash_cons]
  rfl

/-- A name alone is found in every path, and a directory alone in every path with a slash. -/
theorem fitsBehindSlash_of_anyName {rest : List (List Char)} (hrest : rest = [] ∨ rest = [deep])
    (h : shapeOf directory (deep :: ['*'] :: rest) = .ok shape) :
    ∃ steps ending, FitsBehindSlash directory (deep :: ['*'] :: rest) shape steps ending := by
  obtain rfl | rfl := hrest
  · -- in the root this has a shape of its own, which asks for a single character
    obtain rfl : Shape.anything = shape := Except.ok.inj h
    refine ⟨[.innerDirectories, .slash, .anyName], .entry, rfl, rfl, ?_⟩
    intro q hq
    rw [fitSteps_innerDirectories_slash]
    refine iff_of_true (fitSteps_anyName_isSome hq (.inl rfl)) ?_
    obtain ⟨c, rest, rfl⟩ := List.exists_cons_of_ne_nil hq.ne_nil
    have hc : (c != '\n') = true := by
      rw [bne_iff_ne]
      rintro rfl
      exact hq.no_newline List.mem_cons_self
    rw [Shape.fits?, List.any_cons, hc, Bool.true_or]
    rfl
  · -- and this one, which asks for a slash
    obtain ⟨strength, hstrength⟩ : ∃ strength, shape = .someSlash strength :=
      ⟨_, (Except.ok.inj h).symm⟩
    obtain ⟨ending, hentry, hassemble⟩ : ∃ ending ≠ .entry,
        assemble directory true [deep, ['*'], deep] =
          .ok ([.innerDirectories, .slash, .anyName], ending) := by
      cases directory
      · exact ⟨.below, by decide, rfl⟩
      · exact ⟨.directory, by decide, rfl⟩
    refine ⟨[.innerDirectories, .slash, .anyName], ending, hassemble, rfl, ?_⟩
    intro q hq
    rw [fitSteps_innerDirectories_slash, fitSteps_anyName_isSome_iff hentry hq, hstrength,
      Shape.fits?]
    by_cases hmem : '/' ∈ q <;> simp [hmem]

/-- A shape that begins with directories of any name fits behind a slash what it fits at the
start. -/
theorem fitsBehindSlash_of_deep {next : List Char} {rest : List (List Char)} (hnext : next ≠ deep)
    (h : shapeOf directory (deep :: next :: rest) = .ok shape)
    (hordered : shape.rangesOrdered = true) :
    ∃ steps ending, FitsBehindSlash directory (deep :: next :: rest) shape steps ending := by
  by_cases hany : next = ['*'] ∧ (rest = [] ∨ rest = [deep])
  · obtain ⟨rfl, hrest⟩ := hany
    exact fitsBehindSlash_of_anyName hrest h
  -- no shape of its own is left for the root
  have hone : deep :: next :: rest ≠ [deep, ['*']] := by
    intro heq
    simp only [List.cons.injEq, true_and] at heq
    exact hany ⟨heq.1, .inl heq.2⟩
  have htwo : deep :: next :: rest ≠ [deep, ['*'], deep] := by
    intro heq
    simp only [List.cons.injEq, true_and] at heq
    exact hany ⟨heq.1, .inr heq.2⟩
  rw [shapeOf, if_neg (by simp), if_neg hone, if_neg htwo] at h
  simp only [if_true] at h
  obtain ⟨⟨steps, ending⟩, hsteps, h⟩ := bind_eq_ok.1 h
  obtain rfl := Except.ok.inj h
  refine ⟨.innerDirectories :: .slash :: steps, ending, ?_, hordered, ?_⟩
  · rw [assemble, if_pos rfl, (assemble_true_cons_eq_ok hnext).2 hsteps]
    rfl
  · intro q _
    rw [fitSteps_innerDirectories_slash]
    rfl

/-- Collapsing keeps the first segment. -/
theorem head?_collapse (segments : List (List Char)) :
    (collapse segments).head? = segments.head? := by
  induction segments with
  | nil => rfl
  | cons first rest ih =>
    cases rest with
    | nil => rfl
    | cons next rest =>
      rw [collapse]
      split
      · next hboth => rw [ih, List.head?_cons, List.head?_cons, hboth.1, hboth.2]
      · rfl

/-- No two deep segments follow one another. -/
theorem ne_deep_of_collapse {next : List Char} {rest : List (List Char)}
    (h : collapse segments = deep :: next :: rest) : next ≠ deep := by
  induction segments with
  | nil => cases h
  | cons first others ih =>
    cases others with
    | nil => cases h
    | cons second others =>
      rw [collapse] at h
      split at h
      · exact ih h
      · next hnot =>
        obtain ⟨rfl, hrest⟩ := List.cons.inj h
        rintro rfl
        have hhead := head?_collapse (second :: others)
        rw [hrest] at hhead
        exact hnot ⟨rfl, (Option.some.inj hhead).symm⟩

/-- Whatever the segments are, but for a lone `**`, their shape fits behind a slash what it fits at
the start. -/
theorem exists_fitsBehindSlash (hnil : normalize segments ≠ [])
    (hdeep : normalize segments ≠ [deep])
    (h : shapeOf directory (normalize segments) = .ok shape)
    (hordered : shape.rangesOrdered = true) :
    ∃ steps ending, FitsBehindSlash directory (normalize segments) shape steps ending := by
  cases hnormal : normalize segments with
  | nil => exact absurd hnormal hnil
  | cons first rest =>
    rw [hnormal] at h
    by_cases hfirst : first = deep
    · subst hfirst
      cases rest with
      | nil => exact absurd hnormal hdeep
      | cons next rest => exact fitsBehindSlash_of_deep (ne_deep_of_collapse hnormal) h hordered
    · exact fitsBehindSlash_of_name hfirst h hordered

/-- Plain segments in front of a slash add what they are to what is fitted. -/
theorem FitsBehindSlash.exists_shape {first : List Char} {others : List (List Char)}
    (h : FitsBehindSlash directory segments shape steps ending)
    (hplain : ∀ segment ∈ first :: others, IsPlain segment) :
    ∃ shape', shapeOf directory (first :: others ++ segments) = .ok shape' ∧
      shape'.rangesOrdered = true ∧
        ∀ q, IsNamedPath q →
          ((shape'.fits? (first ++ others.flatMap ('/' :: ·) ++ '/' :: q)).isSome ↔
            (shape.fits? q).isSome) := by
  refine ⟨_, shapeOf_plain_append hplain h.assemble_eq, ?_, fun q hq => ?_⟩
  · have hordered := h.ordered
    rw [Shape.rangesOrdered] at hordered ⊢
    rw [List.all_append, List.all_append, hordered, Bool.and_true]
    simp [plainSteps, GlobItem.rangesOrdered]
  · rw [Shape.fits?, List.append_assoc, List.append_assoc, fitSteps_literals_append,
      fitSteps_plainSteps]
    exact h.fits_iff q hq

end DesignMetrics.Ignore
