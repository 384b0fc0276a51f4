import DesignMetrics.Proofs.Ignore.Precedence

/-!
# The last line that fits a directory

A directory is looked up as it is written and with a slash at its end, and is ignored if one of the
two answers says so. A line may fit one of these forms and not the other, or all of one and only a
directory on the way to the other. So the last line that fits decides if no line in front of it fits
a form better and decides otherwise there.
-/

namespace DesignMetrics.Ignore

open RuleSet (relative)

/-- The forms in which a directory is looked up. -/
def formsOf (path : String) : List (List Char) :=
  [relative path.toList, relative (path.toList ++ ['/'])]

/-- The rule that decides on a path, and how well it fits. -/
def RuleSet.decision? (rules : RuleSet) (path : List Char) : Option (Rule × Strength) :=
  ((rules.hits path).find? (·.2 = .whole)).or (rules.hits path).head?

/-- The last of the lines that fit a directory in one of its forms has this rule, and the lines in
front of it have the `earlier` ones. -/
structure IsLastFit (lines : List String) (path : String) (earlier : RuleSet) (r : Rule) :
    Prop where
  fits : ∃ form ∈ formsOf path, (r.shape.fits? form).isSome
  isLast : ∃ before line after, lines = before ++ line :: after ∧
    RuleSet.ofLines before = .ok earlier ∧ Rule.ofLine line = .ok (some r) ∧
      ∀ later ∈ after, ∀ form ∈ formsOf path, hit? form later = none

/-- What earlier rules decide on a form is something else, and comes from a better fit: the rule
does not fit the form, or only a directory on the way while the earlier one fits all of it. -/
def IsOutdone (earlier : RuleSet) (r : Rule) (form : List Char) : Prop :=
  ∃ hit ∈ earlier.decision? form, hit.1.ignores ≠ r.ignores ∧
    (r.shape.fits? form = none ∨ r.shape.fits? form = some .directory ∧ hit.2 = .whole)

instance (earlier : RuleSet) (r : Rule) (form : List Char) : Decidable (IsOutdone earlier r form) :=
  inferInstanceAs (Decidable (∃ hit ∈ earlier.decision? form, _))

variable {lines : List String} {path : String} {rules earlier : RuleSet} {r other : Rule}
  {form : List Char}

/-- After the last line that fits, nothing else is hit. -/
theorem IsLastFit.hits_eq (h : IsLastFit lines path earlier r)
    (hrules : RuleSet.ofLines lines = .ok rules) (hform : form ∈ formsOf path) :
    rules.hits form = ((r.shape.fits? form).map (r, ·)).toList ++ earlier.hits form := by
  obtain ⟨before, line, after, rfl, hbefore, hline, hafter⟩ := h.isLast
  have hlate : after.filterMap (hit? form) = [] :=
    List.filterMap_eq_nil_iff.2 fun later hmem => hafter later hmem form hform
  have hown : hit? form line = (r.shape.fits? form).map (r, ·) := by rw [hit?, hline]
  rw [hits_eq_of_ofLines hrules, hits_eq_of_ofLines hbefore, List.filterMap_append,
    List.filterMap_cons, hlate, hown, List.reverse_append]
  cases (r.shape.fits? form).map (r, ·) <;> rfl

/-- On each form the last line that fits decides, or an earlier one that fits it better. -/
theorem IsLastFit.eq_or_decision? {hit : Rule × Strength} (h : IsLastFit lines path earlier r)
    (hrules : RuleSet.ofLines lines = .ok rules) (hform : form ∈ formsOf path)
    (hdecision : rules.decision? form = some hit) :
    hit.1 = r ∨ earlier.decision? form = some hit ∧
      (r.shape.fits? form = none ∨ r.shape.fits? form = some .directory ∧ hit.2 = .whole) := by
  rw [RuleSet.decision?, h.hits_eq hrules hform] at hdecision
  cases hfits : r.shape.fits? form with
  | none =>
    -- the form is left to the lines in front
    rw [hfits] at hdecision
    exact .inr ⟨hdecision, .inl rfl⟩
  | some own =>
    rw [hfits] at hdecision
    cases own with
    | whole =>
      -- a rule that fits all of the form is the first one that is found
      exact .inl (congrArg Prod.fst (Option.some.inj hdecision)).symm
    | directory =>
      -- it yields to a rule that fits all of the form, wherever that stands
      cases hfind : (earlier.hits form).find? (·.2 = .whole) with
      | none =>
        have hown : (r, Strength.directory) = hit := by simpa [hfind] using hdecision
        exact .inl (congrArg Prod.fst hown).symm
      | some whole =>
        obtain rfl : whole = hit := by simpa [hfind] using hdecision
        refine .inr ⟨?_, .inr ⟨rfl, by simpa using List.find?_some hfind⟩⟩
        rw [RuleSet.decision?, hfind]
        rfl

/-- On each form, the last line that fits has its way unless it is outdone there. -/
theorem IsLastFit.ignores_eq (h : IsLastFit lines path earlier r)
    (hrules : RuleSet.ofLines lines = .ok rules) (hform : form ∈ formsOf path)
    (hnot : ¬IsOutdone earlier r form) (hdecisive : rules.decisive? form = some other) :
    other.ignores = r.ignores := by
  obtain ⟨hit, hdecision, rfl⟩ := Option.map_eq_some_iff.1 hdecisive
  obtain heq | ⟨hearlier, hbetter⟩ := h.eq_or_decision? hrules hform hdecision
  · rw [heq]
  · by_contra hne
    exact hnot ⟨hit, hearlier, hne, hbetter⟩

theorem IsLastFit.isSome_decisive? (h : IsLastFit lines path earlier r)
    (hrules : RuleSet.ofLines lines = .ok rules) (hform : form ∈ formsOf path)
    (hfits : (r.shape.fits? form).isSome) : (rules.decisive? form).isSome := by
  obtain ⟨strength, hstrength⟩ := Option.isSome_iff_exists.1 hfits
  rw [RuleSet.decisive?, h.hits_eq hrules hform, hstrength]
  cases (((some strength).map (r, ·)).toList ++ earlier.hits form).find? (·.2 = .whole) <;> rfl

theorem excludes_directory (hpath : path ≠ "") : rules.excludes path true =
    (formsOf path).any fun form => (rules.decisive? form).elim false Rule.ignores := by
  have hne : (path != "") = true := by simpa using hpath
  rw [RuleSet.excludes, hne, formsOf, List.any_cons, List.any_cons, List.any_nil, Bool.or_false]
  rfl

/-- The last line that fits a directory decides on it if it is outdone on none of its forms. -/
theorem excludes_of_isLastFit (hrules : RuleSet.ofLines lines = .ok rules) (hpath : path ≠ "")
    (h : IsLastFit lines path earlier r)
    (hnot : ∀ form ∈ formsOf path, ¬IsOutdone earlier r form) :
    rules.excludes path true = r.ignores := by
  have hsame : ∀ form ∈ formsOf path, ∀ other, rules.decisive? form = some other →
      other.ignores = r.ignores := fun form hform _ hdecisive =>
    h.ignores_eq hrules hform (hnot form hform) hdecisive
  obtain ⟨form, hform, hfits⟩ := h.fits
  obtain ⟨other, hother⟩ := Option.isSome_iff_exists.1 (h.isSome_decisive? hrules hform hfits)
  rw [excludes_directory hpath]
  cases hr : r.ignores with
  | true =>
    -- the form that it fits is enough
    refine List.any_eq_true.2 ⟨form, hform, ?_⟩
    rw [hother]
    exact (hsame form hform other hother).trans hr
  | false =>
    -- both forms have to be let through
    refine List.any_eq_false.2 fun form hform => ?_
    cases hdecisive : rules.decisive? form with
    | none => exact Bool.false_ne_true
    | some other =>
      rw [Option.elim_some, hsame form hform other hdecisive, hr]
      exact Bool.false_ne_true

/-- A line that takes a directory back, although one in between ignores it for being a directory. -/
theorem excludes_of_isLastFit_takenBack :
    ∃ rules, RuleSet.ofLines ["*.d", "x.d/", "!x.d", "y"] = .ok rules ∧
      rules.excludes "x.d" true = false := by
  let named (c : Char) : Step := .item (.literal c)
  let any : Rule := ⟨true, .path [.leadingDirectories, .item .many, named '.', named 'd'] .entry⟩
  let xSteps : List Step := [.leadingDirectories, named 'x', named '.', named 'd']
  let rules : RuleSet := [any, ⟨true, .path xSteps .directory⟩, ⟨false, .path xSteps .entry⟩,
    ⟨true, .path [.leadingDirectories, named 'y'] .entry⟩]
  have hrules : RuleSet.ofLines ["*.d", "x.d/", "!x.d", "y"] = .ok rules := by decide +kernel
  have hlast : IsLastFit ["*.d", "x.d/", "!x.d", "y"] "x.d" [any, ⟨true, .path xSteps .directory⟩]
      ⟨false, .path xSteps .entry⟩ := by
    refine ⟨by decide +kernel, ["*.d", "x.d/"], "!x.d", ["y"], rfl, ?_⟩
    decide +kernel
  exact ⟨rules, hrules, excludes_of_isLastFit hrules (by decide) hlast (by decide +kernel)⟩

/-- A star alone fits all of every path, and outdoes a line that speaks of directories only. -/
theorem exists_isLastFit_excludes_ne :
    ∃ rules earlier r, RuleSet.ofLines ["*", "!*/"] = .ok rules ∧
      IsLastFit ["*", "!*/"] "foo" earlier r ∧ r.ignores = false ∧
        rules.excludes "foo" true = true := by
  refine ⟨[⟨true, .anything⟩, ⟨false, .someSlash .directory⟩], [⟨true, .anything⟩],
    ⟨false, .someSlash .directory⟩, by decide +kernel, ?_, rfl, by decide +kernel⟩
  refine ⟨by decide +kernel, ["*"], "!*/", [], rfl, ?_⟩
  decide +kernel

/-- A line that does not fit the form without a slash leaves that one to the lines before. -/
example : (RuleSet.ofLines ["foo", "!foo/"]).map (·.excludes "foo" true) = .ok true := by
  decide +kernel

end DesignMetrics.Ignore
