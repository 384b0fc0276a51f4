import DesignMetrics.Files.Tree
import DesignMetrics.Proofs.Sorting
import Mathlib.Data.List.Infix
import Mathlib.Data.List.Nodup

/-!
# Walks below a directory

What stands below a directory is reached by appending its names to any path of the directory, also
to one that goes through links. Only a path that is too long is not walked.
-/

namespace DesignMetrics.Files

/-- A name that a directory can hold. -/
structure IsEntryName (name : String) : Prop where
  ne_empty : name ≠ ""
  ne_dot : name ≠ "."
  ne_dots : name ≠ ".."
  no_slash : '/' ∉ name.toList
  no_null : '\x00' ∉ name.toList
  size_le : name.utf8ByteSize ≤ Tree.longestName

instance (name : String) : Decidable (IsEntryName name) :=
  decidable_of_iff
    (name ≠ "" ∧ name ≠ "." ∧ name ≠ ".." ∧ '/' ∉ name.toList ∧ '\x00' ∉ name.toList ∧
      name.utf8ByteSize ≤ Tree.longestName)
    ⟨fun ⟨h₁, h₂, h₃, h₄, h₅, h₆⟩ => ⟨h₁, h₂, h₃, h₄, h₅, h₆⟩,
      fun h => ⟨h.ne_empty, h.ne_dot, h.ne_dots, h.no_slash, h.no_null, h.size_le⟩⟩

namespace Tree

/-- A tree as files can be arranged: nothing stands at a place twice, and what is below the current
directory has names that directories can hold. -/
structure WellFormed (t : Tree) : Prop where
  nodup : (t.entries.map Prod.fst).Nodup
  entryName : ∀ e ∈ t.entries, home <+: e.1.dropLast → ∀ name ∈ e.1.getLast?, IsEntryName name

instance (t : Tree) : Decidable t.WellFormed :=
  decidable_of_iff
    ((t.entries.map Prod.fst).Nodup ∧
      ∀ e ∈ t.entries, home <+: e.1.dropLast → ∀ name ∈ e.1.getLast?, IsEntryName name)
    ⟨fun h => ⟨h.1, h.2⟩, fun h => ⟨h.nodup, h.entryName⟩⟩

variable {t : Tree} {l : Location} {name : String} {names : List String}

/-! ## What stands where -/

theorem node?_append_singleton : t.node? (l ++ [name]) = t.entries.lookup (l ++ [name]) :=
  if_neg (List.append_ne_nil_of_right_ne_nil l (List.cons_ne_nil name []))

theorem mem_entries_of_node? {n : Node} (hl : l ≠ []) (h : t.node? l = some n) :
    (l, n) ∈ t.entries := by
  rw [node?, if_neg hl, List.lookup_eq_some_iff] at h
  obtain ⟨_, _, heq, -⟩ := h
  rw [heq]
  exact List.mem_append_right _ List.mem_cons_self

/-- The names in a directory are those under which something stands. -/
theorem mem_namesIn : name ∈ t.namesIn l ↔ (t.node? (l ++ [name])).isSome := by
  rw [namesIn, (sortBy_perm _ _).mem_iff, node?_append_singleton, List.lookup_isSome_iff,
    List.mem_filterMap]
  refine exists_congr fun e => and_congr_right fun _ => ?_
  rw [beq_iff_eq]
  constructor
  · intro h
    split at h
    · next hl =>
      rw [← hl, List.dropLast_append_getLast? name h]
    · cases h
  · intro h
    rw [← h, if_pos List.dropLast_concat, List.getLast?_concat]

theorem nodup_namesIn (hnodup : (t.entries.map Prod.fst).Nodup) (l : Location) :
    (t.namesIn l).Nodup := by
  rw [namesIn, (sortBy_perm _ _).nodup_iff]
  have hlocations : (t.entries.map Prod.fst).filterMap (fun l' =>
      if l'.dropLast = l then l'.getLast? else none) = t.entries.filterMap fun e =>
        if e.1.dropLast = l then e.1.getLast? else none := List.filterMap_map
  rw [← hlocations]
  refine hnodup.filterMap fun l₁ l₂ name h₁ h₂ => ?_
  rw [Option.mem_def, Option.ite_none_right_eq_some] at h₁ h₂
  rw [← List.dropLast_append_getLast? name h₁.2, ← List.dropLast_append_getLast? name h₂.2,
    h₁.1, h₂.1]

/-! ## Steps -/

section Steps

variable {purpose : Purpose} {follow : Location → List String → Except Obstacle Place}
  {here : Location} {rest : List String}

theorem stepAlong_skip (h : name = "." ∨ name = "") :
    t.stepAlong purpose follow here (name :: rest) = t.stepAlong purpose follow here rest := by
  rw [stepAlong, if_pos (by simpa using h)]

theorem stepAlong_up :
    t.stepAlong purpose follow here (".." :: rest) =
      t.stepAlong purpose follow here.dropLast rest := by
  rw [stepAlong, if_neg (by decide), if_pos rfl]

/-- Where a walk that does not write is told to go on, it looks at what stands under the name. -/
theorem stepAlong_name (hdot : ¬(name = "." ∨ name = "")) (hdots : name ≠ "..")
    (hp : purpose ≠ .writing) :
    t.stepAlong purpose follow here (name :: rest) =
      if longestName < name.utf8ByteSize then .error .nameTooLong
      else
        match t.node? (here ++ [name]) with
        | none => if rest = [] then .ok (.free (here ++ [name])) else .error .notFound
        | some .directory => t.stepAlong purpose follow (here ++ [name]) rest
        | some (.link target) =>
          if rest = [] ∧ purpose = .naming then .ok (.taken (here ++ [name]) (.link target))
          else
            follow (if target.toList.head? = some '/' then [] else here)
              (targetNames target ++ rest)
        | some n =>
          if rest = [] then .ok (.taken (here ++ [name]) n) else .error .notDirectory := by
  rw [stepAlong, if_neg (by simpa using hdot), if_neg hdots, if_neg (by simp [hp])]
  split
  · rfl
  · show (match t.node? (here ++ [name]) with
      | none => _
      | some .directory => _
      | some (.link _) => _
      | some _ => _) = _
    simp only [List.isEmpty_iff, Bool.and_eq_true, decide_eq_true_eq]

end Steps

/-! ## Walks -/

/-- A walk that goes on from where a walk has come to a directory goes the same way before. -/
theorem walkWithin_append {m : Location} {links : Nat} {here : Location}
    (h : t.walkWithin .seeing links here names = .ok (.taken m .directory)) :
    ∃ left, ∀ purpose ≠ .writing, ∀ rest ≠ [],
      t.walkWithin purpose links here (names ++ rest) = t.walkWithin purpose (left + 1) m rest := by
  -- what is left of the links depends on those that were followed on the way to the directory
  induction links generalizing here names with
  | zero => cases h
  | succ links ih =>
    induction names generalizing here with
    | nil =>
      obtain rfl : here = m := by
        cases h
        rfl
      exact ⟨links, fun _ _ _ _ => rfl⟩
    | cons name names ihnames =>
      simp only [List.cons_append]
      rw [walkWithin] at h
      by_cases hdot : name = "." ∨ name = ""
      · rw [stepAlong_skip hdot] at h
        obtain ⟨left, hleft⟩ := ihnames h
        refine ⟨left, fun purpose hp rest hr => ?_⟩
        rw [walkWithin, stepAlong_skip hdot]
        exact hleft purpose hp rest hr
      by_cases hdots : name = ".."
      · subst hdots
        rw [stepAlong_up] at h
        obtain ⟨left, hleft⟩ := ihnames h
        refine ⟨left, fun purpose hp rest hr => ?_⟩
        rw [walkWithin, stepAlong_up]
        exact hleft purpose hp rest hr
      rw [stepAlong_name hdot hdots (by decide)] at h
      by_cases hlong : longestName < name.utf8ByteSize
      · rw [if_pos hlong] at h
        cases h
      rw [if_neg hlong] at h
      -- a file ends the walk, and so does a free name
      split at h
      · split at h <;> cases h
      · next hn =>
        obtain ⟨left, hleft⟩ := ihnames h
        refine ⟨left, fun purpose hp rest hr => ?_⟩
        rw [walkWithin, stepAlong_name hdot hdots hp, if_neg hlong, hn]
        exact hleft purpose hp rest hr
      · next target hn =>
        rw [if_neg (by simp)] at h
        obtain ⟨left, hleft⟩ := ih h
        refine ⟨left, fun purpose hp rest hr => ?_⟩
        rw [walkWithin, stepAlong_name hdot hdots hp, if_neg hlong, hn]
        show (if names ++ rest = [] ∧ _ then _ else _) = _
        rw [if_neg (by simp [hr]), ← List.append_assoc]
        exact hleft purpose hp rest hr
      · next hdirectory _ _ =>
        split at h
        · cases h
          exact absurd rfl hdirectory
        · cases h

/-- What holds of every place where a walk can come to its end holds where it does. The names that
are walked are those that were given and those of links on the way. -/
theorem of_walkWithin (Holds : Place → Prop) (Named : String → Prop) {purpose : Purpose}
    {links : Nat} {here : Location} {place : Place}
    (hdirectory : ∀ l, Holds (.taken l .directory))
    (htaken : ∀ l n, t.node? l = some n → Holds (.taken l n))
    (hfree : ∀ l name, Named name → ¬(name = "." ∨ name = "") → name ≠ ".." →
      name.utf8ByteSize ≤ longestName → t.node? (l ++ [name]) = none → Holds (.free (l ++ [name])))
    (htarget : ∀ l target, t.node? l = some (.link target) →
      ∀ name ∈ targetNames target, Named name)
    (hnames : ∀ name ∈ names, Named name)
    (h : t.walkWithin purpose links here names = .ok place) : Holds place := by
  -- with each link that is followed, the names change and one link less may be followed
  induction links generalizing here names with
  | zero => cases h
  | succ links ih =>
    rw [walkWithin] at h
    induction names generalizing here with
    | nil =>
      cases h
      exact hdirectory here
    | cons name names ihnames =>
      rw [List.forall_mem_cons] at hnames
      rw [stepAlong] at h
      simp only [Bool.or_eq_true, decide_eq_true_eq] at h
      split at h
      · exact ihnames hnames.2 h
      next hdot =>
      split at h
      · exact ihnames hnames.2 h
      next hdots =>
      split at h
      · cases h
      split at h
      · cases h
      next hlong =>
      split at h
      · next hn =>
        split at h <;> cases h
        exact hfree here name hnames.1 hdot hdots (Nat.not_lt.1 hlong) hn
      · exact ihnames hnames.2 h
      · next target hn =>
        split at h
        · cases h
          exact htaken _ _ hn
        · exact ih (List.forall_mem_append.2 ⟨htarget _ target hn, hnames.2⟩) h
      · next n _ _ hn =>
        split at h <;> cases h
        exact htaken _ _ hn

/-- What a walk ends at stands there, unless it is a directory. -/
theorem node?_of_walkWithin {purpose : Purpose} {links : Nat} {here : Location} {n : Node}
    (h : t.walkWithin purpose links here names = .ok (.taken l n)) :
    n = .directory ∨ t.node? l = some n := by
  refine of_walkWithin
    (fun place => ∀ l n, place = .taken l n → n = .directory ∨ t.node? l = some n) (fun _ => True)
    ?_ ?_ ?_ (fun _ _ _ _ _ => trivial) (fun _ _ => trivial) h l n rfl
  · rintro l _ _ ⟨⟩
    exact .inl rfl
  · rintro l n hn _ _ ⟨⟩
    exact .inr hn
  · rintro _ _ _ _ _ _ _ _ _ ⟨⟩

/-! ## What paths lead to -/

section Paths

variable {p : Path} {purpose : Purpose}

theorem walk_of_long (hnull : ∀ name ∈ p.names, '\x00' ∉ name.toList)
    (hlong : longestPath < p.toString.utf8ByteSize) :
    t.walk purpose p = .error (.blocked .nameTooLong p.toString) := by
  rw [walk, if_neg (by simpa using hnull), if_pos hlong]

theorem walk_of_short (hnull : ∀ name ∈ p.names, '\x00' ∉ name.toList)
    (hshort : ¬longestPath < p.toString.utf8ByteSize) :
    t.walk purpose p =
      (t.walkWithin purpose 41 (if p.isAbsolute then [] else home) p.names).mapError
        (.blocked · p.toString) := by
  rw [walk, if_neg (by simpa using hnull), if_neg hshort]

theorem walkWithin_of_walk {place : Place} (h : t.walk purpose p = .ok place) :
    (∀ name ∈ p.names, '\x00' ∉ name.toList) ∧
      t.walkWithin purpose 41 (if p.isAbsolute then [] else home) p.names = .ok place := by
  rw [walk] at h
  split at h
  · cases h
  · next hnull =>
    split at h
    · cases h
    · refine ⟨by simpa using hnull, ?_⟩
      cases hw : t.walkWithin purpose 41 (if p.isAbsolute then [] else home) p.names with
      | error o =>
        rw [hw] at h
        cases h
      | ok _ =>
        rw [hw] at h
        exact congrArg Except.ok (Except.ok.inj h)

/-- What blocks a walk is told with the path that was to be walked. -/
theorem path_of_find {o : Obstacle} {path : String} (h : t.find p = .error (.blocked o path)) :
    path = p.toString := by
  unfold find at h
  split at h
  · cases h
  · cases h
    rfl
  · next e hwalk =>
    cases h
    -- a walk tells its errors with the path as it was given
    rw [walk] at hwalk
    split at hwalk
    · cases hwalk
    · split at hwalk
      · cases hwalk
        rfl
      · cases hwithin : t.walkWithin .seeing 41 (if p.isAbsolute then [] else home) p.names with
        | ok _ =>
          rw [hwithin] at hwalk
          cases hwalk
        | error _ =>
          rw [hwithin] at hwalk
          cases hwalk
          rfl

theorem isDirectory_of_taken {m : Location} {n : Node} (h : t.walk .seeing p = .ok (.taken m n)) :
    t.isDirectory p = .ok (n = .directory) := by
  unfold isDirectory find? find
  rw [h]
  simp [Except.map]

theorem isDirectory_of_long {path : String}
    (h : t.walk .seeing p = .error (.blocked .nameTooLong path)) :
    t.isDirectory p = .error (.blocked .nameTooLong path) := by
  unfold isDirectory find? find
  rw [h]
  rfl

/-- Only a name that is too long leaves open whether a path leads to a directory. -/
theorem isDirectory_eq_error {e : FileError} (h : t.isDirectory p = .error e) :
    e = .blocked .nameTooLong p.toString := by
  unfold isDirectory find? at h
  split at h
  · cases h
  · next path hfind =>
    cases h
    rw [path_of_find hfind]
  · cases h

/-- It cannot be told whether a path leads to a directory if the walk meets a name that is too
long. -/
theorem isDirectory_eq_error_iff {e : FileError} :
    t.isDirectory p = .error e ↔
      e = .blocked .nameTooLong p.toString ∧ t.walk .seeing p = .error e := by
  constructor
  · intro h
    obtain rfl := isDirectory_eq_error h
    refine ⟨rfl, ?_⟩
    unfold isDirectory find? find at h
    cases hwalk : t.walk .seeing p with
    | ok place =>
      rw [hwalk] at h
      cases place <;> cases h
    | error e =>
      rw [hwalk] at h
      split at h
      · cases h
      · next hfind =>
        cases h
        exact congrArg Except.error (Except.error.inj hfind)
      · cases h
  · rintro ⟨rfl, h⟩
    exact isDirectory_of_long h

/-- What is found to be a directory can be listed. -/
theorem exists_taken_of_isDirectory (h : t.isDirectory p = .ok true) :
    ∃ m, t.walk .seeing p = .ok (.taken m .directory) := by
  cases hwalk : t.walk .seeing p with
  | error e =>
    unfold isDirectory find? find at h
    rw [hwalk] at h
    split at h
    · next hfind => cases hfind
    · cases h
    · cases h
  | ok place =>
    cases place with
    | taken m n =>
      have hdirectory : n = .directory := by
        rw [isDirectory_of_taken hwalk] at h
        exact of_decide_eq_true (Except.ok.inj h)
      exact ⟨m, by rw [hdirectory]⟩
    | free m =>
      unfold isDirectory find? find at h
      rw [hwalk] at h
      cases h

theorem isLink_of_taken {m : Location} {n : Node} (h : t.walk .naming p = .ok (.taken m n)) :
    t.isLink p = true ↔ ∃ target, n = .link target := by
  unfold isLink
  rw [h]
  cases n <;> simp

theorem list_of_taken {m : Location} (h : t.walk .seeing p = .ok (.taken m .directory)) :
    t.list p = .ok (m, t.namesIn m) := by
  unfold list
  rw [h]

end Paths

/-! ## Real directories -/

/-- Each name on the way down from `l` stands for a directory itself, none for a link. -/
def Descends (t : Tree) (l : Location) (names : List String) : Prop :=
  ∀ front, front ≠ [] → front <+: names → t.node? (l ++ front) = some .directory

theorem descends_concat :
    t.Descends l (names ++ [name]) ↔
      t.Descends l names ∧ t.node? (l ++ (names ++ [name])) = some .directory := by
  constructor
  · intro h
    refine ⟨fun front hne hfront => h front hne (hfront.trans (List.prefix_append _ _)), ?_⟩
    exact h _ (List.append_ne_nil_of_right_ne_nil _ (List.cons_ne_nil _ _)) (List.prefix_refl _)
  · rintro ⟨h, hlast⟩ front hne hfront
    obtain rfl | hfront := List.prefix_concat_iff.1 hfront
    · exact hlast
    · exact h front hne hfront

theorem WellFormed.entryName_of_node? (hw : t.WellFormed) (hl : home <+: l)
    (h : (t.node? (l ++ (names ++ [name]))).isSome) : IsEntryName name := by
  obtain ⟨n, hn⟩ := Option.isSome_iff_exists.1 h
  rw [← List.append_assoc] at hn
  refine hw.entryName _ (mem_entries_of_node? (by simp) hn) ?_ name List.getLast?_concat
  rw [List.dropLast_concat]
  exact hl.trans (List.prefix_append l names)

theorem Descends.entryName (h : t.Descends l names) (hw : t.WellFormed) (hl : home <+: l)
    {name : String} (hname : name ∈ names) : IsEntryName name := by
  obtain ⟨front, rest, rfl⟩ := List.append_of_mem hname
  have hdirectory := h (front ++ [name]) (by simp) ⟨rest, by simp⟩
  exact hw.entryName_of_node? hl (by rw [hdirectory]; rfl)

/-- Each directory below a location is found once. -/
theorem nodup_directoriesBelow (h : (t.entries.map Prod.fst).Nodup) (l : Location) :
    (t.directoriesBelow l).Nodup := by
  -- every directory that is listed stands below under the rest of its location
  have hbelow : ∀ e ∈ t.entries, ∀ below,
      (if e.2 = .directory ∧ l.isPrefixOf e.1 ∧ l ≠ e.1 then some (e.1.drop l.length)
        else none) = some below → below ≠ [] ∧ e.1 = l ++ below := by
    intro e _ below he
    rw [Option.ite_none_right_eq_some, List.isPrefixOf_iff_prefix] at he
    obtain ⟨⟨-, hprefix, hne⟩, he⟩ := he
    obtain ⟨rest, hrest⟩ := hprefix
    rw [← hrest, List.drop_left, Option.some.injEq] at he
    subst he
    refine ⟨?_, hrest.symm⟩
    rintro rfl
    exact hne (by rw [← hrest, List.append_nil])
  rw [directoriesBelow, List.nodup_cons]
  constructor
  · intro hmem
    obtain ⟨e, he, hnil⟩ := List.mem_filterMap.1 hmem
    exact (hbelow e he [] hnil).1 rfl
  · rw [List.Nodup, List.pairwise_filterMap]
    rw [List.Nodup, List.pairwise_map] at h
    refine h.imp_of_mem fun {e e'} he he' hne below hbelow₁ below' hbelow₂ heq => ?_
    subst heq
    exact hne ((hbelow e he below hbelow₁).2.trans (hbelow e' he' below hbelow₂).2.symm)

/-- No real directory lies deeper than there are entries. -/
theorem Descends.length_le (h : t.Descends l names) : names.length ≤ t.entries.length := by
  let places := (List.range names.length).map fun i => l ++ names.take (i + 1)
  have hlt : ∀ i ∈ List.range names.length, i < names.length := fun _ => List.mem_range.1
  have hnodup : places.Nodup := by
    refine List.Nodup.map_on (fun i hi j hj heq => ?_) List.nodup_range
    have hlength := congrArg List.length (List.append_cancel_left heq)
    rw [List.length_take_of_le (hlt i hi), List.length_take_of_le (hlt j hj)] at hlength
    exact Nat.succ.inj hlength
  have hsub : places ⊆ t.entries.map Prod.fst := by
    intro place hplace
    obtain ⟨i, hi, rfl⟩ := List.mem_map.1 hplace
    have hne : names.take (i + 1) ≠ [] := by
      rw [Ne, List.take_eq_nil_iff, not_or]
      exact ⟨Nat.succ_ne_zero i, List.ne_nil_of_length_pos (Nat.zero_lt_of_lt (hlt i hi))⟩
    have hdirectory := h _ hne (List.take_prefix _ _)
    exact List.mem_map_of_mem
      (mem_entries_of_node? (List.append_ne_nil_of_right_ne_nil l hne) hdirectory)
  have hle := (List.subperm_of_subset hnodup hsub).length_le
  rwa [List.length_map, List.length_range, List.length_map] at hle

theorem stepAlong_of_directory {purpose : Purpose} (hp : purpose ≠ .writing) {rest : List String}
    {follow : Location → List String → Except Obstacle Place} (hname : IsEntryName name)
    (hn : t.node? (l ++ [name]) = some .directory) :
    t.stepAlong purpose follow l (name :: rest) =
      t.stepAlong purpose follow (l ++ [name]) rest := by
  rw [stepAlong_name (not_or.2 ⟨hname.ne_dot, hname.ne_empty⟩) hname.ne_dots hp,
    if_neg (Nat.not_lt.2 hname.size_le), hn]

/-- The last step of a walk takes what stands there, unless it is a link to be followed. -/
theorem stepAlong_last {purpose : Purpose} (hp : purpose ≠ .writing) {n : Node}
    {follow : Location → List String → Except Obstacle Place} (hname : IsEntryName name)
    (hn : t.node? (l ++ [name]) = some n) (hlink : purpose = .naming ∨ ∀ target, n ≠ .link target) :
    t.stepAlong purpose follow l [name] = .ok (.taken (l ++ [name]) n) := by
  rw [stepAlong_name (not_or.2 ⟨hname.ne_dot, hname.ne_empty⟩) hname.ne_dots hp,
    if_neg (Nat.not_lt.2 hname.size_le), hn]
  cases n with
  | directory => rfl
  | link target =>
    obtain hnaming | hne := hlink
    · exact if_pos ⟨rfl, hnaming⟩
    · exact absurd rfl (hne target)
  | file _ => exact if_pos rfl
  | device _ => exact if_pos rfl

/-- A walk passes through real directories name by name. -/
theorem Descends.walkWithin_append (h : t.Descends l names) (hw : t.WellFormed) (hl : home <+: l)
    {purpose : Purpose} (hp : purpose ≠ .writing) {links : Nat} {rest : List String} :
    t.walkWithin purpose (links + 1) l (names ++ rest) =
      t.walkWithin purpose (links + 1) (l ++ names) rest := by
  induction names using List.reverseRecOn generalizing rest with
  | nil => simp
  | append_singleton names name ih =>
    obtain ⟨hnames, hlast⟩ := descends_concat.1 h
    have hname : IsEntryName name := h.entryName hw hl (by simp)
    rw [List.append_assoc, ih hnames, List.singleton_append, ← List.append_assoc]
    rw [← List.append_assoc] at hlast
    exact stepAlong_of_directory hp hname hlast

/-! ## Below a directory -/

section Below

variable {root : Path} {above : List String} {n : Node} (hw : t.WellFormed)
  (hroot : t.walk .seeing root = .ok (.taken l .directory)) (hl : home <+: l)
  (habove : t.Descends l above) (hn : t.node? (l ++ (above ++ [name])) = some n)
include hw hroot hl habove hn

/-- Appended to a path of the directory, names lead to where they stand unless the path gets too
long. -/
theorem walk_below :
    (∀ purpose ≠ .writing, t.walk purpose (root.append (above ++ [name])) =
      .error (.blocked .nameTooLong (root.append (above ++ [name])).toString)) ∨
    ∃ left, ∀ purpose ≠ .writing, t.walk purpose (root.append (above ++ [name])) =
      (t.stepAlong purpose (t.walkWithin purpose left) (l ++ above) [name]).mapError
        (.blocked · (root.append (above ++ [name])).toString) := by
  obtain ⟨hrootNull, hrootWithin⟩ := walkWithin_of_walk hroot
  have hname : IsEntryName name := hw.entryName_of_node? hl (by rw [hn]; rfl)
  have hnull : ∀ name' ∈ (root.append (above ++ [name])).names, '\x00' ∉ name'.toList := by
    intro name' hname'
    obtain hname' | hname' := List.mem_append.1 hname'
    · exact hrootNull name' hname'
    · obtain hname' | hname' := List.mem_append.1 hname'
      · exact (habove.entryName hw hl hname').no_null
      · rw [List.mem_singleton.1 hname']
        exact hname.no_null
  by_cases hlong : longestPath < (root.append (above ++ [name])).toString.utf8ByteSize
  · exact .inl fun purpose _ => walk_of_long hnull hlong
  · obtain ⟨left, hleft⟩ := Tree.walkWithin_append hrootWithin
    refine .inr ⟨left, fun purpose hp => ?_⟩
    have hnames : t.walkWithin purpose 41 (if root.isAbsolute then [] else home)
        (root.names ++ (above ++ [name])) =
          t.stepAlong purpose (t.walkWithin purpose left) (l ++ above) [name] := by
      rw [hleft purpose hp _ (by simp), habove.walkWithin_append hw hl hp, walkWithin]
    rw [walk_of_short hnull hlong]
    exact congrArg (Except.mapError _) hnames

/-- A real directory is found as one, unless its path is too long. -/
theorem walk_of_directory (hdirectory : n = .directory) {isDirectory : Bool}
    (h : t.isDirectory (root.append (above ++ [name])) = .ok isDirectory) :
    t.walk .seeing (root.append (above ++ [name])) =
        .ok (.taken (l ++ (above ++ [name])) .directory) ∧
      t.isLink (root.append (above ++ [name])) = false := by
  have hname : IsEntryName name := hw.entryName_of_node? hl (by rw [hn]; rfl)
  obtain hlong | ⟨left, hleft⟩ := walk_below hw hroot hl habove hn
  · rw [isDirectory_of_long (hlong _ (by decide))] at h
    cases h
  · rw [hdirectory, ← List.append_assoc] at hn
    have htaken : ∀ purpose ≠ .writing, t.walk purpose (root.append (above ++ [name])) =
        .ok (.taken (l ++ (above ++ [name])) .directory) := by
      intro purpose hp
      rw [hleft purpose hp, stepAlong_of_directory hp hname hn, List.append_assoc]
      rfl
    refine ⟨htaken _ (by decide), ?_⟩
    rw [Bool.eq_false_iff, Ne, isLink_of_taken (htaken _ (by decide))]
    simp

/-- What is found as a directory and is no link is a real directory. -/
theorem eq_directory (h : t.isDirectory (root.append (above ++ [name])) = .ok true)
    (hlink : t.isLink (root.append (above ++ [name])) = false) : n = .directory := by
  have hname : IsEntryName name := hw.entryName_of_node? hl (by rw [hn]; rfl)
  obtain hlong | ⟨left, hleft⟩ := walk_below hw hroot hl habove hn
  · rw [isDirectory_of_long (hlong _ (by decide))] at h
    cases h
  · by_contra hne
    rw [← List.append_assoc] at hn
    by_cases hlinked : ∃ target, n = .link target
    · have htaken : t.walk .naming (root.append (above ++ [name])) =
          .ok (.taken (l ++ above ++ [name]) n) := by
        rw [hleft _ (by decide), stepAlong_last (by decide) hname hn (.inl rfl)]
        rfl
      rw [(isLink_of_taken htaken).2 hlinked] at hlink
      cases hlink
    · have htaken : t.walk .seeing (root.append (above ++ [name])) =
          .ok (.taken (l ++ above ++ [name]) n) := by
        rw [hleft _ (by decide), stepAlong_last (by decide) hname hn (.inr (not_exists.1 hlinked))]
        rfl
      rw [isDirectory_of_taken htaken, decide_eq_false hne] at h
      cases h

end Below

end Tree
end DesignMetrics.Files
