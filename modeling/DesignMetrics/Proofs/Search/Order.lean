import DesignMetrics.Proofs.Analysis
import DesignMetrics.Proofs.Files.Listing
import DesignMetrics.Proofs.Ignore.Precedence
import Mathlib.Data.List.Shortlex

/-!
# The order of what is found

A search sorts nothing but the names in one directory, and goes through all directories of one
depth before it goes deeper. That puts all that it finds in one order: a path comes before another
one that is made of more names, and among paths of as many names the first names that differ decide.
It is not the order of the paths as texts, in which a slash would be compared with the characters of
names.
-/

namespace DesignMetrics

open Files (Path Tree)
open Source (SourceFile)

/-! ## The order of paths -/

namespace Search

/-- The names that a path is made of. -/
def namesOf (path : String) : List String :=
  (Text.splitOn '/' path.toList).map String.ofList

/-- A path comes before another one if it is made of fewer names, or of as many of which the first
one that differs comes earlier by its code points. -/
def Precedes (path other : String) : Prop :=
  List.Shortlex (· < ·) (namesOf path) (namesOf other)

instance (path other : String) : Decidable (Precedes path other) :=
  decidable_of_iff _ List.shortlex_def.symm

/-- The names of a path are those it was joined from. -/
theorem namesOf_intercalate {names : List String} (hne : names ≠ [])
    (h : ∀ name ∈ names, '/' ∉ name.toList) : namesOf ("/".intercalate names) = names := by
  rw [namesOf, Text.splitOn_intercalate_slash hne h, List.map_map]
  simp

/-- What stands in an earlier one of two directories of one depth comes first. -/
theorem lex_append {as bs : List String} (hlength : as.length = bs.length)
    (h : List.Lex (· < ·) as bs) (cs ds : List String) :
    List.Lex (· < ·) (as ++ cs) (bs ++ ds) := by
  induction h with
  | nil => cases hlength
  | cons _ ih => exact .cons (ih (Nat.succ.inj hlength))
  | rel hlt => exact .rel hlt

/-! ## Levels in order -/

variable {s : Search} {k depth : Nat} {directories : List (List String)}

/-- The names that a directory shows. -/
def listed (s : Search) (above : List String) : List String :=
  match s.tree.list (s.root.append above) with
  | .ok (_, names) => names
  | .error _ => []

/-- The names in some directories, each beside its directory. -/
def placesIn (s : Search) (directories : List (List String)) : List (List String × String) :=
  directories.flatMap fun above => (s.listed above).map (above, ·)

/-- The way from the root to a name in a directory. -/
def wayTo (place : List String × String) : List String :=
  place.1 ++ [place.2]

/-- Ways of one length in the order of their names, none of which has a slash in it. -/
structure InOrder (k : Nat) (ways : List (List String)) : Prop where
  length_eq : ∀ way ∈ ways, way.length = k
  sorted : ways.Pairwise (List.Lex (· < ·))
  no_slash : ∀ way ∈ ways, ∀ name ∈ way, '/' ∉ name.toList

/-- Some of the ways of a level are in order if all of them are. -/
theorem InOrder.sublist {ways ways' : List (List String)} (h : InOrder k ways)
    (hsub : ways'.Sublist ways) : InOrder k ways' where
  length_eq way hway := h.length_eq way (hsub.subset hway)
  sorted := h.sorted.sublist hsub
  no_slash way hway := h.no_slash way (hsub.subset hway)

/-- The root is the only way of its level. -/
theorem inOrder_root : InOrder 0 [[]] where
  length_eq := by simp
  sorted := by simp
  no_slash := by simp

/-- What is listed in a directory are its names, or nothing if it cannot be listed. -/
theorem listed_eq (above : List String) :
    s.listed above = [] ∨ ∃ l, s.listed above = s.tree.namesIn l := by
  unfold listed
  split
  · next l names h =>
    unfold Tree.list at h
    split at h <;> cases h
    exact .inr ⟨l, rfl⟩
  · exact .inl rfl

/-- Names are listed in order. -/
theorem pairwise_listed (hproper : s.tree.Proper) (above : List String) :
    (s.listed above).Pairwise (· < ·) := by
  obtain hnil | ⟨l, hl⟩ := listed_eq (s := s) above
  · rw [hnil]
    exact .nil
  · rw [hl]
    exact Tree.pairwise_namesIn hproper.nodup l

theorem no_slash_of_mem_listed (hproper : s.tree.Proper) {above : List String} {name : String}
    (h : name ∈ s.listed above) : '/' ∉ name.toList := by
  obtain hnil | ⟨l, hl⟩ := listed_eq (s := s) above
  · rw [hnil] at h
    cases h
  · rw [hl] at h
    exact hproper.no_slash_of_mem_namesIn h

/-- The ways to the places of a level go through its directories. -/
theorem mem_map_wayTo {way : List String} :
    way ∈ (s.placesIn directories).map wayTo ↔
      ∃ above ∈ directories, ∃ name ∈ s.listed above, above ++ [name] = way := by
  simp only [placesIn, List.map_flatMap, List.mem_flatMap, List.map_map, List.mem_map]
  rfl

/-- The names in directories of one depth make a level in order. -/
theorem InOrder.placesIn (hproper : s.tree.Proper) (h : InOrder k directories) :
    InOrder (k + 1) ((s.placesIn directories).map wayTo) where
  length_eq way hway := by
    obtain ⟨above, habove, name, -, rfl⟩ := mem_map_wayTo.1 hway
    rw [List.length_append, h.length_eq above habove]
    rfl
  sorted := by
    rw [Search.placesIn, List.map_flatMap, List.pairwise_flatMap]
    refine ⟨?_, h.sorted.imp_of_mem ?_⟩
    · -- within a directory, the names are in order
      intro above _
      rw [List.map_map, List.pairwise_map]
      exact (pairwise_listed hproper above).imp fun hlt => List.Lex.append_left _ (.rel hlt) above
    · -- between two, the directories decide, since they are equally deep
      intro above above' habove habove' hlt way hway way' hway'
      rw [List.map_map, List.mem_map] at hway hway'
      obtain ⟨name, -, rfl⟩ := hway
      obtain ⟨name', -, rfl⟩ := hway'
      exact lex_append ((h.length_eq above habove).trans (h.length_eq above' habove').symm) hlt _ _
  no_slash way hway name hname := by
    obtain ⟨above, habove, last, hlast, rfl⟩ := mem_map_wayTo.1 hway
    obtain hname | hname := List.mem_append.1 hname
    · exact h.no_slash above habove name hname
    · rw [List.mem_singleton.1 hname]
      exact no_slash_of_mem_listed hproper hlast

/-- The directories that are entered next are in order as well. -/
theorem InOrder.next (h : InOrder (k + 1) ((s.placesIn directories).map wayTo)) :
    InOrder (k + 1) (((s.placesIn directories).map fun place =>
      s.visit place.1 place.2).filterMap Visit.directory?) := by
  rw [List.filterMap_map]
  refine h.sublist (filterMap_sublist_map fun place names hnames => ?_)
  exact (eq_of_directory?_visit hnames).symm

/-- If nothing is in the way, all names that are listed are visited. -/
theorem flatMap_visitAll_eq_map
    (hclear : ∀ v ∈ directories.flatMap s.visitAll, v.obstacle? = none) :
    directories.flatMap s.visitAll =
      (s.placesIn directories).map fun place => s.visit place.1 place.2 := by
  rw [placesIn, List.map_flatMap]
  refine List.flatMap_congr fun above habove => ?_
  rw [List.map_map]
  unfold visitAll listed
  split
  · next e he =>
    -- a directory that cannot be listed blocks the search
    have hblocked : Visit.blocked e ∈ directories.flatMap s.visitAll := by
      refine List.mem_flatMap.2 ⟨above, habove, ?_⟩
      rw [visitAll, he]
      exact List.mem_singleton_self _
    cases hclear _ hblocked
  · next l names hnames =>
    simp only [hnames]
    rfl

/-- A search visits the directories of a level, and then those that it entered there. -/
theorem levels_succ (depth : Nat) (directories : List (List String)) :
    s.levels (depth + 1) directories = directories.flatMap s.visitAll ++
      s.levels depth ((directories.flatMap s.visitAll).filterMap Visit.directory?) := by
  cases directories with
  | nil => cases depth <;> rfl
  | cons _ _ =>
    rw [levels]
    exact List.cons_ne_nil _ _

/-- All that is visited from a level on comes in order, level after level. -/
theorem exists_places_of_levels (hproper : s.tree.Proper) (h : InOrder k directories)
    (hclear : ∀ v ∈ s.levels depth directories, v.obstacle? = none) :
    ∃ places : List (List String × String),
      s.levels depth directories = places.map (fun place => s.visit place.1 place.2) ∧
      (places.map wayTo).Pairwise (List.Shortlex (· < ·)) ∧
      ∀ way ∈ places.map wayTo, k < way.length ∧ ∀ name ∈ way, '/' ∉ name.toList := by
  induction depth generalizing k directories with
  | zero => exact ⟨[], rfl, by simp, by simp⟩
  | succ depth ih =>
    rw [levels_succ, List.forall_mem_append] at hclear
    have hvisits := flatMap_visitAll_eq_map hclear.1
    have hlevel := h.placesIn hproper
    have hdeeper := hclear.2
    rw [hvisits] at hdeeper
    obtain ⟨places, hplaces, hpairwise, hall⟩ := ih hlevel.next hdeeper
    refine ⟨s.placesIn directories ++ places, ?_, ?_, ?_⟩
    · rw [levels_succ, hvisits, hplaces, List.map_append]
    · -- a level is in order by names, and what comes after it is longer
      rw [List.map_append, List.pairwise_append]
      refine ⟨?_, hpairwise, ?_⟩
      · refine hlevel.sorted.imp_of_mem fun hway hway' hlt => .of_lex ?_ hlt
        rw [hlevel.length_eq _ hway, hlevel.length_eq _ hway']
      · intro way hway way' hway'
        apply List.Shortlex.of_length_lt
        rw [hlevel.length_eq way hway]
        exact (hall way' hway').1
    · rw [List.map_append, List.forall_mem_append]
      constructor
      · intro way hway
        refine ⟨?_, hlevel.no_slash way hway⟩
        rw [hlevel.length_eq way hway]
        exact Nat.lt_succ_self k
      · intro way hway
        exact ⟨Nat.lt_of_succ_lt (hall way hway).1, (hall way hway).2⟩

/-! ## Searches that come to an end -/

/-- A search with a result was never blocked. -/
theorem of_value_run {found : Found} (h : s.run.run.value = .ok found) :
    (∀ v ∈ s.visits, v.obstacle? = none) ∧
      found = ⟨s.visits.filterMap Visit.source?, s.visits.filterMap Visit.failure?⟩ := by
  have hclear : ∀ v ∈ s.visits, v.obstacle? = none := by
    rw [value_run] at h
    split at h
    · cases h
    · next hnone => exact List.findSome?_eq_none_iff.1 hnone
  exact ⟨hclear, Except.ok.inj (h.symm.trans (value_run_of_clear hclear))⟩

/-- What a search with a result has found, sources and failures alike, it has found in order. -/
theorem pairwise_of_value_run (hproper : s.tree.Proper) {found : Found}
    (h : s.run.run.value = .ok found) :
    (found.sources.map SourceFile.name).Pairwise Precedes ∧
      (found.failures.map ReadFailure.file).Pairwise Precedes := by
  obtain ⟨hclear, rfl⟩ := of_value_run h
  obtain ⟨places, hplaces, hpairwise, hall⟩ :=
    exists_places_of_levels hproper inOrder_root hclear
  have hpaths : (places.map fun place => "/".intercalate (place.1 ++ [place.2])).Pairwise
      Precedes := by
    rw [List.pairwise_map] at hpairwise ⊢
    refine hpairwise.imp_of_mem fun {place place'} hplace hplace' hlt => ?_
    have hnames : ∀ name ∈ place.1 ++ [place.2], '/' ∉ name.toList :=
      (hall (wayTo place) (List.mem_map_of_mem hplace)).2
    have hnames' : ∀ name ∈ place'.1 ++ [place'.2], '/' ∉ name.toList :=
      (hall (wayTo place') (List.mem_map_of_mem hplace')).2
    rw [Precedes, namesOf_intercalate (by simp) hnames, namesOf_intercalate (by simp) hnames']
    exact hlt
  have hvisits : s.visits = places.map fun place => s.visit place.1 place.2 := hplaces
  rw [hvisits]
  exact ⟨hpaths.sublist (sources_sublist places), hpaths.sublist (failures_sublist places)⟩

/-! ## Entries in another order -/

section Rearranged

variable {t t' : Tree} {root : Path} {extensions : List String} {respectRules : Bool}
  {rules : Option Ignore.RuleSet}

/-- A visit does not depend on the order of the entries. -/
theorem visit_eq_of_rearranged (h : t.Rearranged t') (above : List String) (name : String) :
    visit ⟨t', root, extensions, rules⟩ above name =
      visit ⟨t, root, extensions, rules⟩ above name := by
  simp only [visit, wants, h.isDirectory_eq, h.isLink_eq, h.readText_eq]
  rfl

theorem visitAll_eq_of_rearranged (h : t.Rearranged t') :
    visitAll ⟨t', root, extensions, rules⟩ = visitAll ⟨t, root, extensions, rules⟩ := by
  funext above
  have hvisit : visit ⟨t', root, extensions, rules⟩ above =
      visit ⟨t, root, extensions, rules⟩ above := funext (visit_eq_of_rearranged h above)
  simp only [visitAll, h.list_eq, hvisit]

/-- The visits of a search do not, and they come in the same order. -/
theorem visits_eq_of_rearranged (h : t.Rearranged t') :
    visits ⟨t', root, extensions, rules⟩ = visits ⟨t, root, extensions, rules⟩ := by
  have hlevels : ∀ depth directories, levels ⟨t', root, extensions, rules⟩ depth directories =
      levels ⟨t, root, extensions, rules⟩ depth directories := by
    intro depth
    induction depth with
    | zero => exact fun _ => rfl
    | succ depth ih =>
      intro directories
      rw [levels_succ, levels_succ, ih, visitAll_eq_of_rearranged h]
  rw [visits, visits, hlevels, h.perm.length_eq]

/-- A search finds the same, however the entries are listed. -/
theorem value_run_of_rearranged (h : t.Rearranged t') :
    (run ⟨t', root, extensions, rules⟩).run.value =
      (run ⟨t, root, extensions, rules⟩).run.value := by
  rw [value_run, value_run, visits_eq_of_rearranged h]

end Rearranged

end Search

namespace Ignore

variable {t t' : Tree} {root : Path}

/-- Whether a directory holds an ignore file does not depend on the order of the entries. -/
theorem holdsFile_eq_of_rearranged (h : t.Rearranged t') :
    holdsFile t' root = holdsFile t root := by
  funext directory
  simp only [holdsFile, h.contains_eq, h.list_eq, h.linksIn_eq, h.inspect_eq]

/-- The directories that hold ignore files are found in one order, however entries are listed. -/
theorem directories_eq_of_rearranged (h : t.Rearranged t') {found : List (List String)}
    (hfound : directories t root = .ok found) : directories t' root = .ok found := by
  unfold directories at hfound ⊢
  obtain ⟨isDirectory, hdirectory, hfound⟩ := bind_eq_ok.1 hfound
  rw [h.isDirectory_eq, hdirectory, h.list_eq]
  cases isDirectory with
  | false => exact hfound
  | true =>
    cases hlist : t.list root with
    | error e =>
      rw [hlist] at hfound
      exact hfound
    | ok shown =>
      rw [hlist] at hfound
      obtain ⟨holding, hholding, heq⟩ := bind_eq_ok.1 hfound
      -- other orders of the same directories are sorted in the same way
      obtain ⟨holding', hholding', hperm⟩ :=
        exists_filterM_of_perm hholding (h.directoriesBelow_perm shown.1)
      have hsorted : sortBy (fun a b => namesLe (a ++ [fileName]) (b ++ [fileName])) holding' =
          sortBy (fun a b => namesLe (a ++ [fileName]) (b ++ [fileName])) holding := by
        refine sortBy_eq_of_perm ?_ ?_ ?_ hperm
        · exact fun a b => namesLe_total _ _
        · exact fun a b c => namesLe_trans _ _ _
        · exact fun a b hab hba => List.append_cancel_right (namesLe_antisymm hab hba)
      show ((t'.directoriesBelow shown.1).filterM (holdsFile t' root) >>= fun holding => _) = _
      rw [holdsFile_eq_of_rearranged h, hholding', ← heq, ← hsorted]
      rfl

/-- The same rules are loaded. -/
theorem load_eq_of_rearranged (h : t.Rearranged t') {rules : RuleSet}
    (hrules : load t root = .ok rules) : load t' root = .ok rules := by
  have hlinesOf : linesOf t' root = linesOf t root := by
    funext directory
    rw [linesOf, linesOf, h.readText_eq]
  have hlines : ∀ lines, allLines t root = .ok lines → allLines t' root = .ok lines := by
    intro lines hlines
    obtain ⟨found, hfound, hlines⟩ := bind_eq_ok.1 hlines
    rw [mapError_eq_ok] at hfound
    refine bind_eq_ok.2 ⟨found, mapError_eq_ok.2 (directories_eq_of_rearranged h hfound), ?_⟩
    rw [hlinesOf]
    exact hlines
  unfold load at hrules ⊢
  split at hrules
  · cases hrules
  · next lines hall => rwa [hlines lines hall]

end Ignore

namespace Search

/-- A search below a root has the same rules, however the entries are listed. -/
theorem below_of_rearranged {t t' : Tree} {root : Path} {extensions : List String}
    {respectRules : Bool} {s : Search} (h : t.Rearranged t')
    (hs : below t root extensions respectRules = .ok s) :
    ∃ rules, s = ⟨t, root, extensions, rules⟩ ∧
      below t' root extensions respectRules = .ok ⟨t', root, extensions, rules⟩ := by
  unfold below at hs ⊢
  cases respectRules with
  | false =>
    cases hs
    exact ⟨none, rfl, rfl⟩
  | true =>
    rw [if_pos rfl] at hs ⊢
    split at hs
    · next rules hrules =>
      cases hs
      rw [Ignore.load_eq_of_rearranged h hrules]
      exact ⟨some rules, rfl, rfl⟩
    · cases hs

/-- Files are found in the order of their paths: those made of fewer names first, and among those
made of as many names by the first name that differs. So are the files that cannot be read. In
whatever order the entries of the tree are listed, the same is found. -/
theorem find_in_order {t : Tree} {root : Path} {extensions : List String} {respectRules : Bool}
    {found : Found} (hproper : t.Proper)
    (hfound : (find t root extensions respectRules).run.value = .ok found) :
    (found.sources.map SourceFile.name).Pairwise Precedes ∧
      (found.failures.map ReadFailure.file).Pairwise Precedes ∧
      ∀ t' : Tree, t'.entries.Perm t.entries →
        (find t' root extensions respectRules).run.value = .ok found := by
  rw [value_find] at hfound
  obtain ⟨s, hs, hvalue⟩ := bind_eq_ok.1 hfound
  obtain ⟨htree, -⟩ := below_eq_ok hs
  obtain ⟨hsources, hfailures⟩ := pairwise_of_value_run (htree ▸ hproper) hvalue
  refine ⟨hsources, hfailures, fun t' hperm => ?_⟩
  have h : t.Rearranged t' := ⟨hproper.nodup, hperm⟩
  obtain ⟨rules, rfl, hs'⟩ := below_of_rearranged h hs
  rw [value_find]
  refine bind_eq_ok.2 ⟨_, hs', ?_⟩
  rw [value_run_of_rearranged h]
  exact hvalue

/-- A tree whose entries are listed from the end, with directories that a comparison of paths as
texts would put in the other order, and two files that are no text. -/
def scatteredTree : Tree where
  entries := Tree.empty.entries ++
    [(Tree.home ++ ["z.kt"], .file []), (Tree.home ++ ["a-b", "x.kt"], .file []),
      (Tree.home ++ ["a-b", "u.kt"], .file [0xff]), (Tree.home ++ ["a-b"], .directory),
      (Tree.home ++ ["a", "x.kt"], .file []), (Tree.home ++ ["a", "u.kt"], .file [0xff]),
      (Tree.home ++ ["a"], .directory)]

/-- Sources and failures on two levels, one directory of which has a name that begins like the
other. -/
theorem find_in_order_scatteredTree :
    scatteredTree.Proper ∧
      ∃ found, (find scatteredTree ⟨"", []⟩ standardExtensions true).run.value = .ok found ∧
        found.sources.map SourceFile.name = ["z.kt", "a/x.kt", "a-b/x.kt"] ∧
        found.failures.map ReadFailure.file = ["a/u.kt", "a-b/u.kt"] ∧
        (found.sources.map SourceFile.name).Pairwise Precedes ∧
        (found.failures.map ReadFailure.file).Pairwise Precedes ∧
        (find ⟨scatteredTree.entries.reverse⟩ ⟨"", []⟩ standardExtensions true).run.value =
          .ok found := by
  have hproper : scatteredTree.Proper := by decide +kernel
  have hvalue : (find scatteredTree ⟨"", []⟩ standardExtensions true).run.value.toOption.map
      (fun found => (found.sources.map SourceFile.name, found.failures.map ReadFailure.file)) =
        some (["z.kt", "a/x.kt", "a-b/x.kt"], ["a/u.kt", "a-b/u.kt"]) := by
    decide +kernel
  cases hfound : (find scatteredTree ⟨"", []⟩ standardExtensions true).run.value with
  | error e =>
    rw [hfound] at hvalue
    cases hvalue
  | ok found =>
    rw [hfound] at hvalue
    obtain ⟨hsources, hfailures⟩ := Prod.mk.inj (Option.some.inj hvalue)
    obtain ⟨hordered, hordered', hsame⟩ := find_in_order hproper hfound
    exact ⟨hproper, found, rfl, hsources, hfailures, hordered, hordered',
      hsame _ (List.reverse_perm _)⟩

/-- As texts, these two paths would stand in the other order. -/
example : Precedes "a/x.kt" "a-b/x.kt" ∧ "a-b/x.kt" < "a/x.kt" := by
  decide +kernel

end Search
end DesignMetrics
