import DesignMetrics.Proofs.Search.Reach
import DesignMetrics.Proofs.Text.Split
import Mathlib.Data.List.TakeWhile

/-!
# What a search reports

Unless it is blocked, a search reports the visible files and nothing else, each of them once: as a
source with its text, or as a failure if it cannot be read. It is blocked only where a name is too
long for it to be told what the name stands for.
-/

namespace DesignMetrics

open Files (Path Tree Location FileError ReadError IsEntryName)
open Source (SourceFile)

namespace Search

variable {s : Search} {l : Location} {above : List String} {name : String}

/-- A file that is to be reported: it stands below entered directories, leads to no directory, has
a wanted extension and is not excluded. -/
structure Visible (s : Search) (l : Location) (above : List String) (name : String) : Prop where
  meets : s.Meets l above name
  leads : s.tree.isDirectory (s.root.append (above ++ [name])) = .ok false
  wanted : s.wants name = true
  kept : s.excludes (above ++ [name]) false = false

/-- Every visible file is reported once, with its text if it has one, and nothing else is. -/
structure Reports (s : Search) (l : Location) (found : Found) : Prop where
  nodup : (found.sources.map SourceFile.name ++ found.failures.map ReadFailure.file).Nodup
  mem_sources : ∀ path text, ⟨path, text⟩ ∈ found.sources ↔
    ∃ above name, s.Visible l above name ∧ path = "/".intercalate (above ++ [name]) ∧
      s.tree.readText (s.root.append (above ++ [name])) = .ok text.toList
  mem_failures : ∀ path message, ⟨path, message⟩ ∈ found.failures ↔
    ∃ above name, s.Visible l above name ∧ path = "/".intercalate (above ++ [name]) ∧
      ∃ e, s.tree.readText (s.root.append (above ++ [name])) = .error e ∧ message = e.message

/-! ## Names and paths -/

section Paths

variable (hw : s.tree.WellFormed) (hl : Tree.home <+: l)
include hw hl

/-- No name on the way to a visible file has a slash, so the slashes in its path part the names. -/
theorem Meets.no_slash (h : s.Meets l above name) :
    ∀ name' ∈ above ++ [name], '/' ∉ name'.toList := by
  intro name' hname'
  obtain hname' | hname' := List.mem_append.1 hname'
  · exact (h.enters.descends.entryName hw hl hname').no_slash
  · rw [List.mem_singleton.1 hname']
    exact (hw.entryName_of_node? hl h.present).no_slash

/-- What is met in two places has two paths. -/
theorem Meets.eq_of_intercalate_eq {above' : List String} {name' : String}
    (h : s.Meets l above name) (h' : s.Meets l above' name')
    (heq : "/".intercalate (above ++ [name]) = "/".intercalate (above' ++ [name'])) :
    (above, name) = (above', name') := by
  have hnames := Text.eq_of_intercalate_eq (by simp) (by simp) (h.no_slash hw hl)
    (h'.no_slash hw hl) heq
  exact Prod.ext (List.append_inj_left' hnames rfl)
    (List.singleton_inj.1 (List.append_inj_right' hnames rfl))

end Paths

/-! ## Reported visits -/

theorem filterMap_sublist_map {α β : Type} {f : α → Option β} {g : α → β} {as : List α}
    (h : ∀ a b, f a = some b → b = g a) : (as.filterMap f).Sublist (as.map g) := by
  induction as with
  | nil => exact .slnil
  | cons a as ih =>
    cases hb : f a with
    | none =>
      rw [List.filterMap_cons_none hb]
      exact ih.cons _
    | some b =>
      rw [List.filterMap_cons_some hb, h a b hb]
      exact ih.cons_cons _

theorem source?_eq_some_iff {v : Visit} {f : SourceFile} : v.source? = some f ↔ v = .source f := by
  cases v <;> simp [Visit.source?]

theorem failure?_eq_some_iff {v : Visit} {f : ReadFailure} :
    v.failure? = some f ↔ ∃ e, v = .unreadable f.file e ∧ f.message = e.message := by
  obtain ⟨file, message⟩ := f
  cases v <;> simp [Visit.failure?, eq_comm, and_assoc]

theorem obstacle?_eq_some_iff {v : Visit} {e : FileError} :
    v.obstacle? = some e ↔ v = .blocked e := by
  cases v <;> simp [Visit.obstacle?]

/-- What a search comes to: what was found, or the first obstacle. -/
theorem value_run :
    s.run.run.value =
      match s.visits.findSome? Visit.obstacle? with
      | some e => .error (.blocked e)
      | none =>
        .ok ⟨(s.visits.takeWhile fun v => v.obstacle?.isNone).filterMap Visit.source?,
          (s.visits.takeWhile fun v => v.obstacle?.isNone).filterMap Visit.failure?⟩ := by
  unfold run
  cases h : s.visits.findSome? Visit.obstacle? <;> simp only [h] <;> rfl

/-- A search that is never blocked finds what its visits tell of. -/
theorem value_run_of_clear (h : ∀ v ∈ s.visits, v.obstacle? = none) :
    s.run.run.value =
      .ok ⟨s.visits.filterMap Visit.source?, s.visits.filterMap Visit.failure?⟩ := by
  have hall : (s.visits.takeWhile fun v => v.obstacle?.isNone) = s.visits :=
    List.takeWhile_eq_self_iff.2 fun v hv => by rw [h v hv]; rfl
  rw [value_run, List.findSome?_eq_none_iff.2 h, hall]

/-- The files that are told of have the paths of what was visited, in the same order. -/
theorem sources_sublist (places : List (List String × String)) :
    (((places.map fun place => s.visit place.1 place.2).filterMap Visit.source?).map
      SourceFile.name).Sublist
        (places.map fun place => "/".intercalate (place.1 ++ [place.2])) := by
  rw [List.filterMap_map, List.map_filterMap]
  refine filterMap_sublist_map fun place path hpath => ?_
  obtain ⟨f, hf, rfl⟩ := Option.map_eq_some_iff.1 hpath
  cases visit_eq_iff.1 (source?_eq_some_iff.1 hf) with
  | source => rfl

/-- The files that could not be read are among the places, in the order of these. -/
theorem failures_sublist (places : List (List String × String)) :
    (((places.map fun place => s.visit place.1 place.2).filterMap Visit.failure?).map
      ReadFailure.file).Sublist
        (places.map fun place => "/".intercalate (place.1 ++ [place.2])) := by
  rw [List.filterMap_map, List.map_filterMap]
  refine filterMap_sublist_map fun place path hpath => ?_
  obtain ⟨⟨file, message⟩, hf, rfl⟩ := Option.map_eq_some_iff.1 hpath
  obtain ⟨e, hvisit, -⟩ := failure?_eq_some_iff.1 hf
  cases visit_eq_iff.1 hvisit with
  | unreadable => rfl

section Report

variable (hw : s.tree.WellFormed) (hroot : s.tree.walk .seeing s.root = .ok (.taken l .directory))
  (hl : Tree.home <+: l)
include hw hroot hl

/-- A search in which nothing is in the way finds what its visits report. -/
theorem value_run_of_unobstructed (h : s.Unobstructed l) :
    s.run.run.value =
      .ok ⟨s.visits.filterMap Visit.source?, s.visits.filterMap Visit.failure?⟩ := by
  apply value_run_of_clear
  intro v hv
  rw [Option.eq_none_iff_forall_ne_some]
  intro e he
  exact (unobstructed_iff hw hroot hl).1 h e (obstacle?_eq_some_iff.1 he ▸ hv)

/-- A search ends early at the first name that is too long to be looked up. -/
theorem value_run_of_obstructed (h : ¬s.Unobstructed l) :
    ∃ above name, s.Meets l above name ∧ s.run.run.value =
      .error (.blocked (.blocked .nameTooLong (s.root.append (above ++ [name])).toString)) := by
  have hblocked : s.visits.findSome? Visit.obstacle? ≠ none := by
    intro hnone
    refine h ((unobstructed_iff hw hroot hl).2 fun e he => ?_)
    have := List.findSome?_eq_none_iff.1 hnone _ he
    cases this
  obtain ⟨e, he⟩ := Option.ne_none_iff_exists'.1 hblocked
  obtain ⟨v, hv, hve⟩ := List.exists_of_findSome?_eq_some he
  rw [obstacle?_eq_some_iff.1 hve, mem_visits hw hroot hl] at hv
  obtain ⟨above, name, hplace, houtcome⟩ := hv
  obtain ⟨-, hmeets⟩ := (mem_places hw hroot hl).1 hplace
  refine ⟨above, name, hmeets, ?_⟩
  rw [value_run, he]
  cases houtcome with
  | blocked herror => rw [Tree.isDirectory_eq_error herror]

/-- The sources are the visible files whose text can be read. -/
theorem Unobstructed.mem_sources (h : s.Unobstructed l) {path text : String} :
    ⟨path, text⟩ ∈ s.visits.filterMap Visit.source? ↔
      ∃ above name, s.Visible l above name ∧ path = "/".intercalate (above ++ [name]) ∧
        s.tree.readText (s.root.append (above ++ [name])) = .ok text.toList := by
  rw [List.mem_filterMap]
  simp only [source?_eq_some_iff, exists_eq_right, mem_visits hw hroot hl, h.mem_places hw hroot hl]
  refine exists_congr fun above => exists_congr fun name => ?_
  constructor
  · rintro ⟨hmeets, houtcome⟩
    cases houtcome with
    | source hdir hkept hwanted hread =>
      exact ⟨⟨hmeets, hdir, hwanted, hkept⟩, rfl, by rw [hread, String.toList_ofList]⟩
  · rintro ⟨⟨hmeets, hdir, hwanted, hkept⟩, rfl, hread⟩
    refine ⟨hmeets, ?_⟩
    have houtcome := Outcome.source hdir hkept hwanted hread
    rwa [String.ofList_toList] at houtcome

/-- The failures are the visible files whose text cannot be read, each with the reason. -/
theorem Unobstructed.mem_failures (h : s.Unobstructed l) {path message : String} :
    ⟨path, message⟩ ∈ s.visits.filterMap Visit.failure? ↔
      ∃ above name, s.Visible l above name ∧ path = "/".intercalate (above ++ [name]) ∧
        ∃ e, s.tree.readText (s.root.append (above ++ [name])) = .error e ∧
          message = e.message := by
  rw [List.mem_filterMap]
  simp only [failure?_eq_some_iff]
  constructor
  · rintro ⟨v, hv, e, rfl, rfl⟩
    obtain ⟨above, name, hplace, houtcome⟩ := (mem_visits hw hroot hl).1 hv
    have hmeets := (h.mem_places hw hroot hl).1 hplace
    cases houtcome with
    | unreadable hdir hkept hwanted hread =>
      exact ⟨above, name, ⟨hmeets, hdir, hwanted, hkept⟩, rfl, e, hread, rfl⟩
  · rintro ⟨above, name, ⟨hmeets, hdir, hwanted, hkept⟩, rfl, e, hread, rfl⟩
    refine ⟨_, (mem_visits hw hroot hl).2 ⟨above, name, ?_, .unreadable hdir hkept hwanted hread⟩,
      e, rfl, rfl⟩
    exact (h.mem_places hw hroot hl).2 hmeets

/-- The paths of all visited names, each once. -/
theorem nodup_paths :
    ((s.places l).map fun place => "/".intercalate (place.1 ++ [place.2])).Nodup := by
  refine List.Nodup.map_on (fun place hplace place' hplace' heq => ?_) (nodup_places hw hroot hl)
  exact Meets.eq_of_intercalate_eq hw hl ((mem_places hw hroot hl).1 hplace).2
    ((mem_places hw hroot hl).1 hplace').2 heq

/-- No source is reported twice. -/
theorem nodup_sources : ((s.visits.filterMap Visit.source?).map SourceFile.name).Nodup := by
  rw [visits_eq_map hw hroot hl]
  exact (nodup_paths hw hroot hl).sublist (sources_sublist _)

/-- Nor is any failure. -/
theorem nodup_failures : ((s.visits.filterMap Visit.failure?).map ReadFailure.file).Nodup := by
  rw [visits_eq_map hw hroot hl]
  exact (nodup_paths hw hroot hl).sublist (failures_sublist _)

/-- All that a search reports when nothing is in the way. -/
theorem Unobstructed.reports (h : s.Unobstructed l) :
    s.Reports l ⟨s.visits.filterMap Visit.source?, s.visits.filterMap Visit.failure?⟩ where
  nodup := by
    refine List.nodup_append.2 ⟨nodup_sources hw hroot hl, nodup_failures hw hroot hl, ?_⟩
    rintro path hpath _ hpath' rfl
    obtain ⟨⟨_, text⟩, hsource, rfl⟩ := List.mem_map.1 hpath
    obtain ⟨⟨_, message⟩, hfailure, heq⟩ := List.mem_map.1 hpath'
    obtain ⟨above, name, hvisible, rfl, hread⟩ := (h.mem_sources hw hroot hl).1 hsource
    obtain ⟨above', name', hvisible', rfl, e, hread', -⟩ := (h.mem_failures hw hroot hl).1 hfailure
    -- one file is not both readable and unreadable
    obtain ⟨rfl, rfl⟩ := Prod.mk.inj
      (hvisible'.meets.eq_of_intercalate_eq hw hl hvisible.meets heq)
    rw [hread] at hread'
    cases hread'
  mem_sources _ _ := h.mem_sources hw hroot hl
  mem_failures _ _ := h.mem_failures hw hroot hl

end Report

/-! ## Searches below a root -/

/-- A search below a root has the rules of the root if they are to be respected, and none
otherwise. -/
theorem below_eq_ok {t : Tree} {root : Path} {extensions : List String} {respectRules : Bool}
    (h : below t root extensions respectRules = .ok s) :
    s.tree = t ∧ s.root = root ∧ s.extensions = extensions ∧ (s.rules.isSome = respectRules) := by
  unfold below at h
  split at h
  · split at h <;> cases h
    simp_all
  · cases h
    simp_all

/-- What a search reports below a directory whose rules can be loaded. It ends at a depth that the
tree alone decides. -/
theorem find_reports {t : Tree} {root : Path} {extensions : List String} {respectRules : Bool}
    (hw : t.WellFormed) (hroot : t.walk .seeing root = .ok (.taken l .directory))
    (hl : Tree.home <+: l) (hs : below t root extensions respectRules = .ok s) :
    (∀ depth, t.entries.length < depth → s.levels depth [[]] = s.visits) ∧
      (s.Unobstructed l → ∃ found,
        (find t root extensions respectRules).run.value = .ok found ∧ s.Reports l found) ∧
      (¬s.Unobstructed l → ∃ above name, s.Meets l above name ∧
        (find t root extensions respectRules).run.value =
          .error (.blocked (.blocked .nameTooLong (root.append (above ++ [name])).toString))) := by
  obtain ⟨rfl, rfl, -, -⟩ := below_eq_ok hs
  have hfind : (find s.tree s.root extensions respectRules).run.value = s.run.run.value := by
    unfold find
    rw [hs]
    rfl
  refine ⟨fun depth => levels_eq_visits hw hroot hl, fun h => ?_, fun h => ?_⟩
  · exact ⟨_, hfind.trans (value_run_of_unobstructed hw hroot hl h), h.reports hw hroot hl⟩
  · obtain ⟨above, name, hmeets, hvalue⟩ := value_run_of_obstructed hw hroot hl h
    exact ⟨above, name, hmeets, hfind.trans hvalue⟩

/-- A tree with a file to be ignored, one that is no text, and links back up, to nothing and to a
file. -/
def mixedTree : Tree where
  entries := Tree.empty.entries ++
    [(Tree.home ++ [".git"], .directory), (Tree.home ++ [".git", "a.kt"], .file []),
      (Tree.home ++ [".gitignore"], .file "b.kt".toUTF8.toList),
      (Tree.home ++ ["b.kt"], .file []), (Tree.home ++ ["c"], .directory),
      (Tree.home ++ ["c", "d.java"], .file [0xff]), (Tree.home ++ ["c", "up"], .link ".."),
      (Tree.home ++ ["e.kt"], .file "class E".toUTF8.toList),
      (Tree.home ++ ["f.kt"], .link "nothing"), (Tree.home ++ ["g.kt"], .link "e.kt")]

/-- The rule of its only ignore file: `b.kt` is ignored at any depth. -/
def mixedRules : Ignore.RuleSet :=
  [⟨true, .path (.leadingDirectories :: "b.kt".toList.map fun c => .item (.literal c)) .entry⟩]

/-- Files that can be read, that cannot, and a link to a directory. -/
theorem find_reports_mixedTree :
    ∃ found, (find mixedTree ⟨"", []⟩ standardExtensions true).run.value = .ok found ∧
      Reports ⟨mixedTree, ⟨"", []⟩, standardExtensions, some mixedRules⟩ Tree.home found ∧
      found.sources = [⟨"e.kt", "class E"⟩, ⟨"g.kt", "class E"⟩] ∧
      found.failures.map ReadFailure.file = ["f.kt", "c/d.java"] := by
  have hw : mixedTree.WellFormed := by decide +kernel
  have hload : Ignore.load mixedTree ⟨"", []⟩ = .ok mixedRules := by decide +kernel
  have hs : below mixedTree ⟨"", []⟩ standardExtensions true =
      .ok ⟨mixedTree, ⟨"", []⟩, standardExtensions, some mixedRules⟩ := by
    rw [below, if_pos rfl, hload]
  have hroot : mixedTree.walk .seeing ⟨"", []⟩ = .ok (.taken Tree.home .directory) := rfl
  have hl : Tree.home <+: Tree.home := List.prefix_refl _
  have hclear : Unobstructed ⟨mixedTree, ⟨"", []⟩, standardExtensions, some mixedRules⟩
      Tree.home := by
    refine (unobstructed_iff hw hroot hl).2 fun e he => ?_
    have hall : (visits ⟨mixedTree, ⟨"", []⟩, standardExtensions, some mixedRules⟩).all
        (·.obstacle?.isNone) = true := by decide +kernel
    exact absurd (List.all_eq_true.1 hall _ he) (by simp [Visit.obstacle?])
  obtain ⟨found, hfound, hreports⟩ := (find_reports hw hroot hl hs).2.1 hclear
  have hvalue : (find mixedTree ⟨"", []⟩ standardExtensions true).run.value.map
      (fun found => (found.sources, found.failures.map ReadFailure.file)) =
        .ok ([⟨"e.kt", "class E"⟩, ⟨"g.kt", "class E"⟩], ["f.kt", "c/d.java"]) := by
    decide +kernel
  rw [hfound] at hvalue
  obtain ⟨hsources, hfailures⟩ := Prod.mk.inj (Except.ok.inj hvalue)
  exact ⟨found, hfound, hreports, hsources, hfailures⟩

/-- A link whose target is longer than any name blocks the search. -/
example :
    (find ⟨Tree.empty.entries ++
        [(Tree.home ++ ["a.kt"], .file []),
          (Tree.home ++ ["b"], .link (String.ofList (List.replicate 256 'n')))]⟩
      ⟨"", []⟩ standardExtensions false).run.value.map Found.sources =
        .error (.blocked (.blocked .nameTooLong "b")) := by
  decide +kernel

end Search
end DesignMetrics
