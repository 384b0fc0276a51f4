import DesignMetrics.Ignore.Load
import DesignMetrics.Proofs.Files.Content
import DesignMetrics.Proofs.Ignore.Confined

/-!
# Ignore files of directories

The ignore file of a directory decides nothing about what lies elsewhere: its lines have rules that
fit only what lies in the directory, and the lines of other ignore files do not depend on it.
-/

namespace DesignMetrics.Ignore

open Files (Path Tree Location ReadError)

/-- The ignore file of a directory below the root is the file at `f`, by itself or because a link
leads there. -/
structure IsFileOf (t : Tree) (root : Path) (f : Location) (directory : List String) : Prop where
  holds : ∃ found, directories t root = .ok found ∧ directory ∈ found
  leads : ∃ n, t.walk .seeing (root.append (directory ++ [fileName])) = .ok (.taken f n)

/-- Every line of a file with these bytes has the property. -/
def EveryLine (P : List Char → Prop) (bytes : List UInt8) : Prop :=
  ∀ cs, Text.Utf8.decode bytes = .ok cs → ∀ line ∈ Text.lines (Text.unifyNewlines cs), P line

theorem EveryLine.imp {P Q : List Char → Prop} {bytes : List UInt8} (h : EveryLine P bytes)
    (hPQ : ∀ line, P line → Q line) : EveryLine Q bytes :=
  fun cs hcs line hline => hPQ line (h cs hcs line hline)

/-- A directory below the root whose names stand for themselves in patterns. -/
structure IsNested (directory : List String) : Prop where
  ne_root : "/".intercalate directory ≠ ""
  plain : IsPlain ("/".intercalate directory).toList

/-- Whether a path lies in a directory, both as they are written below the root. With a slash at its
end, the directory lies in itself. -/
def LiesIn (directory : List String) (path : List Char) : Prop :=
  ("/".intercalate directory).toList ++ ['/'] <+: path

instance (directory : List String) (path : List Char) : Decidable (LiesIn directory path) :=
  inferInstanceAs (Decidable (_ <+: _))

/-- A path that lines of the directory do not reach: it does not lie there, or it is the directory
itself and every line asks for a name in it. -/
def IsBeyond (directory : List String) (bytes : List UInt8) (path : List Char) : Prop :=
  ¬LiesIn directory path ∨
    path = ("/".intercalate directory).toList ++ ['/'] ∧ EveryLine AsksForName bytes

/-- The rule of a line, if it has one that fits. -/
def hit? (path : List Char) (line : String) : Option (Rule × Strength) :=
  match Rule.ofLine line with
  | .ok (some r) => (r.shape.fits? path).map (r, ·)
  | _ => none

variable {t : Tree} {root : Path} {f : Location} {old bytes : List UInt8} {rules rules' : RuleSet}
  {path : List Char} {lines : List String} {directory : List String}

/-! ## Lines and what they fit -/

/-- Lists that are related member by member come to the same if related members do. -/
theorem filterMap_eq_of_forall₂ {α β γ : Type} {R : α → β → Prop} {F : α → Option γ}
    {G : β → Option γ} {as : List α} {bs : List β} (h : List.Forall₂ R as bs)
    (hR : ∀ a b, R a b → F a = G b) : as.filterMap F = bs.filterMap G := by
  induction h with
  | nil => rfl
  | cons hab _ ih => rw [List.filterMap_cons, List.filterMap_cons, hR _ _ hab, ih]

/-- Two lists made from a third are flattened to the same if what comes from each of its members
is. -/
theorem flatMap_eq_of_forall₂ {α β γ : Type} {R S : α → β → Prop} {F : β → List γ}
    {as : List α} {bs cs : List β} (hR : List.Forall₂ R as bs) (hS : List.Forall₂ S as cs)
    (h : ∀ a ∈ as, ∀ b c, R a b → S a c → F b = F c) : bs.flatMap F = cs.flatMap F := by
  induction hR generalizing cs with
  | nil =>
    cases hS
    rfl
  | cons hab _ ih =>
    cases hS with
    | cons hac hS =>
      rw [List.flatMap_cons, List.flatMap_cons, h _ List.mem_cons_self _ _ hab hac,
        ih hS fun a ha => h a (List.mem_cons_of_mem _ ha)]

/-- What the rules of lines fit is decided line by line. -/
theorem hits_eq_of_ofLines (h : RuleSet.ofLines lines = .ok rules) (path : List Char) :
    rules.hits path = (lines.filterMap (hit? path)).reverse := by
  obtain ⟨found, hfound, h⟩ := bind_eq_ok.1 h
  obtain rfl : found.filterMap id = rules := Except.ok.inj h
  rw [mapM_eq_ok_iff] at hfound
  have hhits : (lines.filter (· != "")).filterMap (hit? path) = found.filterMap fun rule? =>
      rule?.bind fun rule => (rule.shape.fits? path).map (rule, ·) := by
    refine filterMap_eq_of_forall₂ hfound fun line rule? hrule => ?_
    rw [hit?, hrule]
    cases rule? <;> rfl
  have hempty : (lines.filter (· != "")).filterMap (hit? path) = lines.filterMap (hit? path) := by
    rw [List.filterMap_filter]
    refine List.filterMap_congr fun line _ => ?_
    by_cases hline : line = ""
    · rw [hline]
      rfl
    · exact if_pos (by simpa using hline)
  rw [RuleSet.hits, List.filterMap_reverse, List.filterMap_filterMap, ← hempty, hhits]
  rfl

/-- The first line that is refused decides the error of all. -/
theorem ofLines_eq_error_iff {e : RuleError} :
    RuleSet.ofLines lines = .error e ↔
      ∃ before line after, lines = before ++ line :: after ∧
        (∀ earlier ∈ before, ∃ rule?, Rule.ofLine earlier = .ok rule?) ∧
          Rule.ofLine line = .error e := by
  have hrules : RuleSet.ofLines lines = .error e ↔
      (lines.filter (· != "")).mapM Rule.ofLine = .error e := by
    rw [RuleSet.ofLines, bind_eq_error]
    exact or_iff_left fun ⟨found, _, h⟩ => by cases h
  rw [hrules, mapM_eq_error_iff]
  constructor
  · rintro ⟨before, line, after, hsplit, hbefore, hline⟩
    obtain ⟨front, rest, rfl, rfl, hrest⟩ := List.filter_eq_append_iff.1 hsplit
    obtain ⟨empty, after', rfl, hempty, -, rfl⟩ := List.filter_eq_cons_iff.1 hrest
    refine ⟨front ++ empty, line, after', by simp, fun earlier hearlier => ?_, hline⟩
    -- lines that are left out are empty, and mean nothing
    by_cases hblank : earlier = ""
    · exact ⟨none, by rw [hblank]; rfl⟩
    · obtain hearlier | hearlier := List.mem_append.1 hearlier
      · exact hbefore earlier (List.mem_filter.2 ⟨hearlier, by simpa using hblank⟩)
      · exact absurd (by simpa using hempty earlier hearlier) hblank
  · rintro ⟨before, line, after, rfl, hbefore, hline⟩
    have hne : (line != "") = true := by
      rw [bne_iff_ne]
      rintro rfl
      cases hline
    refine ⟨before.filter (· != ""), line, after.filter (· != ""), ?_, ?_, hline⟩
    · rw [List.filter_append, List.filter_cons, if_pos hne]
    · exact fun earlier hearlier => hbefore earlier (List.mem_filter.1 hearlier).1

/-- Rules are refused only after all files were read, for the lines that they hold. -/
theorem load_eq_refused_iff {e : RuleError} :
    load t root = .error (.refused e) ↔
      ∃ lines, allLines t root = .ok lines ∧ RuleSet.ofLines lines = .error e := by
  unfold load
  cases allLines t root with
  | error e' => simp
  | ok lines =>
    cases hrules : RuleSet.ofLines lines <;> simp [hrules]

/-- The lines of a project are those of its ignore files, one file after the other. -/
theorem exists_of_allLines (h : allLines t root = .ok lines) :
    ∃ found read, directories t root = .ok found ∧
      List.Forall₂ (fun directory lines => linesOf t root directory = .ok lines) found read ∧
        lines = read.flatten := by
  obtain ⟨found, hfound, h⟩ := bind_eq_ok.1 h
  obtain ⟨read, hread, h⟩ := bind_eq_ok.1 h
  refine ⟨found, read, ?_, mapM_eq_ok_iff.1 hread, (Except.ok.inj h).symm⟩
  cases hd : directories t root with
  | error e =>
    rw [hd] at hfound
    cases hfound
  | ok _ =>
    rw [hd] at hfound
    exact congrArg Except.ok (Except.ok.inj hfound)

/-- If rules can be loaded, every ignore file was read, and all lines together make the rules. -/
theorem exists_of_load (h : load t root = .ok rules) :
    ∃ found lines, directories t root = .ok found ∧
      List.Forall₂ (fun directory lines => linesOf t root directory = .ok lines) found lines ∧
        RuleSet.ofLines lines.flatten = .ok rules := by
  rw [load] at h
  split at h
  · cases h
  · next lines hlines =>
    split at h
    · cases h
    · next hrules =>
      cases h
      obtain ⟨found, read, hfound, hread, rfl⟩ := exists_of_allLines hlines
      exact ⟨found, read, hfound, hread, hrules⟩

/-- The lines of an ignore file fit nothing beyond its directory. -/
theorem filterMap_hit?_eq_nil (hf : t.node? f = some (.file bytes))
    (hlocal : EveryLine IsLocal bytes) (hfile : IsFileOf t root f directory)
    (hnested : IsNested directory) (hbeyond : IsBeyond directory bytes path)
    (h : linesOf t root directory = .ok lines) : lines.filterMap (hit? path) = [] := by
  obtain ⟨n, hwalk⟩ := hfile.leads
  obtain ⟨cs, hread, h⟩ := bind_eq_ok.1 h
  obtain rfl := Except.ok.inj h
  obtain ⟨text, htext, rfl⟩ := Tree.exists_decode_of_walk hf hwalk hread
  rw [List.filterMap_eq_nil_iff]
  intro line hline
  obtain ⟨line, hmem, rfl⟩ := List.mem_map.1 hline
  have hline := hlocal text htext line hmem
  rw [← String.toList_ofList (l := line)] at hline
  unfold hit?
  split
  · next rule hrule =>
    rw [Option.map_eq_none_iff, Option.eq_none_iff_forall_ne_some]
    intro strength hfits
    obtain ⟨below, hpath, hbelow⟩ :=
      hline.exists_below hnested.ne_root hnested.plain hrule (by rw [hfits]; rfl)
    -- nothing outside fits, and the directory itself fits no line that asks for a name
    obtain hout | ⟨hself, hasks⟩ := hbeyond
    · exact hout ⟨below, by rw [hpath, List.append_assoc]; rfl⟩
    · rw [String.toList_ofList] at hbelow
      rw [hself] at hpath
      have hnil : [] = below := (List.cons.inj (List.append_cancel_left hpath)).2
      exact hbelow (hasks text htext line hmem) hnil.symm
  · rfl

/-! ## Other bytes in an ignore file -/

section Put

variable (hnodup : (t.entries.map Prod.fst).Nodup) (hf : t.node? f = some (.file old))
include hnodup hf

/-- New bytes in a file change nothing about which directories hold an ignore file. -/
theorem holdsFile_put : holdsFile (t.put f (.file bytes)) root = holdsFile t root := by
  funext directory
  unfold holdsFile
  simp only [Tree.contains_put hnodup hf, Tree.list_put hnodup hf, Tree.linksIn_put hnodup hf,
    Tree.inspect_put hnodup hf]

/-- The ignore files are found in the same order. -/
theorem directories_put : directories (t.put f (.file bytes)) root = directories t root := by
  unfold directories
  simp only [Tree.isDirectory_put hnodup hf, Tree.list_put hnodup hf,
    Tree.directoriesBelow_put hnodup hf, holdsFile_put hnodup hf]

/-- The file stays the ignore file of its directory. -/
theorem IsFileOf.put (h : IsFileOf t root f directory) :
    IsFileOf (t.put f (.file bytes)) root f directory := by
  obtain ⟨n, hn⟩ := h.leads
  refine ⟨?_, Tree.refill f bytes f n, ?_⟩
  · rw [directories_put hnodup hf]
    exact h.holds
  · rw [Tree.walk_put hnodup hf (by decide), hn]
    rfl

/-- The lines of every other ignore file stay as they are. -/
theorem linesOf_put
    (h : ∀ n, t.walk .seeing (root.append (directory ++ [fileName])) ≠ .ok (.taken f n)) :
    linesOf (t.put f (.file bytes)) root directory = linesOf t root directory := by
  rw [linesOf, Tree.readText_put hnodup hf h, linesOf]

/-- Beyond the directories whose ignore file it is, other bytes in a file change nothing that rules
fit. -/
theorem hits_eq_of_put (hold : EveryLine IsLocal old) (hnew : EveryLine IsLocal bytes)
    (h : load t root = .ok rules) (h' : load (t.put f (.file bytes)) root = .ok rules')
    (hnested : ∀ directory, IsFileOf t root f directory → IsNested directory)
    (hbeyond : ∀ directory, IsFileOf t root f directory →
      IsBeyond directory old path ∧ IsBeyond directory bytes path) :
    rules.hits path = rules'.hits path := by
  obtain ⟨found, lines, hfound, hlines, hrules⟩ := exists_of_load h
  obtain ⟨found', lines', hfound', hlines', hrules'⟩ := exists_of_load h'
  rw [directories_put hnodup hf, hfound] at hfound'
  obtain rfl := Except.ok.inj hfound'
  rw [hits_eq_of_ofLines hrules, hits_eq_of_ofLines hrules', List.filterMap_flatten,
    List.filterMap_flatten]
  refine congrArg List.reverse (flatMap_eq_of_forall₂ hlines hlines' ?_)
  intro directory hmem read read' hread hread'
  -- only directories whose ignore file it is read other lines
  by_cases hleads : ∃ n, t.walk .seeing (root.append (directory ++ [fileName])) = .ok (.taken f n)
  · have hfile : IsFileOf t root f directory := ⟨⟨found, hfound, hmem⟩, hleads⟩
    have hplain := hnested directory hfile
    obtain ⟨hpath, hpath'⟩ := hbeyond directory hfile
    rw [filterMap_hit?_eq_nil hf hold hfile hplain hpath hread,
      filterMap_hit?_eq_nil (Tree.node?_put_self hnodup hf) hnew (hfile.put hnodup hf) hplain
        hpath' hread']
  · rw [linesOf_put hnodup hf (not_exists.1 hleads), hread] at hread'
    rw [Except.ok.inj hread']

end Put

/-- Rules that fit the same of a path decide on it in the same way. -/
theorem covers_eq_of_hits_eq
    (h : rules.hits (RuleSet.relative path) = rules'.hits (RuleSet.relative path)) :
    rules.covers path = rules'.covers path := by
  unfold RuleSet.covers RuleSet.decisive?
  rw [h]

/-- Two contents of an ignore file decide alike on every path that does not lie in a directory whose
ignore file it is, if these directories are nested and no line is left as it is although it means
something. They decide alike on such a directory itself if every line asks for a name. -/
theorem excludes_eq_of_put {path : String} {isDirectory : Bool}
    (hnodup : (t.entries.map Prod.fst).Nodup) (hf : t.node? f = some (.file old))
    (h : load t root = .ok rules) (h' : load (t.put f (.file bytes)) root = .ok rules')
    (hold : EveryLine IsLocal old) (hnew : EveryLine IsLocal bytes)
    (hnested : ∀ directory, IsFileOf t root f directory → IsNested directory)
    (hpath : ∀ directory, IsFileOf t root f directory →
      ¬LiesIn directory (RuleSet.relative path.toList))
    (hslash : isDirectory = true → ∀ directory, IsFileOf t root f directory →
      IsBeyond directory old (RuleSet.relative (path.toList ++ ['/'])) ∧
        IsBeyond directory bytes (RuleSet.relative (path.toList ++ ['/']))) :
    rules.excludes path isDirectory = rules'.excludes path isDirectory := by
  have hcovers : ∀ cs, (∀ directory, IsFileOf t root f directory →
      IsBeyond directory old (RuleSet.relative cs) ∧
        IsBeyond directory bytes (RuleSet.relative cs)) → rules.covers cs = rules'.covers cs :=
    fun cs hcs => covers_eq_of_hits_eq (hits_eq_of_put hnodup hf hold hnew h h' hnested hcs)
  unfold RuleSet.excludes
  rw [hcovers _ fun directory hfile => ⟨.inl (hpath directory hfile), .inl (hpath directory hfile)⟩]
  cases isDirectory with
  | false => rfl
  | true => rw [hcovers _ (hslash rfl)]

/-- A tree with an ignore file of its own and one in the directory `b`. -/
def nestedTree : Tree where
  entries := Tree.empty.entries ++
    [(Tree.home ++ [".gitignore"], .file "z\n".toUTF8.toList), (Tree.home ++ ["b"], .directory),
      (Tree.home ++ ["b", ".gitignore"], .file "x\n".toUTF8.toList)]

/-- The place of the ignore file in `b`. -/
def nestedFile : Location := Tree.home ++ ["b", ".gitignore"]

/-- With other lines in `b`, only what lies below `b` is decided in another way. -/
theorem excludes_eq_of_put_nestedTree :
    ∃ rules rules', load nestedTree ⟨"", []⟩ = .ok rules ∧
      load (nestedTree.put nestedFile (.file "!y\n/w".toUTF8.toList)) ⟨"", []⟩ = .ok rules' ∧
      rules.excludes "a/x" true = rules'.excludes "a/x" true ∧
      rules.excludes "b" true = rules'.excludes "b" true ∧
      rules.excludes "b/x" false ≠ rules'.excludes "b/x" false := by
  let named (c : Char) : Step := .item (.literal c)
  let anywhere : Rule := ⟨true, .path [.leadingDirectories, named 'z'] .entry⟩
  let rules : RuleSet :=
    [anywhere, ⟨true, .path [named 'b', .innerDirectories, .slash, named 'x'] .entry⟩]
  let rules' : RuleSet :=
    [anywhere, ⟨false, .path [named 'b', .innerDirectories, .slash, named 'y'] .entry⟩,
      ⟨true, .path [named 'b', .slash, named 'w'] .entry⟩]
  have h : load nestedTree ⟨"", []⟩ = .ok rules := by decide +kernel
  have h' : load (nestedTree.put nestedFile (.file "!y\n/w".toUTF8.toList)) ⟨"", []⟩ =
      .ok rules' := by decide +kernel
  -- the file is that of `b` alone, since a walk to the one in the root ends elsewhere
  have hdirectory : ∀ directory, IsFileOf nestedTree ⟨"", []⟩ nestedFile directory →
      directory = ["b"] := by
    rintro directory ⟨⟨found, hfound, hmem⟩, n, hn⟩
    have hall : directories nestedTree ⟨"", []⟩ = .ok [[], ["b"]] := by decide +kernel
    obtain rfl := Except.ok.inj (hall.symm.trans hfound)
    obtain rfl | hmem := List.mem_cons.1 hmem
    · have hroot : nestedTree.walk .seeing ⟨"", [fileName]⟩ =
          .ok (.taken (Tree.home ++ [".gitignore"]) (.file "z\n".toUTF8.toList)) := rfl
      exact absurd (Tree.Place.taken.inj (Except.ok.inj (hroot.symm.trans hn))).1 (by decide)
    · exact List.mem_singleton.1 hmem
  -- both texts hold only lines that stay in their directory
  have htext : Text.Utf8.decode "x\n".toUTF8.toList = .ok ['x', '\n'] := by decide +kernel
  have htext' : Text.Utf8.decode "!y\n/w".toUTF8.toList = .ok ['!', 'y', '\n', '/', 'w'] := by
    decide +kernel
  have hold : EveryLine (fun line => IsLocal line ∧ AsksForName line) "x\n".toUTF8.toList := by
    intro cs hcs
    obtain rfl := Except.ok.inj (htext.symm.trans hcs)
    decide +kernel
  have hnew : EveryLine (fun line => IsLocal line ∧ AsksForName line)
      "!y\n/w".toUTF8.toList := by
    intro cs hcs
    obtain rfl := Except.ok.inj (htext'.symm.trans hcs)
    decide +kernel
  -- so the theorem applies to every path that does not lie below `b`
  have hagree : ∀ path : String, ¬LiesIn ["b"] (RuleSet.relative path.toList) →
      ¬LiesIn ["b"] (RuleSet.relative (path.toList ++ ['/'])) ∨
        RuleSet.relative (path.toList ++ ['/']) = ("/".intercalate ["b"]).toList ++ ['/'] →
      rules.excludes path true = rules'.excludes path true := by
    intro path hpath hslash
    refine excludes_eq_of_put (f := nestedFile) (by decide +kernel) rfl h h'
      (hold.imp fun _ => And.left) (hnew.imp fun _ => And.left) ?_ ?_ ?_
    · intro directory hfile
      rw [hdirectory directory hfile]
      exact ⟨by decide +kernel, by decide +kernel⟩
    · intro directory hfile
      rw [hdirectory directory hfile]
      exact hpath
    · intro _ directory hfile
      rw [hdirectory directory hfile]
      exact ⟨hslash.imp_right fun hself => ⟨hself, hold.imp fun _ => And.right⟩,
        hslash.imp_right fun hself => ⟨hself, hnew.imp fun _ => And.right⟩⟩
  exact ⟨rules, rules', h, h', hagree "a/x" (by decide +kernel) (.inl (by decide +kernel)),
    hagree "b" (by decide +kernel) (.inr (by decide +kernel)), by decide +kernel⟩

/-- A line that begins with a backslash reaches beyond its directory. -/
example :
    (load (nestedTree.put nestedFile (.file "\\a".toUTF8.toList)) ⟨"", []⟩).map
      (·.excludes "a" false) = .ok true := by
  decide +kernel

end DesignMetrics.Ignore
