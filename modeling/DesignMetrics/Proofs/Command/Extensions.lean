import DesignMetrics.Command.Arguments
import DesignMetrics.Proofs.Distinct
import DesignMetrics.Proofs.Text.Lowercase
import DesignMetrics.Proofs.Text.Split

/-!
# Extensions named on the command line

The argument is cut at its commas, and each part is brought into a form in which extensions can be
compared. White space is removed before the dots in front are, and not once more behind them: a
part with blanks between its dots and its letters keeps the blanks.
-/

namespace DesignMetrics.Command

open Text

/-! ## One part -/

/-- What is left of a part without white space around it and dots in front. -/
def strippedPart (part : List Char) : List Char :=
  (trim part).dropWhile (· == '.')

/-- The extension that a part names. -/
def extensionOf (part : List Char) : List Char :=
  lowercase (strippedPart part)

/-- The dots of a part stand in front of blanks. -/
def HidesBlank (part : List Char) : Prop :=
  (strippedPart part).head?.any isBlank = true

/-- The form of extensions. Nothing is said of blanks in front. -/
structure IsNormal (extension : List Char) : Prop where
  ne_nil : extension ≠ []
  notMem : ',' ∉ extension
  undotted : extension.head? ≠ some '.'
  trimmed : trimEnd extension = extension
  lowered : lowercase extension = extension

variable {part extension : List Char}

theorem isPause_of_isBlank (c : Char) (hc : isBlank c = true) : isPause c = true := by
  simp [isPause, hc]

theorem strippedPart_sublist (part : List Char) : (strippedPart part).Sublist part :=
  (List.dropWhile_sublist _).trans (trim_sublist part)

/-- Dots in front are removed from what ends without a blank. -/
theorem any_getLast?_strippedPart (part : List Char) :
    (strippedPart part).getLast?.any isBlank = false := by
  have htrimmed : (trim part).getLast?.any isBlank = false :=
    trimEnd_eq_self_iff.1 (trimEnd_trimEnd _)
  by_cases hnil : strippedPart part = []
  · rw [hnil]
    rfl
  · obtain ⟨dots, hdots⟩ : strippedPart part <:+ trim part := List.dropWhile_suffix _
    rwa [← hdots, List.getLast?_append_of_ne_nil _ hnil] at htrimmed

theorem head?_strippedPart_ne (part : List Char) :
    (strippedPart part).head?.any (· == '.') = false := by
  have hhead := List.head?_dropWhile_not (· == '.') (trim part)
  unfold strippedPart
  cases h : ((trim part).dropWhile (· == '.')).head? with
  | none => rfl
  | some c =>
    rw [h] at hhead
    exact hhead

/-- The extension of a part is normal, unless the part has none. -/
theorem isNormal_extensionOf (hcomma : ',' ∉ part) (hne : extensionOf part ≠ []) :
    IsNormal (extensionOf part) where
  ne_nil := hne
  notMem hmem :=
    hcomma ((strippedPart_sublist part).subset (mem_of_mem_lowercase (by decide) hmem))
  undotted hdot := by
    have hhead := any_head?_lowercase (strippedPart part) (p := (· == '.'))
      (by simp [isPause])
    rw [head?_strippedPart_ne] at hhead
    change (extensionOf part).head?.any _ = false at hhead
    rw [hdot] at hhead
    exact absurd hhead (by decide)
  trimmed := by
    have hlast := any_getLast?_lowercase (strippedPart part) isPause_of_isBlank
    rw [trimEnd_eq_self_iff, extensionOf, hlast]
    exact any_getLast?_strippedPart part
  lowered := lowercase_lowercase _

/-- Blanks are left at the ends of an extension if they were hidden by dots. -/
theorem trim_extensionOf_eq_iff :
    trim (extensionOf part) = extensionOf part ↔ ¬ HidesBlank part := by
  have hhead := any_head?_lowercase (strippedPart part) isPause_of_isBlank
  have hlast := any_getLast?_lowercase (strippedPart part) isPause_of_isBlank
  rw [any_getLast?_strippedPart] at hlast
  rw [trim_eq_self_iff, trimStart_eq_self_iff, trimEnd_eq_self_iff, extensionOf, hhead, hlast]
  simp [HidesBlank]

namespace IsNormal

variable (h : IsNormal extension)
include h

/-- A normal extension is its own. -/
theorem extensionOf_eq_strippedPart : extensionOf extension = strippedPart extension := by
  apply lowercase_of_isSmall
  intro c hc
  have hmem : c ∈ lowercase extension := by
    rw [h.lowered]
    exact (strippedPart_sublist extension).subset hc
  exact isSmall_of_mem_lowercase hmem

/-- Named once more, an extension stays what it is if no blanks are at its ends. -/
theorem extensionOf_eq_self_iff : extensionOf extension = extension ↔
    trim extension = extension := by
  rw [h.extensionOf_eq_strippedPart]
  constructor
  · intro hsame
    -- nothing was removed in either step, as nothing is missing in the end
    have hdots : (strippedPart extension).length ≤ (trim extension).length :=
      (List.dropWhile_sublist _).length_le
    have htrim := (trim_sublist extension).length_le
    rw [hsame] at hdots
    exact (trim_sublist extension).eq_of_length (by omega)
  · intro htrim
    have hundotted := h.undotted
    rw [strippedPart, htrim]
    cases extension with
    | nil => rfl
    | cons c rest =>
      apply List.dropWhile_cons_of_neg
      simpa using hundotted

end IsNormal

/-! ## All parts -/

/-- The extensions that parts name, which may be repeated. -/
def namedIn (parts : List (List Char)) : List String :=
  (parts.map fun part => String.ofList (extensionOf part)).filter (· != "")

variable {argument name : String} {parts : List (List Char)}

/-- The extensions of parts are named in small letters, without what stands around them. -/
theorem mem_namedIn_iff :
    name ∈ namedIn parts ↔ name ≠ "" ∧ ∃ part ∈ parts, extensionOf part = name.toList := by
  simp only [namedIn, List.mem_filter, List.mem_map, bne_iff_ne, and_comm (b := name ≠ ""),
    ← String.toList_inj, String.toList_ofList]

theorem extensionsOf_eq (argument : String) :
    extensionsOf argument = (namedIn (splitOn ',' argument.toList)).eraseDups :=
  rfl

theorem firstOccurrences_extensionsOf (argument : String) :
    FirstOccurrences (namedIn (splitOn ',' argument.toList)) (extensionsOf argument) :=
  firstOccurrences_eraseDups _

theorem mem_extensionsOf_iff : name ∈ extensionsOf argument ↔
    name ≠ "" ∧ ∃ part ∈ splitOn ',' argument.toList, extensionOf part = name.toList := by
  rw [(firstOccurrences_extensionsOf argument).mem_iff, mem_namedIn_iff]

theorem isNormal_of_mem (h : name ∈ extensionsOf argument) : IsNormal name.toList := by
  obtain ⟨hne, part, hpart, hname⟩ := mem_extensionsOf_iff.1 h
  rw [← hname]
  apply isNormal_extensionOf (not_mem_of_mem_splitOn hpart)
  rw [hname]
  simpa using hne

/-- No extension has blanks at its ends if no part hides any. -/
theorem forall_trim_eq_iff (argument : String) :
    (∀ name ∈ extensionsOf argument, trim name.toList = name.toList) ↔
      ∀ part ∈ splitOn ',' argument.toList, ¬ HidesBlank part := by
  constructor
  · intro h part hpart
    rw [← trim_extensionOf_eq_iff]
    by_cases hnil : extensionOf part = []
    · rw [hnil]
      rfl
    · have hmem : String.ofList (extensionOf part) ∈ extensionsOf argument := by
        rw [mem_extensionsOf_iff]
        refine ⟨?_, part, hpart, String.toList_ofList.symm⟩
        simpa [← String.toList_inj] using hnil
      have htrim := h _ hmem
      rwa [String.toList_ofList] at htrim
  · intro h name hname
    obtain ⟨-, part, hpart, hpart_eq⟩ := mem_extensionsOf_iff.1 hname
    rw [← hpart_eq, trim_extensionOf_eq_iff]
    exact h part hpart

/-- Joined extensions are the parts of the argument that they make. -/
theorem extensionsOf_intercalate {names : List String}
    (h : ∀ name ∈ names, IsNormal name.toList) :
    extensionsOf (",".intercalate names) = (namedIn (names.map String.toList)).eraseDups := by
  cases names with
  | nil => rfl
  | cons first others =>
    have hparts : splitOn ',' (",".intercalate (first :: others)).toList =
        (first :: others).map String.toList := by
      rw [String.toList_intercalate]
      apply splitOn_intercalate (by simp)
      intro piece hpiece
      obtain ⟨name, hname, rfl⟩ := List.mem_map.1 hpiece
      exact (h name hname).notMem
    rw [extensionsOf_eq, hparts]

/-- Extensions are found again in the argument that they make if each of them is in its own. -/
theorem eraseDups_namedIn_eq_iff {names : List String} (hnodup : names.Nodup)
    (h : ∀ name ∈ names, IsNormal name.toList) :
    (namedIn (names.map String.toList)).eraseDups = names ↔
      ∀ name ∈ names, extensionOf name.toList = name.toList := by
  have hnamed : namedIn (names.map String.toList) =
      (names.map fun name => String.ofList (extensionOf name.toList)).filter (· != "") := by
    rw [namedIn, List.map_map]
    rfl
  rw [hnamed]
  constructor
  · intro hsame name hname
    -- as many extensions come out as went in, so none of them was dropped
    have hsublist := (eraseDups_sublist (α := String) _).trans (List.filter_sublist
      (p := (· != "")) (l := names.map fun name => String.ofList (extensionOf name.toList)))
    rw [hsame] at hsublist
    have hmap := hsublist.eq_of_length (List.length_map _).symm
    have hid := (List.map_eq_map_iff.1 ((List.map_id names).trans hmap)) name hname
    rw [← String.toList_ofList (l := extensionOf name.toList), ← hid]
    rfl
  · intro hsame
    have hmap : names.map (fun name => String.ofList (extensionOf name.toList)) = names := by
      rw [List.map_congr_left (g := id) fun name hname => ?_, List.map_id]
      rw [hsame name hname, String.ofList_toList]
      rfl
    have hfilter : names.filter (· != "") = names := by
      rw [List.filter_eq_self]
      intro name hname
      have hne := (h name hname).ne_nil
      simpa using hne
    rw [hmap, hfilter, eraseDups_of_nodup hnodup]

/-- Each extension that an argument names is listed once, in the order in which they come first,
in small letters, without commas, dots in front or blanks at the end. Blanks stand in front of an
extension, and joined extensions name others, exactly if some part hides blanks behind its dots. -/
theorem extensionsOf_normalizes (argument : String) :
    let parts := splitOn ',' argument.toList
    let extensions := extensionsOf argument
    (∀ extension ∈ extensions, IsNormal extension.toList) ∧
    FirstOccurrences (namedIn parts) extensions ∧
    ((∀ extension ∈ extensions, trim extension.toList = extension.toList) ↔
      ∀ part ∈ parts, ¬ HidesBlank part) ∧
    (extensionsOf (",".intercalate extensions) = extensions ↔
      ∀ part ∈ parts, ¬ HidesBlank part) := by
  intro parts extensions
  have hnormal : ∀ extension ∈ extensions, IsNormal extension.toList :=
    fun _ => isNormal_of_mem
  have hkept := firstOccurrences_extensionsOf argument
  refine ⟨hnormal, hkept, forall_trim_eq_iff argument, ?_⟩
  rw [extensionsOf_intercalate hnormal, eraseDups_namedIn_eq_iff hkept.nodup hnormal,
    ← forall_trim_eq_iff argument]
  apply forall₂_congr
  intro extension hextension
  exact (hnormal extension hextension).extensionOf_eq_self_iff

example : extensionsOf " .Kt,py,..KT," = ["kt", "py"] ∧ extensionsOf ". kt" = [" kt"] := by
  decide +kernel

end DesignMetrics.Command
