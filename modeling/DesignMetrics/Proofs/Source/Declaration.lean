import DesignMetrics.Proofs.Source.Header
import DesignMetrics.Proofs.Source.Occurrence

/-!
# Where declarations stand

From its first header on, a text is nothing but declarations: headers of the grammar, each with a
body in which no header starts. So the spans of the declarations tile the text, and each of them can
be cut out and scanned alone.
-/

namespace DesignMetrics.Source

open Text (isWord isBlank)

variable {text before source rest : List Char} {d : Declaration} {ds : List Declaration}

/-- A declaration in a text: after `before` come its header, which is written as `source`, and its
body, and then `rest`. -/
structure Declaration.Stands (d : Declaration) (before source rest : List Char) : Prop where
  boundary : IsBoundary before (source ++ (d.body.toList ++ rest))
  header : HeaderText ⟨d.name, d.parent⟩ source (d.body.toList ++ rest)
  apart : Apart d.body.toList rest
  silent : Silent header? (tokens d.body.toList) (tokens rest)
  start_eq : d.start = before.length
  stop_eq : d.stop = before.length + (source.length + d.body.length)

/-- After `before`, a text is one declaration after the other. -/
inductive Declared : (before text : List Char) → List Declaration → Prop where
  | nil {before : List Char} : Declared before [] []
  | cons {before source rest : List Char} {d : Declaration} {ds : List Declaration} :
      d.Stands before source rest → Declared (before ++ (source ++ d.body.toList)) rest ds →
      Declared before (source ++ (d.body.toList ++ rest)) (d :: ds)

/-! ## From places to declarations -/

/-- A place where a header is read is a header of the grammar and what follows it. -/
theorem exists_of_header?_append {ts us vs : List Token} {header : Header}
    (htext : tokens text = ts ++ (us ++ vs))
    (hread : header? (ts ++ (us ++ vs)) = some (header, us ++ vs)) :
    ∃ source body rest, text = source ++ (body ++ rest) ∧ tokens source = ts ∧ tokens body = us ∧
      tokens rest = vs ∧ Apart source (body ++ rest) ∧ Apart body rest ∧
      HeaderText header source (body ++ rest) := by
  obtain ⟨source, behind, rfl, rfl, hbehind, hcut⟩ := exists_of_tokens_eq_append htext
  obtain ⟨body, rest, rfl, rfl, rfl, hcut'⟩ := exists_of_tokens_eq_append hbehind
  rw [← htext, ← hbehind] at hread
  obtain ⟨source', rest', hsame, htokens, hheader⟩ := exists_of_header?_tokens hread
  -- the reader stops where the place ends, since it leaves the same tokens
  obtain rfl : body ++ rest = rest' := by
    rw [← textOf_tokens (body ++ rest), htokens, textOf_tokens]
  obtain rfl := List.append_cancel_right hsame
  exact ⟨source, body, rest, rfl, rfl, rfl, rfl, hcut, hcut', hheader⟩

/-- Headers that are found one after the other cut a text into declarations. -/
theorem Located.declared {ts : List Token} {found : List (Occurrence Header)}
    (h : Located header? ts found) (htext : tokens text = ts) (happart : Apart before text) :
    Declared before text (declarationsFrom before.length found) := by
  induction h generalizing before text with
  | nil =>
    have hnil : text = [] := by
      by_contra hne
      exact tokens_ne_nil hne htext
    subst hnil
    exact .nil
  | @cons o rest later hread hgap _ ih =>
    obtain ⟨source, body, behind, rfl, hsource, hbody, hbehind, hcut, hcut', hheader⟩ :=
      exists_of_header?_append htext hread
    have htextOf : textOf o.source = source ∧ textOf o.gap = body := by
      rw [← hsource, ← hbody, textOf_tokens, textOf_tokens]
      exact ⟨rfl, rfl⟩
    have hlist : (String.ofList body).toList = body := String.toList_ofList
    let d : Declaration := ⟨o.value.name, o.value.parent, String.ofList body, before.length,
      before.length + source.length + body.length⟩
    have hd : d.Stands before source behind :=
      { boundary := by rw [hlist]; exact happart.isBoundary (hheader.head?_any _)
        header := by rwa [hlist]
        apart := by rwa [hlist]
        silent := by rwa [hlist, hbody, hbehind]
        start_eq := rfl
        stop_eq := by rw [← String.length_toList, hlist, ← Nat.add_assoc] }
    -- the next declaration starts where this one stops
    have hnext : Apart (before ++ (source ++ d.body.toList)) behind := by
      rw [hlist]
      rw [← List.append_assoc source] at happart
      exact happart.append (hcut.append hcut')
    have hlength : (before ++ (source ++ d.body.toList)).length = d.stop := by
      rw [hlist]
      simp only [List.length_append, Nat.add_assoc, d]
    have hlater := ih hbehind hnext
    rw [hlength] at hlater
    have hall := Declared.cons hd hlater
    rw [hlist] at hall
    rwa [declarationsFrom, htextOf.1, htextOf.2]

/-- In front of the first declaration, no header starts. -/
theorem exists_declared (text : String) :
    ∃ before rest, text.toList = before ++ rest ∧ Apart before rest ∧
      Silent header? (tokens before) (tokens rest) ∧ Declared before rest (declarations text) := by
  obtain ⟨ts, htokens, hsilent, hlocated⟩ := header?_reads.exists_located (tokens text.toList)
  obtain ⟨before, rest, htext, hbefore, rfl, happart⟩ := exists_of_tokens_eq_append htokens
  have hlength : (textOf (occurrences header? (tokens text.toList)).1).length = before.length := by
    rw [← hbefore, textOf_tokens]
  refine ⟨before, rest, htext, happart, by rwa [hbefore], ?_⟩
  rw [declarations]
  dsimp only
  rw [hlength]
  exact hlocated.declared rfl happart

/-! ## Declarations of a text -/

/-- Every declaration stands somewhere in the text. -/
theorem Declared.exists_stands (h : Declared before text ds) (hd : d ∈ ds) :
    ∃ front source rest, before ++ text = front ++ (source ++ (d.body.toList ++ rest)) ∧
      d.Stands front source rest := by
  induction h with
  | nil => exact absurd hd (by simp)
  | @cons before source rest e ds he _ ih =>
    rcases List.mem_cons.1 hd with rfl | hmem
    · exact ⟨before, source, rest, rfl, he⟩
    · obtain ⟨front, source', rest', htext, hstands⟩ := ih hmem
      refine ⟨front, source', rest', ?_, hstands⟩
      rw [← htext]
      simp only [List.append_assoc]

/-- No declaration begins before the text does. -/
theorem Declared.le_start (h : Declared before text ds) (hd : d ∈ ds) :
    before.length ≤ d.start := by
  induction h with
  | nil => exact absurd hd (by simp)
  | @cons before source rest e ds he _ ih =>
    rcases List.mem_cons.1 hd with rfl | hmem
    · exact he.start_eq.ge
    · have hle := ih hmem
      rw [List.length_append] at hle
      omega

/-! ## Spans -/

/-- A declaration stops where its body ends. -/
theorem Declaration.Stands.stop_eq_length (h : d.Stands before source rest) :
    d.stop = (before ++ (source ++ d.body.toList)).length := by
  rw [h.stop_eq, List.length_append, List.length_append, String.length_toList]

/-- No declaration is empty, since its header is not. -/
theorem Declaration.Stands.start_lt_stop (h : d.Stands before source rest) :
    d.start < d.stop := by
  have hpos : 0 < source.length := List.length_pos_iff.2 h.header.ne_nil
  rw [h.start_eq, h.stop_eq]
  omega

/-- The first declaration begins where the text does. -/
theorem Declared.head?_start (h : Declared before text ds) :
    ∀ d ∈ ds.head?, d.start = before.length := by
  intro d hd
  cases h with
  | nil => exact absurd hd (by simp)
  | cons he _ =>
    obtain rfl := Option.some.inj hd
    exact he.start_eq

/-- Every declaration stops where the next one starts. -/
theorem Declared.isChain (h : Declared before text ds) :
    ds.IsChain fun d e => d.stop = e.start := by
  induction h with
  | nil => exact .nil
  | @cons before source rest d ds hd hrest ih =>
    cases hrest with
    | nil => exact .singleton d
    | cons he _ =>
      rw [List.isChain_cons_cons]
      exact ⟨hd.stop_eq_length.trans he.start_eq.symm, ih⟩

/-- The last declaration goes on to the end of the text. -/
theorem Declared.getLast?_stop (h : Declared before text ds) :
    ∀ d ∈ ds.getLast?, d.stop = (before ++ text).length := by
  induction h with
  | nil => simp
  | @cons before source rest d ds hd hrest ih =>
    intro e he
    cases hrest with
    | nil =>
      obtain rfl : d = e := by simpa using he
      rw [hd.stop_eq_length, List.append_nil]
    | cons _ _ =>
      rw [List.getLast?_cons_cons] at he
      rw [ih e he]
      simp only [List.append_assoc]

/-- A declaration stops before any later one starts. -/
theorem Declared.pairwise (h : Declared before text ds) :
    ds.Pairwise fun d e => d.stop ≤ e.start := by
  induction h with
  | nil => exact .nil
  | @cons before source rest d ds hd hrest ih =>
    refine .cons (fun e he => ?_) ih
    rw [hd.stop_eq_length]
    exact hrest.le_start he

/-- The text between two offsets. -/
def part (text : String) (start stop : Nat) : String :=
  String.ofList ((text.toList.drop start).take (stop - start))

/-- A part that is cut out by offsets is what stands between them. -/
theorem part_eq {text : String} (htext : text.toList = before ++ (source ++ rest)) :
    part text before.length (before.length + source.length) = String.ofList source := by
  rw [part, htext, List.drop_left, Nat.add_sub_cancel_left, List.take_left]

/-- The span of a declaration is its header and its body. -/
theorem Declaration.Stands.part_eq {text : String} (h : d.Stands before source rest)
    (htext : text.toList = before ++ (source ++ (d.body.toList ++ rest))) :
    part text d.start d.stop = String.ofList source ++ d.body := by
  have hspan : text.toList = before ++ ((source ++ d.body.toList) ++ rest) := by
    rw [htext, List.append_assoc]
  rw [h.start_eq, h.stop_eq, ← String.length_toList, ← List.length_append,
    Source.part_eq hspan, String.ofList_append, String.ofList_toList]

/-- Text in which no header starts holds none if it stands alone. -/
theorem Silent.alone {ts behind : List Token} (h : Silent header? ts behind) :
    Silent header? ts [] := by
  intro xs ys hts hne
  rw [List.append_nil]
  exact header?_eq_none_of_append (h xs ys hts hne)

/-- A text without a header declares nothing. -/
theorem declarations_eq_nil {behind : List Token} {text : String}
    (h : Silent header? (tokens text.toList) behind) : declarations text = [] := by
  rw [declarations, h.alone.occurrences_eq]
  rfl

/-- A declaration is the same if nothing else stands around it. -/
theorem Declaration.Stands.declarations_eq (h : d.Stands before source rest) :
    declarations (String.ofList source ++ d.body) =
      [{ d with start := 0, stop := d.stop - d.start }] := by
  have hread := h.header.of_append.header?_eq
  have hbody := h.silent.alone.occurrences_eq
  obtain ⟨ts, -, hsource, hocc⟩ := header?_reads.occurrences_eq hread
  have hts : textOf ts = source := by
    have htext := congrArg textOf hsource
    rw [textOf_append, textOf_tokens, textOf_tokens] at htext
    exact List.append_cancel_right htext
  have hlist : (String.ofList source ++ d.body).toList = source ++ d.body.toList := by
    rw [String.toList_append, String.toList_ofList]
  have hstop : d.stop - d.start = 0 + source.length + d.body.toList.length := by
    rw [h.stop_eq, h.start_eq, String.length_toList]
    omega
  rw [declarations, hlist, hocc, hbody]
  simp only [declarationsFrom, textOf_tokens, hts, String.ofList_toList, hstop]
  rfl

/-! ## Tiling -/

/-- Every declaration stands in the text, with its header in front of its body. -/
theorem exists_stands {text : String} (hd : d ∈ declarations text) :
    ∃ before source rest, text.toList = before ++ (source ++ (d.body.toList ++ rest)) ∧
      d.Stands before source rest := by
  obtain ⟨before, rest, htext, -, -, hdeclared⟩ := exists_declared text
  rw [htext]
  exact hdeclared.exists_stands hd

/-- Declarations do not overlap. -/
theorem pairwise_declarations (text : String) :
    (declarations text).Pairwise fun d e => d.stop ≤ e.start := by
  obtain ⟨before, rest, -, -, -, hdeclared⟩ := exists_declared text
  exact hdeclared.pairwise

/-- The declarations of a text tile it from the first of them on, and each of them can be told from
its span alone. -/
structure Tiles (text : String) (ds : List Declaration) : Prop where
  adjacent : ds.IsChain fun d e => d.stop = e.start
  last : ∀ d ∈ ds.getLast?, d.stop = text.length
  disjoint : ds.Pairwise fun d e => d.stop ≤ e.start
  front : ∀ d ∈ ds.head?, declarations (part text 0 d.start) = []
  span : ∀ d ∈ ds, ∃ header, header ≠ "" ∧ part text d.start d.stop = header ++ d.body
  alone : ∀ d ∈ ds, declarations (part text d.start d.stop) =
    [{ d with start := 0, stop := d.stop - d.start }]
  body : ∀ d ∈ ds, declarations d.body = []

/-- The first header opens the first declaration, and from there on every character belongs to
exactly one declaration, which its span alone decides. -/
theorem declarations_tiles (text : String) : Tiles text (declarations text) where
  adjacent := by
    obtain ⟨before, rest, -, -, -, hdeclared⟩ := exists_declared text
    exact hdeclared.isChain
  last := by
    intro d hd
    obtain ⟨before, rest, htext, -, -, hdeclared⟩ := exists_declared text
    rw [hdeclared.getLast?_stop d hd, ← htext, String.length_toList]
  disjoint := pairwise_declarations text
  front := by
    intro d hd
    obtain ⟨before, rest, htext, -, hsilent, hdeclared⟩ := exists_declared text
    have hspan : text.toList = [] ++ (before ++ rest) := htext
    -- the text in front is what is passed over before the first header
    have hfront : part text 0 d.start = String.ofList before := by
      rw [hdeclared.head?_start d hd, ← Nat.zero_add before.length]
      exact part_eq hspan
    rw [← String.toList_ofList (l := before)] at hsilent
    rw [hfront, declarations_eq_nil hsilent]
  span := by
    intro d hd
    obtain ⟨before, source, rest, htext, h⟩ := exists_stands hd
    refine ⟨String.ofList source, ?_, h.part_eq htext⟩
    rw [ne_eq, ← String.toList_inj, String.toList_ofList]
    exact h.header.ne_nil
  alone := by
    intro d hd
    obtain ⟨before, source, rest, htext, h⟩ := exists_stands hd
    rw [h.part_eq htext, h.declarations_eq]
  body := by
    intro d hd
    obtain ⟨before, source, rest, -, h⟩ := exists_stands hd
    exact declarations_eq_nil h.silent

/-- A header may follow another one at once. -/
example : declarations "open class A:B(0)data class C\x7b\x7d" =
    [⟨"A", some "B", "", 0, 17⟩, ⟨"C", none, "\x7b\x7d", 17, 31⟩] := by
  decide +kernel

end DesignMetrics.Source
