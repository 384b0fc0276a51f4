import DesignMetrics.Proofs.Source.Reader
import DesignMetrics.Proofs.Source.Token
import DesignMetrics.Source.Scan
import Mathlib.Data.List.Chain
import Mathlib.Data.List.TakeWhile

/-!
# Layout

What is read from a source does not depend on its layout. Readers look at words and marks and at
where white space stands, but never at which white space it is, and so every run of white space may
be replaced by any other.
-/

namespace DesignMetrics.Source

open Text (isWord isBlank)

/-- The same text with other white space: every longest run of it is replaced by some other run. -/
inductive Respaced : List Char → List Char → Prop
  | nil : Respaced [] []
  | char {c : Char} {cs ds : List Char} :
    isBlank c = false → Respaced cs ds → Respaced (c :: cs) (c :: ds)
  | gap {gap gap' cs ds : List Char} :
    IsGap gap → IsGap gap' → Ends isBlank cs → Respaced cs ds → Respaced (gap ++ cs) (gap' ++ ds)

/-! ## Tokens without their layout -/

/-- A token without the kind of its white space. -/
def Token.bare : Token → Token
  | .blank _ => .blank []
  | t => t

@[simp] theorem Token.bare_word (letters : List Char) : (Token.word letters).bare = .word letters :=
  rfl

@[simp] theorem Token.bare_blank (spaces : List Char) : (Token.blank spaces).bare = .blank [] := rfl

@[simp] theorem Token.bare_mark (c : Char) : (Token.mark c).bare = .mark c := rfl

/-- Tokens without the kind of their white space. -/
def bareTokens (ts : List Token) : List Token := ts.map Token.bare

@[simp] theorem bareTokens_nil : bareTokens [] = [] := rfl

@[simp] theorem bareTokens_cons (t : Token) (ts : List Token) :
    bareTokens (t :: ts) = t.bare :: bareTokens ts := rfl

@[simp] theorem length_bareTokens (ts : List Token) : (bareTokens ts).length = ts.length :=
  List.length_map _

/-- A character that is not white space is put in front of tokens in the same way, whatever their
layout. -/
theorem bareTokens_push {c : Char} (hc : isBlank c = false) (ts : List Token) :
    bareTokens (Token.push c ts) = Token.push c (bareTokens ts) := by
  unfold Token.push
  rw [hc]
  split
  · cases ts with
    | nil => rfl
    | cons t ts => cases t <;> rfl
  · rfl

/-- Where no white space goes on in a text, none does in the respaced one. -/
theorem Respaced.ends {cs ds : List Char} (h : Respaced cs ds) (hcs : Ends isBlank cs) :
    Ends isBlank ds := by
  cases h with
  | nil => exact hcs
  | char hc _ => exact ends_cons hc _
  | gap hg _ _ _ =>
    -- white space does not end where it stands
    obtain ⟨c, gap, rfl⟩ := List.exists_cons_of_ne_nil hg.ne_nil
    have hblank : isBlank c = true := hg.all c List.mem_cons_self
    rw [hcs c rfl] at hblank
    cases hblank

/-- Texts that differ in their layout have the same tokens but for the kind of white space. -/
theorem Respaced.bareTokens_eq {cs ds : List Char} (h : Respaced cs ds) :
    bareTokens (tokens cs) = bareTokens (tokens ds) := by
  induction h with
  | nil => rfl
  | @char c cs ds hc _ ih =>
    show bareTokens (Token.push c (tokens cs)) = bareTokens (Token.push c (tokens ds))
    rw [bareTokens_push hc, bareTokens_push hc, ih]
  | gap hg hg' hcs hrest ih =>
    rw [tokens_gap_append hg hcs, tokens_gap_append hg' (hrest.ends hcs)]
    simp [ih]

/-! ## Readers that ignore the layout -/

section
variable {α : Type}

/-- What is read and what is left of it, without the layout. -/
def bareRest (r : α × List Token) : α × List Token := (r.1, bareTokens r.2)

/-- A reader for which all white space is the same. -/
def IgnoresLayout (read? : List Token → Option (α × List Token)) : Prop :=
  ∀ ts, read? (bareTokens ts) = (read? ts).map bareRest

end

/-- Leading words are found by the white space behind them, whichever it is. -/
theorem ignoresLayout_lead? : IgnoresLayout lead? := by
  intro ts
  match ts with
  | [] | [.word _] | .blank _ :: _ | .mark _ :: _ | .word _ :: .word _ :: _
  | .word _ :: .mark _ :: _ | .word _ :: .blank _ :: _ => rfl

/-- The same leading words are passed over. -/
theorem skipLeads_bareTokens (keywords : List String) (ts : List Token) :
    skipLeads keywords (bareTokens ts) = bareTokens (skipLeads keywords ts) := by
  fun_induction skipLeads keywords ts with
  | case1 letters spaces rest hw ih => simp [skipLeads, hw, ih]
  | case2 letters spaces rest hw => simp [skipLeads, hw]
  | case3 ts h =>
    rcases ts with _ | ⟨letters | _ | _, _ | ⟨_ | spaces | _, rest⟩⟩
    case cons.word.cons.blank => exact absurd rfl (h letters spaces rest)
    all_goals rfl

/-- The name behind a keyword does not depend on the layout. -/
theorem ignoresLayout_namedBy? (keywords : List String) : IgnoresLayout (namedBy? keywords) := by
  intro ts
  unfold namedBy?
  rw [ignoresLayout_lead?]
  cases lead? ts with
  | none => rfl
  | some r =>
    obtain ⟨keyword, rest⟩ := r
    match rest with
    | [] | .blank _ :: _ | .mark _ :: _ => rfl
    | .word letters :: rest =>
      simp only [Option.map_some, bareRest, bareTokens_cons, Token.bare_word]
      split <;> rfl

/-! ## Headers of classes -/

/-- White space is no part of a type, whichever it is. -/
theorem isTypePart_bare (t : Token) : isTypePart t.bare = isTypePart t := by
  cases t <;> rfl

/-- White space in front is passed over. -/
theorem skipBlank_bareTokens (ts : List Token) :
    skipBlank (bareTokens ts) = bareTokens (skipBlank ts) := by
  match ts with
  | [] | .word _ :: _ | .mark _ :: _ | .blank _ :: _ => rfl

theorem dropWhile_bareTokens {p : Token → Bool} (hp : ∀ t, p t.bare = p t) (ts : List Token) :
    (bareTokens ts).dropWhile p = bareTokens (ts.dropWhile p) := by
  rw [bareTokens, bareTokens, List.dropWhile_map, show p ∘ Token.bare = p from funext hp]

theorem takeWhile_bareTokens {p : Token → Bool} (hp : ∀ t, p t.bare = p t) (ts : List Token) :
    (bareTokens ts).takeWhile p = bareTokens (ts.takeWhile p) := by
  rw [bareTokens, bareTokens, List.takeWhile_map, show p ∘ Token.bare = p from funext hp]

/-- The parts of a type hold no white space. -/
theorem bareTokens_takeWhile_isTypePart (ts : List Token) :
    bareTokens (ts.takeWhile isTypePart) = ts.takeWhile isTypePart := by
  have hbare : ∀ t ∈ ts.takeWhile isTypePart, t.bare = t := by
    intro t ht
    have hpart : isTypePart t = true := List.mem_takeWhile_imp ht
    cases t with
    | blank spaces => cases hpart
    | word _ | mark _ => rfl
  exact (List.map_congr_left hbare).trans (List.map_id _)

/-- So are the arguments of a parent. -/
theorem skipArguments_bareTokens (ts : List Token) :
    skipArguments (bareTokens ts) = bareTokens (skipArguments ts) := by
  have hclose : ∀ t : Token, (t.bare != .mark ')') = (t != .mark ')') := by
    intro t
    cases t <;> rfl
  have hdrop := fun rest => dropWhile_bareTokens (p := (· != .mark ')')) hclose rest
  rcases ts with _ | ⟨_ | _ | c, rest⟩
  case cons.mark =>
    by_cases hc : c = '('
    · subst hc
      simp only [bareTokens_cons, Token.bare_mark, skipArguments, hdrop]
      cases rest.dropWhile (· != .mark ')') <;> rfl
    · unfold skipArguments
      simp [hc]
  all_goals rfl

/-- The clause of a parent does not depend on the layout. -/
theorem ignoresLayout_parentClause? : IgnoresLayout parentClause? := by
  intro ts
  unfold parentClause?
  rw [skipBlank_bareTokens]
  match skipBlank ts with
  | [] | .word _ :: _ | .blank _ :: _ => rfl
  | .mark c :: rest =>
    by_cases hc : c = ':'
    · subst hc
      simp only [bareTokens_cons, Token.bare_mark, skipBlank_bareTokens,
        takeWhile_bareTokens isTypePart_bare, dropWhile_bareTokens isTypePart_bare,
        bareTokens_takeWhile_isTypePart, skipArguments_bareTokens]
      cases (skipBlank rest).takeWhile isTypePart <;> rfl
    · simp [hc]

/-- The header of a class does not depend on the layout. -/
theorem ignoresLayout_header? : IgnoresLayout header? := by
  intro ts
  unfold header?
  rw [skipLeads_bareTokens, ignoresLayout_namedBy?]
  cases namedBy? ["class"] (skipLeads classModifiers ts) with
  | none => rfl
  | some r =>
    simp only [Option.map_some, bareRest, ignoresLayout_parentClause? r.2]
    cases parentClause? r.2 <;> rfl

/-! ## Headers of members -/

/-- Nor does the visibility in front of a member. -/
theorem readVisibility_bareTokens (ts : List Token) :
    readVisibility (bareTokens ts) = bareRest (readVisibility ts) := by
  unfold readVisibility
  rw [ignoresLayout_lead?]
  cases lead? ts with
  | none => rfl
  | some r =>
    simp only [Option.map_some, bareRest]
    split <;> rfl

/-- Nor do the words around an override. -/
theorem readOverride_bareTokens (ts : List Token) :
    readOverride (bareTokens ts) = bareRest (readOverride ts) := by
  unfold readOverride
  rw [ignoresLayout_lead?]
  cases lead? ts with
  | none => rfl
  | some r =>
    obtain ⟨word, rest⟩ := r
    by_cases hw : word = "override"
    · subst hw
      rfl
    · simp [bareRest, hw]

/-- Methods are read in the same way in every layout. -/
theorem ignoresLayout_method? : IgnoresLayout method? := by
  intro ts
  unfold method?
  simp only [readVisibility_bareTokens, bareRest, skipLeads_bareTokens, readOverride_bareTokens,
    ignoresLayout_namedBy? ["fun"] _, Option.map_map]
  rfl

/-- So are attributes. -/
theorem ignoresLayout_attribute? : IgnoresLayout attribute? := by
  intro ts
  unfold attribute?
  simp only [readVisibility_bareTokens, bareRest, skipLeads_bareTokens,
    ignoresLayout_namedBy? ["val", "var"] _, Option.map_map]
  rfl

/-! ## Searches -/

section
variable {α : Type} {read? : List Token → Option (α × List Token)}

/-- A place where a reader found something, without the layout. -/
def Occurrence.bare (o : Occurrence α) : Occurrence α :=
  ⟨o.value, bareTokens o.source, bareTokens o.gap⟩

/-- A reader that ignores the layout finds the same in the same places. -/
theorem IgnoresLayout.occurrencesFrom_eq (h : IgnoresLayout read?) (skip : Nat) (ts : List Token) :
    occurrencesFrom read? skip (bareTokens ts) =
      (bareTokens (occurrencesFrom read? skip ts).1,
        (occurrencesFrom read? skip ts).2.map Occurrence.bare) := by
  fun_induction occurrencesFrom read? skip ts with
  | case1 => rfl
  | case2 skip t ts ih => exact ih
  | case3 t ts value rest hread size gap later heq ih =>
    have hbare := h (t :: ts)
    rw [hread, Option.map_some, bareTokens_cons] at hbare
    rw [bareTokens_cons, occurrencesFrom, hbare]
    -- token for token, as many are used in both layouts
    have hsize : (t.bare :: bareTokens ts).length - (bareTokens rest).length = size := by
      rw [List.length_cons, length_bareTokens, length_bareTokens]
      rfl
    have htake : (t.bare :: bareTokens ts).take size = bareTokens ((t :: ts).take size) := by
      rw [← bareTokens_cons, bareTokens, bareTokens, List.map_take]
    simp only [bareRest, hsize, ih, heq, htake]
    rfl
  | case4 t ts hread gap later heq ih =>
    have hbare := h (t :: ts)
    rw [hread, Option.map_none, bareTokens_cons] at hbare
    rw [bareTokens_cons, occurrencesFrom, hbare]
    simp only [ih, heq]
    rfl

/-- All that a reader finds in a text is found in every layout of it. -/
theorem IgnoresLayout.readAll_eq (h : IgnoresLayout read?) {ts us : List Token}
    (hbare : bareTokens ts = bareTokens us) : readAll read? ts = readAll read? us := by
  have hvalues : ∀ ts, readAll read? (bareTokens ts) = readAll read? ts := by
    intro ts
    rw [readAll, occurrences, h.occurrencesFrom_eq, List.map_map]
    rfl
  rw [← hvalues ts, hbare, hvalues us]

/-- The tokens between two places stand side by side in the text. -/
theorem isInfix_gaps (skip : Nat) (ts : List Token) :
    (occurrencesFrom read? skip ts).1 <+: ts.drop skip ∧
      ∀ o ∈ (occurrencesFrom read? skip ts).2, o.gap <:+: ts := by
  fun_induction occurrencesFrom read? skip ts with
  | case1 => simp
  | case2 skip t ts ih =>
    exact ⟨ih.1, fun o ho => (ih.2 o ho).trans (List.suffix_cons t ts).isInfix⟩
  | case3 t ts value rest hread size gap later heq ih =>
    rw [heq] at ih
    refine ⟨List.nil_prefix, ?_⟩
    rw [List.forall_mem_cons]
    have hgap : gap <:+: ts := ih.1.isInfix.trans (List.drop_suffix _ _).isInfix
    exact ⟨hgap.trans (List.suffix_cons t ts).isInfix,
      fun o ho => (ih.2 o ho).trans (List.suffix_cons t ts).isInfix⟩
  | case4 t ts hread gap later heq ih =>
    rw [heq] at ih
    exact ⟨(List.prefix_cons_inj t).2 ih.1,
      fun o ho => (ih.2 o ho).trans (List.suffix_cons t ts).isInfix⟩

end

/-! ## Tokens of a part of a text -/

/-- Tokens between which no run goes on. -/
def Token.Separate : Token → Token → Prop
  | .word _, .word _ => False
  | .blank _, .blank _ => False
  | _, _ => True

/-- A token may take the place of another one of its kind. -/
theorem Token.isChain_of_separate {t t' : Token} {ts : List Token}
    (hkind : ∀ u, Separate t u → Separate t' u) (h : (t :: ts).IsChain Separate) :
    (t' :: ts).IsChain Separate := by
  rw [List.isChain_cons] at h ⊢
  exact ⟨fun u hu => hkind u (h.1 u hu), h.2⟩

/-- What a character is put in front of stays without cut runs. -/
theorem Token.isChain_push (c : Char) {ts : List Token} (h : ts.IsChain Separate) :
    (push c ts).IsChain Separate := by
  unfold push
  split
  · split
    · exact isChain_of_separate (fun u hu => by cases u <;> exact hu) h
    · next hne =>
      -- a run begins, because what follows is of another kind
      refine List.isChain_cons.2 ⟨fun u hu => ?_, h⟩
      obtain ⟨rest, rfl⟩ := List.head?_eq_some_iff.1 hu
      cases u with
      | word letters => exact absurd rfl (hne letters rest)
      | blank _ | mark _ => trivial
  · split
    · split
      · exact isChain_of_separate (fun u hu => by cases u <;> exact hu) h
      · next hne =>
        refine List.isChain_cons.2 ⟨fun u hu => ?_, h⟩
        obtain ⟨rest, rfl⟩ := List.head?_eq_some_iff.1 hu
        cases u with
        | blank spaces => exact absurd rfl (hne spaces rest)
        | word _ | mark _ => trivial
    · exact List.isChain_cons.2 ⟨fun u _ => by cases u <;> trivial, h⟩

/-- No run is cut into two tokens. -/
theorem isChain_tokens (cs : List Char) : (tokens cs).IsChain Token.Separate := by
  induction cs with
  | nil => exact .nil
  | cons c cs ih => exact Token.isChain_push c ih

/-- The text of a single token is cut into that token. -/
theorem Token.tokens_text {t : Token} (h : t.Proper) : tokens t.text = [t] := by
  cases t with
  | word letters => exact tokens_word h
  | blank spaces => exact tokens_gap h
  | mark c => exact tokens_mark h.1 h.2 []

/-- Between two tokens no run goes on in their text. -/
theorem Token.apart_text {t u : Token} (ht : t.Proper) (hu : u.Proper) (h : Separate t u)
    (cs : List Char) : Apart t.text (u.text ++ cs) := by
  intro c hc
  have hmem : c ∈ t.text := List.mem_of_getLast? hc
  constructor
  · intro hword
    cases u with
    | word _ =>
      -- what stands before a word is no word
      cases t with
      | word _ => exact h.elim
      | blank spaces =>
        exact absurd hword (by simp [Text.isWord_eq_false_of_isBlank (ht.all c hmem)])
      | mark d => exact absurd hword (by simp [List.mem_singleton.1 hmem, ht.1])
    | blank spaces => exact IsRun.ends_isWord hu cs
    | mark d => exact ends_cons hu.1 cs
  · intro hblank
    cases u with
    | blank _ =>
      cases t with
      | blank _ => exact h.elim
      | word letters =>
        exact absurd hblank (by simp [Text.isBlank_eq_false_of_isWord (ht.all c hmem)])
      | mark d => exact absurd hblank (by simp [List.mem_singleton.1 hmem, ht.2])
    | word letters => exact IsRun.ends_isBlank hu cs
    | mark d => exact ends_cons hu.2 cs

/-- Tokens without a cut run are the tokens of their text. -/
theorem tokens_textOf {ts : List Token} (hproper : ∀ t ∈ ts, t.Proper)
    (hseparate : ts.IsChain Token.Separate) : tokens (textOf ts) = ts := by
  induction ts with
  | nil => rfl
  | cons t ts ih =>
    rw [List.forall_mem_cons] at hproper
    have hrest : tokens (textOf ts) = ts := ih hproper.2 (List.isChain_cons.1 hseparate).2
    have happart : Apart t.text (textOf ts) := by
      cases ts with
      | nil =>
        have hends (kind : Char → Bool) : Ends kind [] := fun c hc => absurd hc (by simp)
        exact fun c _ => ⟨fun _ => hends isWord, fun _ => hends isBlank⟩
      | cons u ts =>
        exact Token.apart_text hproper.1 (hproper.2 u List.mem_cons_self)
          (List.isChain_cons_cons.1 hseparate).1 (textOf ts)
    show tokens (t.text ++ textOf ts) = t :: ts
    rw [tokens_append happart, Token.tokens_text hproper.1, hrest]
    rfl

/-- A part of the tokens of a text is cut from its own text in the same way. -/
theorem tokens_textOf_of_isInfix {ts : List Token} {cs : List Char} (h : ts <:+: tokens cs) :
    tokens (textOf ts) = ts := by
  have hseparate : ts.IsChain Token.Separate := List.IsChain.infix (isChain_tokens cs) h
  exact tokens_textOf (fun _ ht => Token.proper_of_mem_tokens (h.subset ht)) hseparate

/-! ## Classes of a source -/

/-- The class that stands at a place. -/
def Occurrence.info (file : String) (o : Occurrence Header) : ClassInfo :=
  { name := o.value.name
    parent := o.value.parent
    methods := readAll method? o.gap
    attributes := readAll attribute? o.gap
    file }

/-- The layout is left out once. -/
theorem bareTokens_bareTokens (ts : List Token) :
    bareTokens (bareTokens ts) = bareTokens ts := by
  rw [bareTokens, bareTokens, List.map_map]
  refine List.map_congr_left fun t _ => ?_
  cases t <;> rfl

/-- What stands at a header does not depend on the layout of its members. -/
theorem Occurrence.info_bare (file : String) (o : Occurrence Header) :
    o.bare.info file = o.info file := by
  have hgap : bareTokens o.bare.gap = bareTokens o.gap := bareTokens_bareTokens o.gap
  rw [Occurrence.info, Occurrence.info, ignoresLayout_method?.readAll_eq hgap,
    ignoresLayout_attribute?.readAll_eq hgap]
  rfl

/-- The declarations of a text tell the classes at its headers. -/
theorem map_toInfo_eq {found : List (Occurrence Header)}
    (h : ∀ o ∈ found, tokens (textOf o.gap) = o.gap) (file : String) (start : Nat) :
    (declarationsFrom start found).map (Declaration.toInfo file) =
      found.map (Occurrence.info file) := by
  induction found generalizing start with
  | nil => rfl
  | cons o found ih =>
    rw [List.forall_mem_cons] at h
    rw [declarationsFrom, List.map_cons, List.map_cons, ih h.2, Declaration.toInfo, methodsOf,
      attributesOf, String.toList_ofList, h.1]
    rfl

/-- The classes of a source are those that stand at its headers. -/
theorem SourceFile.classes_eq (s : SourceFile) :
    s.classes = (occurrences header? (tokens s.text.toList)).2.map (Occurrence.info s.name) := by
  refine map_toInfo_eq (fun o ho => ?_) s.name _
  exact tokens_textOf_of_isInfix ((isInfix_gaps 0 (tokens s.text.toList)).2 o ho)

/-- Two layouts of a text have the same classes. -/
theorem SourceFile.classes_eq_of_respaced (name : String) {text text' : String}
    (h : Respaced text.toList text'.toList) :
    SourceFile.classes ⟨name, text⟩ = SourceFile.classes ⟨name, text'⟩ := by
  have hbare (ts : List Token) :
      (occurrences header? (bareTokens ts)).2.map (Occurrence.info name) =
        (occurrences header? ts).2.map (Occurrence.info name) := by
    rw [occurrences, ignoresLayout_header?.occurrencesFrom_eq, List.map_map]
    exact List.map_congr_left fun o _ => o.info_bare name
  rw [SourceFile.classes_eq, SourceFile.classes_eq, ← hbare, h.bareTokens_eq, hbare]

/-- A source with another layout holds the same classes, and its scan reports the same. -/
theorem SourceFile.scan_eq_of_respaced (name : String) {text text' : String}
    (h : Respaced text.toList text'.toList) :
    SourceFile.scan ⟨name, text⟩ = SourceFile.scan ⟨name, text'⟩ := by
  have hclasses := SourceFile.classes_eq_of_respaced name h
  rw [SourceFile.scan, SourceFile.scan, hclasses]

/-- White space is replaced between words that stay. -/
theorem Respaced.append {letters cs ds : List Char} (hl : letters.any isBlank = false)
    (h : Respaced cs ds) : Respaced (letters ++ cs) (letters ++ ds) := by
  induction letters with
  | nil => exact h
  | cons c letters ih =>
    rw [List.any_cons, Bool.or_eq_false_iff] at hl
    exact .char hl.1 (ih hl.2)

/-- A class with a parent and a method, on one line and on several. -/
theorem SourceFile.scan_eq_of_respaced_lines :
    let text := "class A : B(0) \x7b private fun f() \x7d"
    let text' := "class\tA\n  :\n  B(0)\r\n\x7b\n\tprivate\u3000fun \t f()\n\x7d"
    Respaced text.toList text'.toList ∧
      SourceFile.scan ⟨"main", text⟩ = SourceFile.scan ⟨"main", text'⟩ := by
  intro text text'
  have hrespaced : Respaced text.toList text'.toList := by
    have step (word gap gap' : String) (h : IsGap gap.toList ∧ IsGap gap'.toList ∧
        word.toList.any isBlank = false) {cs ds : List Char} (hends : Ends isBlank cs)
        (hrest : Respaced cs ds) :
        Respaced (word.toList ++ (gap.toList ++ cs)) (word.toList ++ (gap'.toList ++ ds)) :=
      .append h.2.2 (.gap h.1 h.2.1 hends hrest)
    -- the pieces of the text, from right to left
    have hlast := Respaced.append (by decide : "\x7d".toList.any isBlank = false) .nil
    have hmethod := step "f()" " " "\n" (by decide) (by decide) hlast
    have hfun := step "fun" " " " \t " (by decide) (by decide) hmethod
    have hprivate := step "private" " " "\u3000" (by decide) (by decide) hfun
    have hbody := step "\x7b" " " "\n\t" (by decide) (by decide) hprivate
    have hparent := step "B(0)" " " "\r\n" (by decide) (by decide) hbody
    have hcolon := step ":" " " "\n  " (by decide) (by decide) hparent
    have hname := step "A" " " "\n  " (by decide) (by decide) hcolon
    have hclass := step "class" " " "\t" (by decide) (by decide) hname
    exact (congrArg₂ Respaced (by decide) (by decide)).mp hclass
  exact ⟨hrespaced, SourceFile.scan_eq_of_respaced "main" hrespaced⟩

end DesignMetrics.Source
