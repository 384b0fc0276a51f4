import DesignMetrics.Proofs.Hierarchy.Coherence
import Mathlib.Algebra.Order.BigOperators.Group.List
import Mathlib.Algebra.Order.Ring.Nat

/-!
# What the factors count

The sums behind the five factors, told from the classes as they were declared. Members that a class
inherits are added up at the class, but they come to the members of each class, once for each class
below it. Hiding and inheritance are the same for methods and for attributes, so that what is said
of them is said of any kind of members.
-/

namespace DesignMetrics

/-! ## Ratios -/

namespace Factor.Ratio

/-- The first sum is a part of the second. -/
def IsShare (r : Ratio) : Prop :=
  0 ≤ r.numerator ∧ r.numerator ≤ r.denominator

instance (r : Ratio) : Decidable r.IsShare :=
  inferInstanceAs (Decidable (_ ∧ _))

/-- The sums over ratios. -/
def total (rs : List Ratio) : Ratio :=
  ⟨(rs.map numerator).sum, (rs.map denominator).sum⟩

theorem foldl_add (r : Ratio) (rs : List Ratio) : rs.foldl add r = r.add (total rs) := by
  induction rs generalizing r with
  | nil => simp [total, add]
  | cons r' rs ih =>
    rw [List.foldl_cons, ih]
    simp only [add, total, List.map_cons, List.sum_cons, Int.add_assoc]

theorem total_natCast {α : Type} (as : List α) (f g : α → Nat) :
    total (as.map fun a => ⟨(f a : Nat), (g a : Nat)⟩) =
      ⟨((as.map f).sum : Nat), ((as.map g).sum : Nat)⟩ := by
  simp only [total, List.map_map, Nat.cast_list_sum, Function.comp_def]

/-- Members that are inherited, of whichever kind, are a part of what they come to together with the
members that classes have themselves. -/
theorem IsShare.inheritance {own inheritance : Ratio} {inherited : Nat} (h : own.IsShare)
    (hnumerator : inheritance.numerator = inherited)
    (hdenominator : inheritance.denominator = inheritance.numerator + own.denominator) :
    inheritance.IsShare := by
  have hmembers : 0 ≤ own.denominator := h.1.trans h.2
  rw [IsShare, hdenominator, hnumerator]
  omega

end Factor.Ratio

/-- The sums of a factor are those of its ratios. -/
theorem Factors.foldl_add_eq (f : Factors Factor.Ratio → Factor.Ratio) (hzero : f zero = .zero)
    (hadd : ∀ x y, f (add x y) = (f x).add (f y)) (shares : List (Factors Factor.Ratio)) :
    f (shares.foldl add zero) = .total (shares.map f) := by
  have hfold : ∀ x, f (shares.foldl add x) = (shares.map f).foldl .add (f x) := by
    induction shares with
    | nil => exact fun x => rfl
    | cons share shares ih =>
      intro x
      rw [List.foldl_cons, ih, List.map_cons, List.foldl_cons, hadd]
  rw [hfold, hzero, Factor.Ratio.foldl_add]
  simp [Factor.Ratio.zero, Factor.Ratio.add, Factor.Ratio.total]

/-! ## What classes have -/

namespace ClassInfo

/-- The methods that are hidden. -/
def privateMethods (c : ClassInfo) : Nat := c.methods.countP (·.visibility = .priv)

/-- The attributes that are hidden. -/
def privateAttributes (c : ClassInfo) : Nat := c.attributes.countP (·.visibility = .priv)

/-- The methods that override another one. -/
def overriding (c : ClassInfo) : Nat := c.methods.countP Method.overrides

/-- The methods that are new in a class. -/
def newMethods (c : ClassInfo) : Nat := c.methods.countP fun m => !m.overrides

theorem length_methods (c : ClassInfo) : c.methods.length = c.overriding + c.newMethods := by
  rw [overriding, newMethods, List.length_eq_countP_add_countP Method.overrides]
  simp only [Bool.not_eq_true, Bool.decide_eq_false]

end ClassInfo

theorem sum_map_filter {α : Type} {p : α → Bool} {f : α → Nat} {as : List α}
    (h : ∀ a ∈ as, p a = false → f a = 0) : ((as.filter p).map f).sum = (as.map f).sum := by
  induction as with
  | nil => rfl
  | cons a as ih =>
    rw [List.forall_mem_cons] at h
    rw [List.map_cons, List.sum_cons, ← ih h.2]
    cases hp : p a with
    | true => rw [List.filter_cons_of_pos hp, List.map_cons, List.sum_cons]
    | false => rw [List.filter_cons_of_neg (by simp [hp]), h.1 hp, Nat.zero_add]

namespace Classes

variable {classes : Classes} {infos : List ClassInfo}

/-- A weight of every class, once for each of its children, comes to the weights of all parents,
once for each class that has one. -/
theorem Keyed.sum_mul_length_childrenOf (hk : classes.Keyed) (weight : ClassInfo → Nat) :
    (classes.values.map fun c => weight c * (classes.childrenOf c.name).length).sum =
      (classes.values.map fun c =>
        ((Hierarchy.ofClasses classes).parentOf? c).elim 0 weight).sum := by
  -- the weight of the parent, told by the name of the child
  let above (name : String) : Nat :=
    ((classes.find? name).bind (Hierarchy.ofClasses classes).parentOf?).elim 0 weight
  have habove : ∀ c ∈ classes.values,
      above c.name = ((Hierarchy.ofClasses classes).parentOf? c).elim 0 weight := by
    intro c hc
    simp only [above, hk.mem_values_iff.1 hc, Option.bind_some]
  have hchildren : ∀ c ∈ classes.values,
      weight c * (classes.childrenOf c.name).length =
        ((classes.childrenOf c.name).map above).sum := by
    intro c hc
    have hconstant : ∀ n ∈ (classes.childrenOf c.name).map above, n = weight c := by
      intro n hn
      obtain ⟨name, hname, rfl⟩ := List.mem_map.1 hn
      have hstep := hk.mem_childrenOf.1 hname
      obtain ⟨d, hd⟩ := classes.mem_keys_iff.1 hstep.mem_keys_left
      obtain rfl : d.name = name := hk name d hd
      have hmem := hk.mem_values_iff.2 hd
      obtain ⟨p, hp, hpname⟩ := (hk.mem_childrenOf_iff hmem).1 hname
      -- the parent that is found has the name of `c`, so it is `c`
      have hfound : classes.find? p.name = some p := by
        obtain ⟨key, -, hkey⟩ := Option.bind_eq_some_iff.1 hp
        have hkey : classes.find? key = some p := hkey
        rwa [hk key p hkey]
      rw [hpname, hk.mem_values_iff.1 hc] at hfound
      rw [habove d hmem, hp, Option.some.inj hfound]
      rfl
    rw [List.eq_replicate_of_mem hconstant, List.sum_replicate_nat, List.length_map, Nat.mul_comm]
  have hnames : (classes.keys.flatMap classes.childrenOf).map above =
      (classes.values.map fun c => (classes.childrenOf c.name).map above).flatten := by
    rw [← hk.map_name_values, List.map_flatMap, List.flatMap_map, List.flatMap_def]
  have hperm := (hk.childrenOf_perm.map above).sum_eq
  rw [hnames, List.sum_flatten, List.map_map, List.map_map] at hperm
  rw [List.map_congr_left hchildren]
  rw [← List.map_congr_left habove]
  refine hperm.trans (sum_map_filter fun c hc hnone => ?_)
  rw [Option.isSome_eq_false_iff, Option.isNone_iff_eq_none] at hnone
  show above c.name = 0
  rw [habove c hc, hnone]
  rfl

/-! ## Sums over the last class of each name -/

/-- A number for each class, added up over the last class of each name. -/
def sumOf (infos : List ClassInfo) (f : ClassInfo → Nat) : Nat :=
  ((lastOfEach infos).map f).sum

/-- How many of the last classes of each name have a class for their parent. -/
def childCount (infos : List ClassInfo) (c : ClassInfo) : Nat :=
  (lastOfEach infos).countP (·.parent = some c.name)

theorem sum_values_eq (infos : List ClassInfo) (f : ClassInfo → Nat) :
    ((ofInfos infos).values.map f).sum = sumOf infos f :=
  ((values_ofInfos_perm infos).map f).sum_eq

theorem sumOf_congr {f g : ClassInfo → Nat} (h : ∀ c, f c = g c) : sumOf infos f = sumOf infos g :=
  congrArg (sumOf infos) (funext h)

theorem sumOf_add (f g : ClassInfo → Nat) :
    (sumOf infos fun c => f c + g c) = sumOf infos f + sumOf infos g :=
  List.sum_map_add

theorem sumOf_le {f g : ClassInfo → Nat} (h : ∀ c, f c ≤ g c) : sumOf infos f ≤ sumOf infos g :=
  List.sum_le_sum fun c _ => h c

theorem length_childrenOf_eq {c : ClassInfo} (hc : c ∈ (ofInfos infos).values) :
    ((ofInfos infos).childrenOf c.name).length = childCount infos c := by
  rw [childrenOf_eq ((keyed_ofInfos infos).name_mem_keys hc), List.length_map,
    ← List.countP_eq_length_filter]
  exact (values_ofInfos_perm infos).countP_eq _

/-- A number for each class, once for each class below it. -/
theorem sum_mul_childCount (infos : List ClassInfo) (weight : ClassInfo → Nat) :
    ((ofInfos infos).values.map fun c =>
        weight c * ((ofInfos infos).childrenOf c.name).length).sum =
      sumOf infos fun c => weight c * childCount infos c := by
  rw [← sum_values_eq]
  refine congrArg List.sum (List.map_congr_left fun c hc => ?_)
  rw [length_childrenOf_eq hc]

/-- A number for the parent of each class that has one comes to the same. -/
theorem sum_parentOf?_eq (infos : List ClassInfo) (weight : ClassInfo → Nat) :
    ((ofInfos infos).values.map fun c =>
        ((Hierarchy.ofInfos infos).parentOf? c).elim 0 weight).sum =
      sumOf infos fun c => weight c * childCount infos c := by
  rw [← sum_mul_childCount, (keyed_ofInfos infos).sum_mul_length_childrenOf]
  rfl

/-- All methods of the parents are those that override and those that are new. -/
theorem sumOf_methods_mul_childCount (infos : List ClassInfo) :
    (sumOf infos fun c => c.methods.length * childCount infos c) =
      (sumOf infos fun c => c.overriding * childCount infos c) +
        sumOf infos fun c => c.newMethods * childCount infos c := by
  rw [← sumOf_add]
  refine sumOf_congr fun c => ?_
  rw [c.length_methods, Nat.add_mul]

/-! ## What classes add to the sums -/

/-- What a class adds to inheritance of one kind of members: those of its parent, against these
together with its own. -/
def inheritance (classes : Classes) (members : ClassInfo → Nat) (c : ClassInfo) : Factor.Ratio :=
  let inherited := ((Hierarchy.ofClasses classes).parentOf? c).elim 0 members
  ⟨(inherited : Nat), (inherited + members c : Nat)⟩

/-- Methods and attributes are inherited in the same way. -/
theorem shareOf_inheritance (c : ClassInfo) :
    (classes.shareOf c).mif = classes.inheritance (·.methods.length) c ∧
      (classes.shareOf c).aif = classes.inheritance (·.attributes.length) c := by
  unfold shareOf inheritance
  cases (Hierarchy.ofClasses classes).parentOf? c <;> exact ⟨rfl, rfl⟩

/-- The new methods of a class are all but those that override, once for each class below it. -/
theorem pof_shareOf (c : ClassInfo) :
    (classes.shareOf c).pof =
      ⟨(c.overriding : Nat), (c.newMethods * (classes.childrenOf c.name).length : Nat)⟩ := by
  have hnew : (c.methods.length : Int) - c.overriding = c.newMethods := by
    rw [c.length_methods, Int.natCast_add]
    omega
  rw [Int.natCast_mul, ← hnew]
  rfl

/-- The sums of hiding for one kind of members. -/
theorem total_hiding (infos : List ClassInfo) (hidden members : ClassInfo → Nat) :
    Factor.Ratio.total
        ((ofInfos infos).values.map fun c => ⟨(hidden c : Nat), (members c : Nat)⟩) =
      ⟨(sumOf infos hidden : Nat), (sumOf infos members : Nat)⟩ := by
  rw [Factor.Ratio.total_natCast, sum_values_eq, sum_values_eq]

/-- The sums of inheritance for one kind of members. -/
theorem total_inheritance (infos : List ClassInfo) (members : ClassInfo → Nat) :
    Factor.Ratio.total ((ofInfos infos).values.map ((ofInfos infos).inheritance members)) =
      ⟨(sumOf infos fun c => members c * childCount infos c : Nat),
        ((sumOf infos fun c => members c * childCount infos c) + sumOf infos members : Nat)⟩ := by
  have hparents : ((ofInfos infos).values.map fun c =>
      ((Hierarchy.ofClasses (ofInfos infos)).parentOf? c).elim 0 members).sum =
        sumOf infos fun c => members c * childCount infos c :=
    sum_parentOf?_eq infos members
  unfold inheritance
  rw [Factor.Ratio.total_natCast, List.sum_map_add, hparents, sum_values_eq]

/-- The sums of polymorphism. -/
theorem total_polymorphism (infos : List ClassInfo) :
    Factor.Ratio.total ((ofInfos infos).values.map fun c => ((ofInfos infos).shareOf c).pof) =
      ⟨(sumOf infos ClassInfo.overriding : Nat),
        (sumOf infos fun c => c.newMethods * childCount infos c : Nat)⟩ := by
  simp only [pof_shareOf, Factor.Ratio.total_natCast]
  rw [sum_values_eq, sum_mul_childCount]

end Classes

namespace Factor

open Classes (sumOf childCount)

variable {infos : List ClassInfo} {sums : Factors Ratio}

/-- What the sums behind the factors are, in terms of the last class of each name. -/
structure Tally (infos : List ClassInfo) (sums : Factors Ratio) : Prop where
  mhf : sums.mhf = ⟨(sumOf infos ClassInfo.privateMethods : Nat),
    (sumOf infos fun c => c.methods.length : Nat)⟩
  ahf : sums.ahf = ⟨(sumOf infos ClassInfo.privateAttributes : Nat),
    (sumOf infos fun c => c.attributes.length : Nat)⟩
  mif_numerator : sums.mif.numerator =
    (sumOf infos fun c => c.methods.length * childCount infos c : Nat)
  mif_denominator : sums.mif.denominator = sums.mif.numerator + sums.mhf.denominator
  aif_numerator : sums.aif.numerator =
    (sumOf infos fun c => c.attributes.length * childCount infos c : Nat)
  aif_denominator : sums.aif.denominator = sums.aif.numerator + sums.ahf.denominator
  pof_numerator : sums.pof.numerator = (sumOf infos ClassInfo.overriding : Nat)
  pof_denominator : sums.pof.denominator =
    sums.mif.numerator - (sumOf infos fun c => c.overriding * childCount infos c : Nat)

namespace Tally

variable (h : Tally infos sums)
include h

/-- Hiding and inheritance compare a part with the whole. -/
theorem isShare :
    sums.mhf.IsShare ∧ sums.ahf.IsShare ∧ sums.mif.IsShare ∧ sums.aif.IsShare := by
  have hhiding : ∀ {hidden members : ClassInfo → Nat}, (∀ c, hidden c ≤ members c) →
      Ratio.IsShare ⟨(sumOf infos hidden : Nat), (sumOf infos members : Nat)⟩ := by
    intro hidden members hle
    exact ⟨Int.natCast_nonneg _, Int.ofNat_le.2 (Classes.sumOf_le hle)⟩
  have hmhf : sums.mhf.IsShare := by
    rw [h.mhf]
    exact hhiding fun _ => List.countP_le_length
  have hahf : sums.ahf.IsShare := by
    rw [h.ahf]
    exact hhiding fun _ => List.countP_le_length
  exact ⟨hmhf, hahf, hmhf.inheritance h.mif_numerator h.mif_denominator,
    hahf.inheritance h.aif_numerator h.aif_denominator⟩

/-- No more new methods are offered than are inherited. -/
theorem pof_denominator_le : sums.pof.denominator ≤ sums.mif.numerator := by
  rw [h.pof_denominator]
  omega

/-- Of the methods that are inherited, those that are new. -/
theorem pof_denominator_eq :
    sums.pof.denominator = (sumOf infos fun c => c.newMethods * childCount infos c : Nat) := by
  rw [h.pof_denominator, h.mif_numerator, Classes.sumOf_methods_mul_childCount, Int.natCast_add,
    add_sub_cancel_left]

end Tally

/-- The sums over a hierarchy are those of its classes. -/
theorem exists_tally (infos : List ClassInfo) :
    ∃ sums, Factor.sums (Hierarchy.ofInfos infos) = .ok sums ∧ Tally infos sums := by
  let classes := Classes.ofInfos infos
  let shares := classes.values.map classes.shareOf
  let sums := shares.foldl Factors.add Factors.zero
  -- a factor of the sum is the sum of that factor over the classes
  have htotal : ∀ f : Factors Ratio → Ratio, f Factors.zero = .zero →
      (∀ x y, f (Factors.add x y) = (f x).add (f y)) →
      f sums = .total (classes.values.map fun c => f (classes.shareOf c)) := by
    intro f hzero hadd
    rw [Factors.foldl_add_eq f hzero hadd, List.map_map]
    rfl
  have hmhf := (htotal Factors.mhf rfl fun _ _ => rfl).trans
    (Classes.total_hiding infos ClassInfo.privateMethods (·.methods.length))
  have hahf := (htotal Factors.ahf rfl fun _ _ => rfl).trans
    (Classes.total_hiding infos ClassInfo.privateAttributes (·.attributes.length))
  have hmif := htotal Factors.mif rfl fun _ _ => rfl
  have haif := htotal Factors.aif rfl fun _ _ => rfl
  simp only [(classes.shareOf_inheritance _).1] at hmif
  simp only [(classes.shareOf_inheritance _).2] at haif
  rw [Classes.total_inheritance] at hmif haif
  have hpof := (htotal Factors.pof rfl fun _ _ => rfl).trans (Classes.total_polymorphism infos)
  refine ⟨sums, (Classes.keyed_ofInfos infos).sums_eq, hmhf, hahf, ?_, ?_, ?_, ?_, ?_, ?_⟩
  · rw [hmif]
  · rw [hmif, hmhf, Int.natCast_add]
  · rw [haif]
  · rw [haif, hahf, Int.natCast_add]
  · rw [hpof]
  · rw [hpof, hmif, Classes.sumOf_methods_mul_childCount, Int.natCast_add, add_sub_cancel_left]

end Factor

/-- The position of a class counts the classes that have it for their parent. -/
theorem childCount_positions {infos : List ClassInfo} {c : ClassInfo}
    (hc : c ∈ Classes.lastOfEach infos) :
    ((Hierarchy.ofInfos infos).positions.find? c.name).map Position.childCount =
      some (Classes.childCount infos c : Int) := by
  have hk := Classes.keyed_ofInfos infos
  have hmem : c ∈ (Classes.ofInfos infos).values := (Classes.values_ofInfos_perm infos).mem_iff.2 hc
  have hposition := (Classes.ofInfos infos).find?_positions c.name
  rw [hk.mem_values_iff.1 hmem, Option.map_some] at hposition
  rw [Hierarchy.ofInfos, hposition, Option.map_some, ← Classes.length_childrenOf_eq hmem,
    ← Classes.find?_children]
  rfl

/-- The sums behind the factors of a hierarchy, told from the last class of each name: hiding counts
all members, inheritance the members of each class once for each child, and polymorphism the methods
that override against those that are new, once for each child. So the first sum is a part of the
second one for hiding and for inheritance, and no more new methods are offered than are
inherited. -/
theorem tally_of_ofInfos (infos : List ClassInfo) :
    let h := Hierarchy.ofInfos infos
    ∃ sums, Factor.sums h = .ok sums ∧ Factor.Tally infos sums ∧
      (∀ c ∈ Classes.lastOfEach infos, (h.positions.find? c.name).map Position.childCount =
        some (Classes.childCount infos c : Int)) ∧
      sums.mhf.IsShare ∧ sums.ahf.IsShare ∧ sums.mif.IsShare ∧ sums.aif.IsShare ∧
      sums.pof.denominator ≤ sums.mif.numerator ∧
      ∀ scores, Factor.ofHierarchy h = .ok scores → scores.map Factor.Score.ratio = sums := by
  intro h
  obtain ⟨sums, hsums, htally⟩ := Factor.exists_tally infos
  refine ⟨sums, hsums, htally, fun c hc => childCount_positions hc, htally.isShare.1,
    htally.isShare.2.1, htally.isShare.2.2.1, htally.isShare.2.2.2, htally.pof_denominator_le, ?_⟩
  intro scores hscores
  exact Except.ok.inj ((Factor.ratio_of_ofHierarchy hscores).symm.trans hsums)

/-- A class that is declared twice, with two children, one of which is its own parent as well. -/
theorem tally_of_ofInfos_cycle :
    let infos : List ClassInfo := [{ name := "A", methods := [{ name := "x" }] },
      { name := "B", parent := some "A", methods := [{ name := "m", overrides := true }] },
      { name := "C", parent := some "A", attributes := [{ name := "a", visibility := .priv }] },
      { name := "A", parent := some "B",
        methods := [{ name := "m" }, { name := "n", visibility := .priv, overrides := true }] }]
    (Classes.lastOfEach infos).map (fun c => (c.name, Classes.childCount infos c)) =
        [("B", 1), ("C", 0), ("A", 2)] ∧
      ∃ scores, Factor.ofHierarchy (Hierarchy.ofInfos infos) = .ok scores ∧
        Factor.Tally infos (scores.map Factor.Score.ratio) ∧
        scores.mif.ratio = ⟨5, 8⟩ ∧ scores.pof.ratio = ⟨2, 2⟩ := by
  intro infos
  have hcounts : (Classes.lastOfEach infos).map (fun c => (c.name, Classes.childCount infos c)) =
      [("B", 1), ("C", 0), ("A", 2)] := by
    decide +kernel
  have hratios : (Factor.ofHierarchy (Hierarchy.ofInfos infos)).toOption.map
      (fun scores => (scores.mif.ratio, scores.pof.ratio)) = some (⟨5, 8⟩, ⟨2, 2⟩) := by
    decide +kernel
  obtain ⟨sums, -, htally, -, -, -, -, -, -, hscores⟩ := tally_of_ofInfos infos
  obtain ⟨scores, hok⟩ := exists_eq_ok (x := Factor.ofHierarchy (Hierarchy.ofInfos infos))
    (by decide +kernel)
  rw [hok] at hratios
  obtain ⟨hmif, hpof⟩ := Prod.mk.inj (Option.some.inj hratios)
  exact ⟨hcounts, scores, hok, (hscores scores hok).symm ▸ htally, hmif, hpof⟩

end DesignMetrics
