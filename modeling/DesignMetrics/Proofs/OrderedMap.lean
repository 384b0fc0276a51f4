import DesignMetrics.OrderedMap
import Mathlib.Data.List.Induction
import Mathlib.Data.List.Nodup

/-!
# Laws of ordered maps

How each operation acts on the two views of a map, the value that `find?` gives for a key and the
list of keys, and when two maps hold the same entries.
-/

namespace DesignMetrics
namespace OrderedMap

variable {α β : Type}

/-! ## Keys and look-up -/

/-- A map is its entries. -/
theorem eq_of_entries_eq {m n : OrderedMap α} (h : m.entries = n.entries) : m = n := by
  cases m
  cases n
  cases h
  rfl

theorem keys_nodup (m : OrderedMap α) : m.keys.Nodup := m.nodup_keys

theorem entries_nodup (m : OrderedMap α) : m.entries.Nodup :=
  List.Nodup.of_map Prod.fst m.nodup_keys

section Lookup

variable {κ : Type} [DecidableEq κ] [BEq κ] [LawfulBEq κ]

/-- Look-up in a list of entries, as a decision on equality of keys. -/
theorem lookup_cons_eq_ite (e : κ × α) (es : List (κ × α)) (key : κ) :
    (e :: es).lookup key = if key = e.1 then some e.2 else es.lookup key := by
  rw [List.lookup_cons]
  by_cases h : key = e.1
  · simp [h]
  · have hb : (key == e.1) = false := by simpa using h
    simp [h, hb]

/-- Where no key occurs twice, looking one up gives what stands next to it. -/
theorem lookup_eq_some_iff_mem {es : List (κ × α)} (hes : (es.map Prod.fst).Nodup)
    {key : κ} {value : α} : es.lookup key = some value ↔ (key, value) ∈ es := by
  induction es with
  | nil => simp
  | cons e es ih =>
    obtain ⟨k, v⟩ := e
    rw [List.map_cons, List.nodup_cons] at hes
    rw [lookup_cons_eq_ite, List.mem_cons, ← ih hes.2]
    by_cases h : key = k
    · subst h
      -- the key does not come up again
      have hnone : es.lookup key = none := by
        rw [List.lookup_eq_none_iff]
        intro p hp
        rw [bne_iff_ne]
        intro he
        exact hes.1 (List.mem_map.2 ⟨p, hp, he.symm⟩)
      simp [hnone, eq_comm]
    · simp [h]

/-- Where no key comes twice, the order of the entries makes no difference. -/
theorem lookup_eq_of_perm {es es' : List (κ × α)} (hes : (es.map Prod.fst).Nodup)
    (h : es.Perm es') (key : κ) : es.lookup key = es'.lookup key := by
  have hes' : (es'.map Prod.fst).Nodup := (h.map Prod.fst).nodup_iff.1 hes
  rw [Option.ext_iff]
  intro value
  rw [lookup_eq_some_iff_mem hes, lookup_eq_some_iff_mem hes', h.mem_iff]

end Lookup

/-- What is found under a key is what stands beside it among the entries. -/
theorem find?_eq_some_iff (m : OrderedMap α) {key : String} {value : α} :
    m.find? key = some value ↔ (key, value) ∈ m.entries :=
  lookup_eq_some_iff_mem m.nodup_keys

/-- The map contains what is among its keys. -/
theorem contains_iff_mem_keys (m : OrderedMap α) {key : String} :
    m.contains key = true ↔ key ∈ m.keys := by
  rw [contains, Option.isSome_iff_exists, keys, List.mem_map]
  constructor
  · rintro ⟨value, h⟩
    exact ⟨(key, value), m.find?_eq_some_iff.1 h, rfl⟩
  · rintro ⟨⟨k, value⟩, h, rfl⟩
    exact ⟨value, m.find?_eq_some_iff.2 h⟩

/-- The keys are what something is found under. -/
theorem mem_keys_iff (m : OrderedMap α) {key : String} :
    key ∈ m.keys ↔ ∃ value, m.find? key = some value := by
  rw [← contains_iff_mem_keys, contains, Option.isSome_iff_exists]

theorem mem_keys_of_find? (m : OrderedMap α) {key : String} {value : α}
    (h : m.find? key = some value) : key ∈ m.keys :=
  m.mem_keys_iff.2 ⟨value, h⟩

theorem find?_eq_none_iff (m : OrderedMap α) {key : String} :
    m.find? key = none ↔ key ∉ m.keys := by
  rw [mem_keys_iff, ← Option.isSome_iff_exists, Option.not_isSome_iff_eq_none]

/-- The values are what is found under some key. -/
theorem mem_values_iff (m : OrderedMap α) {value : α} :
    value ∈ m.values ↔ ∃ key, m.find? key = some value := by
  rw [values, List.mem_map]
  constructor
  · rintro ⟨⟨key, v⟩, h, rfl⟩
    exact ⟨key, m.find?_eq_some_iff.2 h⟩
  · rintro ⟨key, h⟩
    exact ⟨(key, value), m.find?_eq_some_iff.1 h, rfl⟩

theorem length_keys (m : OrderedMap α) : m.keys.length = m.size :=
  List.length_map ..

/-! ## Operations -/

@[simp] theorem find?_empty (key : String) : (empty : OrderedMap α).find? key = none := rfl

/-- Inserting changes what is found under one key. -/
theorem lookup_insertEntry (key other : String) (value : α) (es : List (String × α)) :
    (insertEntry key value es).lookup other =
      if other = key then some value else es.lookup other := by
  induction es with
  | nil => rw [insertEntry, lookup_cons_eq_ite]
  | cons e es ih =>
    obtain ⟨k, v⟩ := e
    rw [insertEntry]
    by_cases hk : k = key
    · subst hk
      rw [if_pos rfl, lookup_cons_eq_ite, lookup_cons_eq_ite]
      by_cases h : other = k <;> simp [h]
    · rw [if_neg hk, lookup_cons_eq_ite, lookup_cons_eq_ite, ih]
      by_cases h : other = k
      · subst h
        simp [hk]
      · simp [h]

/-- Writing a value changes what is found under its key and under no other. -/
theorem find?_insert (m : OrderedMap α) (key other : String) (value : α) :
    (m.insert key value).find? other = if other = key then some value else m.find? other :=
  lookup_insertEntry key other value m.entries

/-- What is not among the first entries is written to the others. -/
theorem insertEntry_append {key : String} {value : α} {es : List (String × α)}
    (h : key ∉ es.map Prod.fst) (others : List (String × α)) :
    insertEntry key value (es ++ others) = es ++ insertEntry key value others := by
  induction es with
  | nil => rfl
  | cons e es ih =>
    rw [List.map_cons, List.mem_cons, not_or] at h
    rw [List.cons_append, insertEntry, if_neg (Ne.symm h.1), ih h.2]
    rfl

/-- An entry with a new key comes last. -/
theorem entries_insert_of_not_mem (m : OrderedMap α) {key : String} {value : α}
    (h : key ∉ m.keys) : (m.insert key value).entries = m.entries ++ [(key, value)] := by
  show insertEntry key value m.entries = _
  rw [← List.append_nil m.entries, insertEntry_append h, List.append_nil]
  rfl

/-- Entries whose keys are all different stand as they were written. -/
theorem entries_ofList {es : List (String × α)} (hes : (es.map Prod.fst).Nodup) :
    (ofList es).entries = es := by
  induction es using List.reverseRecOn with
  | nil => rfl
  | append_singleton es e ih =>
    rw [List.map_append, List.map_singleton, List.nodup_append] at hes
    have ih := ih hes.1
    have hnew : e.1 ∉ (ofList es).keys := by
      intro hmem
      rw [keys, ih] at hmem
      exact hes.2.2 e.1 hmem e.1 List.mem_cons_self rfl
    have hlast : ofList (es ++ [e]) = (ofList es).insert e.1 e.2 := by
      rw [ofList, List.foldl_append]
      rfl
    rw [hlast, entries_insert_of_not_mem _ hnew, ih]

/-- A map is built again from its entries. -/
theorem ofList_entries (m : OrderedMap α) : ofList m.entries = m :=
  eq_of_entries_eq (entries_ofList m.nodup_keys)

/-- Of entries that are written one after the other, the last one for a key is found. -/
theorem find?_foldl_insert (es : List (String × α)) (m : OrderedMap α) (key : String) :
    (es.foldl (fun m e => m.insert e.1 e.2) m).find? key =
      (es.reverse.lookup key).or (m.find? key) := by
  induction es generalizing m with
  | nil => simp
  | cons e es ih =>
    rw [List.foldl_cons, ih, find?_insert, List.reverse_cons, List.lookup_append, Option.or_assoc,
      lookup_cons_eq_ite]
    by_cases h : key = e.1 <;> simp [h]

/-- Of several entries with one key the last one is found. -/
theorem find?_ofList (es : List (String × α)) (key : String) :
    (ofList es).find? key = es.reverse.lookup key := by
  rw [ofList, find?_foldl_insert, find?_empty, Option.or_none]

/-- What is found in a map of results is the result for what was found. -/
theorem find?_mapEntries (m : OrderedMap α) (f : String → α → β) (key : String) :
    (m.mapEntries f).find? key = (m.find? key).map (f key) := by
  show (m.entries.map fun e => (e.1, f e.1 e.2)).lookup key = (m.entries.lookup key).map (f key)
  induction m.entries with
  | nil => rfl
  | cons e es ih =>
    rw [List.map_cons, lookup_cons_eq_ite, lookup_cons_eq_ite, ih]
    by_cases h : key = e.1 <;> simp [h]

/-! ## One map after the other -/

/-- The entries of one map, and then those of another one. -/
def IsAppend (whole m n : OrderedMap α) : Prop :=
  whole.entries = m.entries ++ n.entries

namespace IsAppend

variable {whole m n : OrderedMap α} {key : String} {value : α}

/-- The empty map adds nothing. -/
theorem empty_right (m : OrderedMap α) : m.IsAppend m empty :=
  (List.append_nil m.entries).symm

variable (h : whole.IsAppend m n)
include h

/-- The keys of the first part come first. -/
theorem keys_eq : whole.keys = m.keys ++ n.keys := by
  rw [keys, h, List.map_append]
  rfl

theorem values_eq : whole.values = m.values ++ n.values := by
  rw [values, h, List.map_append]
  rfl

/-- No key is in both parts. -/
theorem disjoint_keys : m.keys.Disjoint n.keys := by
  have hnodup := whole.keys_nodup
  rw [h.keys_eq] at hnodup
  exact List.disjoint_of_nodup_append hnodup

/-- What is found is what one of the two parts has. -/
theorem find?_eq (key : String) : whole.find? key = (m.find? key).or (n.find? key) := by
  rw [find?, h, List.lookup_append]
  rfl

theorem find?_left (hkey : key ∉ n.keys) : whole.find? key = m.find? key := by
  rw [h.find?_eq, n.find?_eq_none_iff.2 hkey, Option.or_none]

theorem find?_right (hkey : key ∉ m.keys) : whole.find? key = n.find? key := by
  rw [h.find?_eq, m.find?_eq_none_iff.2 hkey, Option.none_or]

/-- What the first map does not hold is written to the second one. -/
theorem insert (hkey : key ∉ m.keys) :
    (whole.insert key value).IsAppend m (n.insert key value) := by
  show insertEntry key value whole.entries = m.entries ++ insertEntry key value n.entries
  rw [h, insertEntry_append hkey]

end IsAppend

/-! ## Maps with the same entries -/

/-- Maps in which every look-up agrees hold the same entries, maybe in another order. -/
theorem entries_perm {m n : OrderedMap α} (h : ∀ key, m.find? key = n.find? key) :
    m.entries.Perm n.entries := by
  rw [List.perm_ext_iff_of_nodup m.entries_nodup n.entries_nodup]
  rintro ⟨key, value⟩
  rw [← find?_eq_some_iff, ← find?_eq_some_iff, h]

/-- Maps in which the same is found have the same keys, in some order. -/
theorem keys_perm {m n : OrderedMap α} (h : ∀ key, m.find? key = n.find? key) :
    m.keys.Perm n.keys :=
  (entries_perm h).map Prod.fst

/-- They have the same values, in some order. -/
theorem values_perm {m n : OrderedMap α} (h : ∀ key, m.find? key = n.find? key) :
    m.values.Perm n.values :=
  (entries_perm h).map Prod.snd

end OrderedMap
end DesignMetrics
