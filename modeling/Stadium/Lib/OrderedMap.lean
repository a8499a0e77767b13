import Mathlib

/-!
# Insertion-ordered maps

A finite map that remembers the order in which its keys were first set:
setting a present key replaces the value in place, setting a fresh key
appends it. Iteration therefore visits the entries in insertion order. Keys
are distinct by construction (`nodup` is a field, so no map with a repeated
key can be built).
-/

/-- A finite map whose entries keep the insertion order of their keys. -/
structure OrderedMap (κ ν : Type*) where
  entries : List (κ × ν)
  nodup : (entries.map Prod.fst).Nodup

namespace OrderedMap

variable {κ ν : Type*} [DecidableEq κ]

/-- The map without entries. -/
def empty : OrderedMap κ ν := ⟨[], List.nodup_nil⟩

instance : EmptyCollection (OrderedMap κ ν) := ⟨empty⟩

/-- The value an entry list holds for `key`. -/
def lookupEntry (key : κ) : List (κ × ν) → Option ν
  | [] => none
  | (other, value) :: rest => if key = other then some value else lookupEntry key rest

/-- The value stored under `key`. -/
def get? (m : OrderedMap κ ν) (key : κ) : Option ν := lookupEntry key m.entries

/-- The values in insertion order of their keys. -/
def values (m : OrderedMap κ ν) : List ν := m.entries.map Prod.snd

/-- Replace the value of `key` in place, or append the entry. -/
def setEntry (key : κ) (value : ν) : List (κ × ν) → List (κ × ν)
  | [] => [(key, value)]
  | (other, previous) :: rest =>
      if key = other then (key, value) :: rest
      else (other, previous) :: setEntry key value rest

theorem mem_keys_setEntry {key k : κ} {value : ν} {entries : List (κ × ν)} :
    k ∈ (setEntry key value entries).map Prod.fst ↔
      k = key ∨ k ∈ entries.map Prod.fst := by
  induction entries with
  | nil => simp [setEntry]
  | cons entry rest ih =>
      obtain ⟨other, previous⟩ := entry
      by_cases same : key = other
      · subst same
        simp [setEntry]
      · simp only [setEntry, if_neg same, List.map_cons, List.mem_cons, ih]
        tauto

theorem nodup_setEntry {key : κ} {value : ν} {entries : List (κ × ν)}
    (h : (entries.map Prod.fst).Nodup) :
    ((setEntry key value entries).map Prod.fst).Nodup := by
  induction entries with
  | nil => simp [setEntry]
  | cons entry rest ih =>
      obtain ⟨other, previous⟩ := entry
      rw [List.map_cons, List.nodup_cons] at h
      by_cases same : key = other
      · subst same
        simpa [setEntry] using h
      · rw [setEntry, if_neg same, List.map_cons, List.nodup_cons]
        refine ⟨?_, ih h.2⟩
        rw [mem_keys_setEntry, not_or]
        exact ⟨fun equal => same equal.symm, h.1⟩

/-- Store `value` under `key`, keeping the position of a present key. -/
def set (m : OrderedMap κ ν) (key : κ) (value : ν) : OrderedMap κ ν :=
  ⟨setEntry key value m.entries, nodup_setEntry m.nodup⟩

/-- The map holding the given entries, a later one winning over an earlier. -/
def ofList (entries : List (κ × ν)) : OrderedMap κ ν :=
  entries.foldl (fun m entry => m.set entry.1 entry.2) empty

@[simp] theorem get?_empty (key : κ) : (∅ : OrderedMap κ ν).get? key = none := rfl

theorem lookupEntry_setEntry (key k : κ) (value : ν) (entries : List (κ × ν)) :
    lookupEntry k (setEntry key value entries) =
      if k = key then some value else lookupEntry k entries := by
  induction entries with
  | nil => rfl
  | cons entry rest ih =>
      obtain ⟨other, previous⟩ := entry
      by_cases same : key = other
      · subst same
        by_cases hit : k = key <;> simp [setEntry, lookupEntry, hit]
      · rw [setEntry, if_neg same, lookupEntry, lookupEntry, ih]
        by_cases hit : k = other
        · subst hit
          rw [if_pos rfl, if_neg (Ne.symm same), if_pos rfl]
        · simp only [if_neg hit]

/-- Setting a key changes exactly that key. -/
theorem get?_set (m : OrderedMap κ ν) (key k : κ) (value : ν) :
    (m.set key value).get? k = if k = key then some value else m.get? k :=
  lookupEntry_setEntry key k value m.entries

@[simp] theorem get?_set_self (m : OrderedMap κ ν) (key : κ) (value : ν) :
    (m.set key value).get? key = some value := by
  simp [get?_set]

theorem get?_set_ne (m : OrderedMap κ ν) {key k : κ} (value : ν) (h : k ≠ key) :
    (m.set key value).get? k = m.get? k := by
  simp [get?_set, h]

/-- Remove `key`. -/
def erase (m : OrderedMap κ ν) (key : κ) : OrderedMap κ ν :=
  ⟨m.entries.filter (·.1 ≠ key), m.nodup.sublist (List.filter_sublist.map Prod.fst)⟩

/-- Removing a key changes exactly that key. -/
theorem get?_erase (m : OrderedMap κ ν) (key k : κ) :
    (m.erase key).get? k = if k = key then none else m.get? k := by
  suffices entry : ∀ entries : List (κ × ν),
      lookupEntry k (entries.filter (·.1 ≠ key)) =
        if k = key then none else lookupEntry k entries from entry m.entries
  intro entries
  induction entries with
  | nil => exact (ite_self none).symm
  | cons entry rest ih =>
      obtain ⟨other, value⟩ := entry
      by_cases removed : other = key
      · rw [List.filter_cons_of_neg (by simp [removed]), ih]
        by_cases same : k = key
        · rw [if_pos same, if_pos same]
        · rw [if_neg same, if_neg same, lookupEntry, if_neg (removed ▸ same)]
      · rw [List.filter_cons_of_pos (by simp [removed]), lookupEntry, lookupEntry, ih]
        by_cases hit : k = other
        · rw [if_pos hit, if_pos hit, if_neg (hit ▸ removed)]
        · rw [if_neg hit, if_neg hit]

/-- The entries are the pairs of a key and its value. -/
theorem mem_entries {m : OrderedMap κ ν} {key : κ} {value : ν} :
    (key, value) ∈ m.entries ↔ m.get? key = some value := by
  suffices entry : ∀ entries : List (κ × ν), (entries.map Prod.fst).Nodup →
      ((key, value) ∈ entries ↔ lookupEntry key entries = some value) from
    entry m.entries m.nodup
  intro entries distinct
  induction entries with
  | nil => simp [lookupEntry]
  | cons entry rest ih =>
      obtain ⟨other, previous⟩ := entry
      rw [List.map_cons, List.nodup_cons] at distinct
      rw [List.mem_cons, lookupEntry, ih distinct.2]
      by_cases same : key = other
      · subst same
        have absent : lookupEntry key rest ≠ some value := fun found =>
          distinct.1 (List.mem_map.mpr ⟨_, (ih distinct.2).mpr found, rfl⟩)
        simp [absent, eq_comm]
      · simp [same]

/-- What a map holds does not depend on the order of its entries. -/
theorem get?_of_perm {m m' : OrderedMap κ ν} (same : m'.entries.Perm m.entries) (key : κ) :
    m'.get? key = m.get? key := by
  apply Option.ext
  intro value
  simp only [← mem_entries, same.mem_iff]

theorem setEntry_of_notMem {key : κ} {value : ν} {entries : List (κ × ν)}
    (fresh : key ∉ entries.map Prod.fst) :
    setEntry key value entries = entries ++ [(key, value)] := by
  induction entries with
  | nil => rfl
  | cons entry rest ih =>
      rw [List.map_cons, List.mem_cons, not_or] at fresh
      rw [setEntry, if_neg fresh.1, ih fresh.2, List.cons_append]

/-- A fresh key goes to the end. -/
theorem values_set_of_fresh {m : OrderedMap κ ν} {key : κ} (fresh : m.get? key = none)
    (value : ν) : (m.set key value).values = m.values ++ [value] := by
  suffices append : ∀ entries : List (κ × ν), lookupEntry key entries = none →
      (setEntry key value entries).map Prod.snd = entries.map Prod.snd ++ [value] from
    append m.entries fresh
  intro entries
  induction entries with
  | nil => exact fun _ => rfl
  | cons entry rest ih =>
      obtain ⟨other, previous⟩ := entry
      intro absent
      by_cases same : key = other
      · rw [lookupEntry, if_pos same] at absent
        cases absent
      · rw [lookupEntry, if_neg same] at absent
        rw [setEntry, if_neg same, List.map_cons, ih absent]
        rfl

/-- Setting values one by one under their own keys: the last value of a key
wins, and a key of none keeps what it had. -/
theorem get?_foldl_set (keyOf : ν → κ) (values : List ν) (m : OrderedMap κ ν) (key : κ) :
    (values.foldl (fun m value => m.set (keyOf value) value) m).get? key =
      ((values.filter (keyOf · = key)).getLast?).or (m.get? key) := by
  induction values generalizing m with
  | nil => rfl
  | cons value rest ih =>
      rw [List.foldl_cons, ih, get?_set, List.filter_cons]
      by_cases same : keyOf value = key
      · rw [if_pos same.symm, if_pos (by simp [same]), List.getLast?_cons]
        cases (rest.filter (keyOf · = key)).getLast? <;> rfl
      · rw [if_neg (Ne.symm same), if_neg (by simp [same])]

/-- Once values are set under their own keys, a key holds one of them, or what it had
where it is none's. -/
theorem get?_foldl_set_cases (keyOf : ν → κ) (values : List ν) (m : OrderedMap κ ν) (key : κ) :
    ((∃ value ∈ values, keyOf value = key ∧
        (values.foldl (fun m value => m.set (keyOf value) value) m).get? key = some value) ∨
      key ∉ values.map keyOf ∧
        (values.foldl (fun m value => m.set (keyOf value) value) m).get? key = m.get? key) := by
  rw [get?_foldl_set keyOf]
  cases last : (values.filter (keyOf · = key)).getLast? with
  | none =>
      refine .inr ⟨?_, rfl⟩
      rw [List.getLast?_eq_none_iff, List.filter_eq_nil_iff] at last
      simpa using last
  | some value =>
      obtain ⟨listed, same⟩ := List.mem_filter.mp (List.mem_of_getLast? last)
      exact .inl ⟨value, listed, of_decide_eq_true same, rfl⟩

/-- A map built from a list holds the last entry of each key. -/
theorem get?_ofList (entries : List (κ × ν)) (key : κ) :
    (ofList entries).get? key = ((entries.filter (·.1 = key)).getLast?).map Prod.snd := by
  unfold ofList
  induction entries using List.reverseRecOn with
  | nil => rfl
  | append_singleton earlier last ih =>
      rw [List.foldl_append, List.foldl_cons, List.foldl_nil, get?_set, List.filter_append, ih]
      by_cases same : key = last.1
      · rw [if_pos same, List.filter_cons_of_pos (by simp [same]), List.filter_nil,
          List.getLast?_concat]
        rfl
      · rw [if_neg same, List.filter_cons_of_neg (by simp [Ne.symm same]), List.filter_nil,
          List.append_nil]

theorem isSome_get?_ofList {entries : List (κ × ν)} {key : κ} :
    ((ofList entries).get? key).isSome = true ↔ key ∈ entries.map Prod.fst := by
  rw [get?_ofList, Option.isSome_map, List.getLast?_isSome]
  constructor
  · intro some
    obtain ⟨entry, listed⟩ := List.exists_mem_of_ne_nil _ some
    obtain ⟨member, same⟩ := List.mem_filter.mp listed
    exact List.mem_map.mpr ⟨entry, member, of_decide_eq_true same⟩
  · intro listed
    obtain ⟨entry, member, same⟩ := List.mem_map.mp listed
    exact List.ne_nil_of_mem (List.mem_filter.mpr ⟨member, decide_eq_true same⟩)

/-- A list with one entry for each key is the map's. -/
theorem entries_ofList {entries : List (κ × ν)} (distinct : (entries.map Prod.fst).Nodup) :
    (ofList entries).entries = entries := by
  unfold ofList
  induction entries using List.reverseRecOn with
  | nil => rfl
  | append_singleton earlier last ih =>
      rw [List.map_append, List.nodup_append] at distinct
      obtain ⟨distinct, -, apart⟩ := distinct
      rw [List.foldl_append, List.foldl_cons, List.foldl_nil]
      show setEntry last.1 last.2 _ = _
      rw [ih distinct]
      exact setEntry_of_notMem fun listed => apart last.1 listed last.1 (by simp) rfl

/-- What a map built from a list holds is in the list. -/
theorem mem_of_get?_ofList {entries : List (κ × ν)} {key : κ} {value : ν}
    (h : (ofList entries).get? key = some value) : (key, value) ∈ entries := by
  unfold ofList at h
  suffices kept : ∀ (rest : List (κ × ν)) (m : OrderedMap κ ν),
      (rest.foldl (fun m entry => m.set entry.1 entry.2) m).get? key = some value →
      m.get? key = some value ∨ (key, value) ∈ rest by
    rcases kept entries empty h with impossible | listed
    · cases impossible
    · exact listed
  intro rest
  induction rest with
  | nil => exact fun m found => .inl found
  | cons entry rest ih =>
      intro m found
      rcases ih _ found with stored | later
      · rw [get?_set] at stored
        by_cases same : key = entry.1
        · rw [if_pos same, Option.some.injEq] at stored
          refine .inr ?_
          rw [same, ← stored]
          exact List.mem_cons_self
        · rw [if_neg same] at stored
          exact .inl stored
      · exact .inr (List.mem_cons_of_mem entry later)

/-- The values are those found under some key. -/
theorem mem_values {m : OrderedMap κ ν} {value : ν} :
    value ∈ m.values ↔ ∃ key, m.get? key = some value := by
  unfold values
  rw [List.mem_map]
  constructor
  · rintro ⟨⟨key, value⟩, entry, rfl⟩
    exact ⟨key, mem_entries.mp entry⟩
  · rintro ⟨key, found⟩
    exact ⟨(key, value), mem_entries.mpr found, rfl⟩

end OrderedMap
