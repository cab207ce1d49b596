/-!
# `EntitlementClient.OrderedMap`: maps that remember insertion order

An `OrderedMap` is a list of key and value pairs in which no key occurs twice. `insert` on
a present key replaces the value where it stands; a new key goes to the end. `erase` keeps
the order of the remaining pairs. Option sets, parameter defaults and request bodies are
all such maps, because the order in which a caller names things is the order in which they
are sent.

The view of a map is its list `entries`. Each operation has one small lemma that says what
it does to the keys (`keys_insert`, `keys_erase`) and one that says what a look-up sees
afterwards (`get?_insert`, `get?_erase`). `getThenInsert?` and `getThenErase?` find the
value that was there in the same pass in which they set or remove it.
-/

set_option autoImplicit false

namespace EntitlementClient

universe u

/-- Pairs of a key and a value, each key once, in order of first insertion. -/
structure OrderedMap (α : Type u) where
  /-- The pairs, first inserted first. -/
  entries : List (String × α)
  /-- No key occurs twice. -/
  nodup : (entries.map Prod.fst).Nodup

namespace OrderedMap

variable {α : Type u}

/-! ### Pairs in a list -/

/-- The pairs after `key` was set to `value`: in place if the key is there, else at the end. -/
def insertEntry (key : String) (value : α) : List (String × α) → List (String × α)
  | [] => [(key, value)]
  | (k, v) :: rest => if k = key then (key, value) :: rest else (k, v) :: insertEntry key value rest

/-- The value that stands beside `key`. -/
def findEntry (key : String) : List (String × α) → Option α
  | [] => none
  | (k, v) :: rest => if k = key then some v else findEntry key rest

/-- The pairs after `key` was set to `value`, and the value that it displaced. -/
def replaceEntry (key : String) (value : α) : List (String × α) → Option α × List (String × α)
  | [] => (none, [(key, value)])
  | (k, v) :: rest =>
    if k = key then (some v, (key, value) :: rest)
    else ((replaceEntry key value rest).1, (k, v) :: (replaceEntry key value rest).2)

/-- The pairs without the first one of `key`, and the value that stood there. -/
def takeEntry (key : String) : List (String × α) → Option α × List (String × α)
  | [] => (none, [])
  | (k, v) :: rest =>
    if k = key then (some v, rest)
    else ((takeEntry key rest).1, (k, v) :: (takeEntry key rest).2)

/-- The one pass finds what `findEntry` finds, and leaves what `insertEntry` leaves. -/
theorem replaceEntry_eq (key : String) (value : α) (l : List (String × α)) :
    replaceEntry key value l = (findEntry key l, insertEntry key value l) := by
  induction l with
  | nil => rfl
  | cons p rest ih =>
    obtain ⟨k, v⟩ := p
    by_cases hk : k = key
    · simp [replaceEntry, findEntry, insertEntry, hk]
    · simp [replaceEntry, findEntry, insertEntry, hk, ih]

/-- Where no key occurs twice, a key is gone after its first pair was removed. -/
theorem takeEntry_eq (key : String) {l : List (String × α)} (h : (l.map Prod.fst).Nodup) :
    takeEntry key l = (findEntry key l, l.filter fun p => p.1 ≠ key) := by
  induction l with
  | nil => rfl
  | cons p rest ih =>
    obtain ⟨k, v⟩ := p
    rw [List.map_cons, List.nodup_cons] at h
    by_cases hk : k = key
    · subst hk
      have hrest : rest.filter (fun p => p.1 ≠ k) = rest := by
        refine List.filter_eq_self.mpr fun p hp => decide_eq_true ?_
        exact fun heq => h.1 (heq ▸ List.mem_map.mpr ⟨p, hp, rfl⟩)
      rw [List.filter_cons_of_neg (by simp), hrest]
      simp [takeEntry, findEntry]
    · rw [List.filter_cons_of_pos (by simpa using hk)]
      simp [takeEntry, findEntry, hk, ih h.2]

/-- To set a key that is there leaves the keys as they are. A new key goes to the end of them. -/
theorem map_fst_insertEntry (key : String) (value : α) (l : List (String × α)) :
    (insertEntry key value l).map Prod.fst =
      if key ∈ l.map Prod.fst then l.map Prod.fst else l.map Prod.fst ++ [key] := by
  induction l with
  | nil => simp [insertEntry]
  | cons p rest ih =>
    obtain ⟨k, v⟩ := p
    by_cases hk : k = key
    · simp [insertEntry, hk]
    · have hk' : ¬ key = k := fun h => hk h.symm
      by_cases hm : key ∈ rest.map Prod.fst
      · rw [if_pos hm] at ih
        rw [if_pos (by simp only [List.map_cons, List.mem_cons]; exact Or.inr hm)]
        simp [insertEntry, hk, ih]
      · rw [if_neg hm] at ih
        rw [if_neg (by simp only [List.map_cons, List.mem_cons, not_or]; exact ⟨hk', hm⟩)]
        simp [insertEntry, hk, ih]

/-- No key occurs twice after one more key was set, if none did before. -/
theorem nodup_insertEntry (key : String) (value : α) {l : List (String × α)}
    (h : (l.map Prod.fst).Nodup) : ((insertEntry key value l).map Prod.fst).Nodup := by
  rw [map_fst_insertEntry]
  split
  · exact h
  · next hk =>
    rw [List.nodup_append]
    refine ⟨h, by simp, ?_⟩
    intro a ha b hb hab
    simp only [List.mem_singleton] at hb
    exact hk (hb ▸ hab ▸ ha)

/-- After a key was set, it has the value that it was set to. Every other key has the
value that it had. -/
theorem findEntry_insertEntry (key other : String) (value : α) (l : List (String × α)) :
    findEntry other (insertEntry key value l) =
      if key = other then some value else findEntry other l := by
  induction l with
  | nil => simp [insertEntry, findEntry]
  | cons p rest ih =>
    obtain ⟨k, v⟩ := p
    by_cases hk : k = key
    · subst hk
      by_cases ho : k = other <;> simp [insertEntry, findEntry, ho]
    · by_cases hko : k = other
      · subst hko
        have hk' : ¬ key = k := fun h => hk h.symm
        simp [insertEntry, findEntry, hk, hk']
      · simp [insertEntry, findEntry, hk, hko, ih]

/-- A key has no value exactly when no pair has that key. -/
theorem findEntry_eq_none_iff {key : String} {l : List (String × α)} :
    findEntry key l = none ↔ key ∉ l.map Prod.fst := by
  induction l with
  | nil => simp [findEntry]
  | cons p rest ih =>
    obtain ⟨k, v⟩ := p
    by_cases hk : k = key
    · simp [findEntry, hk]
    · have hk' : ¬ key = k := fun h => hk h.symm
      simp only [findEntry, hk, if_false, ih, List.map_cons, List.mem_cons, not_or]
      exact ⟨fun h => ⟨hk', h⟩, fun h => h.2⟩

/-! ### The map and its operations -/

/-- The map without pairs. -/
def empty : OrderedMap α := ⟨[], by simp⟩

instance : Inhabited (OrderedMap α) := ⟨empty⟩

/-- The pairs are all there is to a map. The proof that no key occurs twice does not count. -/
@[ext] theorem ext {m n : OrderedMap α} (h : m.entries = n.entries) : m = n := by
  obtain ⟨entries, nodup⟩ := m
  simp only at h
  subst h
  rfl

/-- Two maps are equal when their pairs are, in order. -/
instance [DecidableEq α] : DecidableEq (OrderedMap α) := fun m n =>
  if h : m.entries = n.entries then isTrue (ext h) else isFalse fun e => h (congrArg entries e)

/-- Sets `key` to `value`, in place if the key is there, else at the end. -/
def insert (m : OrderedMap α) (key : String) (value : α) : OrderedMap α :=
  ⟨insertEntry key value m.entries, nodup_insertEntry key value m.nodup⟩

/-- Removes the pair of `key`; the others keep their order. -/
def erase (m : OrderedMap α) (key : String) : OrderedMap α :=
  ⟨m.entries.filter (fun p => p.1 ≠ key),
    m.nodup.sublist (List.Sublist.map Prod.fst List.filter_sublist)⟩

/-- The value of `key`, if it is there, and the map with `key` set to `value`. -/
def getThenInsert? (m : OrderedMap α) (key : String) (value : α) : Option α × OrderedMap α :=
  ((replaceEntry key value m.entries).1,
    ⟨(replaceEntry key value m.entries).2,
      replaceEntry_eq key value m.entries ▸ nodup_insertEntry key value m.nodup⟩)

/-- The value of `key`, if it is there, and the map without its pair. -/
def getThenErase? (m : OrderedMap α) (key : String) : Option α × OrderedMap α :=
  ((takeEntry key m.entries).1,
    ⟨(takeEntry key m.entries).2,
      takeEntry_eq key m.nodup ▸ (m.erase key).nodup⟩)

/-- Keeps the pairs whose value passes the test. -/
def filterValues (m : OrderedMap α) (keep : α → Bool) : OrderedMap α :=
  ⟨m.entries.filter (fun p => keep p.2),
    m.nodup.sublist (List.Sublist.map Prod.fst List.filter_sublist)⟩

/-- The value of `key`, if it is there. -/
def get? (m : OrderedMap α) (key : String) : Option α := findEntry key m.entries

/-- The keys, first inserted first. -/
def keys (m : OrderedMap α) : List String := m.entries.map Prod.fst

/-- Whether `key` is there. -/
def contains (m : OrderedMap α) (key : String) : Bool := decide (key ∈ m.keys)

/-- How many pairs there are. -/
def size (m : OrderedMap α) : Nat := m.entries.length

/-- Whether there are no pairs. -/
def isEmpty (m : OrderedMap α) : Bool := m.entries.isEmpty

/-- Sets the pairs one after the other, so that the last value of a repeated key wins at
the place of its first. -/
def insertAll (m : OrderedMap α) (pairs : List (String × α)) : OrderedMap α :=
  pairs.foldl (fun m p => m.insert p.1 p.2) m

/-- The map of a list of pairs: first place and last value of a repeated key. -/
def ofList (pairs : List (String × α)) : OrderedMap α := empty.insertAll pairs

/-! ### What the operations do to the keys and to a look-up -/

/-- Setting a key that is there leaves the keys and their order as they are. A new key
stands last. -/
theorem keys_insert (m : OrderedMap α) (key : String) (value : α) :
    (m.insert key value).keys = if key ∈ m.keys then m.keys else m.keys ++ [key] :=
  map_fst_insertEntry key value m.entries

/-- After a key was set, a look-up of it finds the new value, and a look-up of any other
key finds what it found before. -/
@[simp] theorem get?_insert (m : OrderedMap α) (key other : String) (value : α) :
    (m.insert key value).get? other = if key = other then some value else m.get? other :=
  findEntry_insertEntry key other value m.entries

/-- One pass finds the value that was there and sets the new one. -/
theorem getThenInsert?_eq (m : OrderedMap α) (key : String) (value : α) :
    m.getThenInsert? key value = (m.get? key, m.insert key value) := by
  have h := replaceEntry_eq key value m.entries
  have hold : (m.getThenInsert? key value).1 = m.get? key := congrArg Prod.fst h
  have hnew : (m.getThenInsert? key value).2 = m.insert key value := ext (congrArg Prod.snd h)
  exact Prod.ext hold hnew

/-- One pass finds the value and removes the pair. -/
theorem getThenErase?_eq (m : OrderedMap α) (key : String) :
    m.getThenErase? key = (m.get? key, m.erase key) := by
  have h := takeEntry_eq key m.nodup
  have hold : (m.getThenErase? key).1 = m.get? key := congrArg Prod.fst h
  have hnew : (m.getThenErase? key).2 = m.erase key := ext (congrArg Prod.snd h)
  exact Prod.ext hold hnew

/-- A look-up finds nothing exactly when the key is not among the keys. -/
theorem get?_eq_none_iff {m : OrderedMap α} {key : String} : m.get? key = none ↔ key ∉ m.keys :=
  findEntry_eq_none_iff

/-- The test for a key says whether it is among the keys. -/
theorem contains_iff {m : OrderedMap α} {key : String} : m.contains key = true ↔ key ∈ m.keys := by
  simp [contains]

/-- No key occurs twice. -/
theorem nodup_keys (m : OrderedMap α) : m.keys.Nodup := m.nodup

/-- Removing a key takes it out of the keys and keeps the order of the others. -/
theorem keys_erase (m : OrderedMap α) (key : String) :
    (m.erase key).keys = m.keys.filter (fun k => k ≠ key) := by
  simp only [keys, erase, List.filter_map]
  rfl

/-- After a key was removed, a look-up of it finds nothing, and a look-up of any other key
finds what it found before. -/
theorem get?_erase (m : OrderedMap α) (key other : String) :
    (m.erase key).get? other = if key = other then none else m.get? other := by
  simp only [get?, erase]
  induction m.entries with
  | nil => simp [findEntry]
  | cons p rest ih =>
    obtain ⟨k, v⟩ := p
    by_cases hk : k = key
    · subst hk
      by_cases ho : k = other
      · subst ho
        simpa [findEntry] using ih
      · simpa [findEntry, ho] using ih
    · by_cases ho : k = other
      · subst ho
        have hk' : ¬ key = k := fun h => hk h.symm
        simp [findEntry, hk, hk']
      · simpa [findEntry, hk, ho] using ih

end OrderedMap

end EntitlementClient
