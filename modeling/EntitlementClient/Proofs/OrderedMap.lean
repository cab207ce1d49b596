import EntitlementClient.OrderedMap

/-!
# `EntitlementClient.Proofs.OrderedMap`: setting many pairs, and equal maps

Facts about `OrderedMap.insertAll`. Its keys are those that were there and those that are
set (`mem_keys_insertAll`); when nothing but present keys is set, they are the same keys
in the same order (`keys_insertAll`). When the pairs come from a map, so that each key is
set once, a look-up sees the pairs before the map below them (`get?_insertAll_entries`).
The map of pairs that name each key once has just these pairs (`entries_ofList`).

Two maps are equal when they have the same keys in the same order and a look-up sees the
same in both (`ext_get?`). A look-up alone does not depend on the order of the pairs
(`get?_of_perm`).
-/

set_option autoImplicit false

namespace EntitlementClient.OrderedMap

universe u

variable {α : Type u}

/-- One more pair adds its key. -/
@[simp] theorem mem_keys_insert {m : OrderedMap α} {key other : String} {value : α} :
    other ∈ (m.insert key value).keys ↔ other ∈ m.keys ∨ other = key := by
  rw [keys_insert]
  split
  · rename_i hkey
    constructor
    · exact Or.inl
    · rintro (h | rfl)
      · exact h
      · exact hkey
  · simp

/-- The keys after pairs were set are those that were there and those of the pairs. -/
@[simp] theorem mem_keys_insertAll {m : OrderedMap α} {pairs : List (String × α)} {key : String} :
    key ∈ (m.insertAll pairs).keys ↔ key ∈ m.keys ∨ key ∈ pairs.map Prod.fst := by
  induction pairs generalizing m with
  | nil => simp [insertAll]
  | cons pair rest ih =>
    show key ∈ ((m.insert pair.1 pair.2).insertAll rest).keys ↔ _
    rw [ih, mem_keys_insert, List.map_cons, List.mem_cons, or_assoc]

/-- The keys of the map of a list are those of its pairs. -/
@[simp] theorem mem_keys_ofList {pairs : List (String × α)} {key : String} :
    key ∈ (ofList pairs).keys ↔ key ∈ pairs.map Prod.fst := by
  have hempty : key ∉ (empty : OrderedMap α).keys := List.not_mem_nil
  simp [ofList, hempty]

/-- A key with a value is there. -/
theorem mem_keys_of_get? {m : OrderedMap α} {key : String} {value : α}
    (h : m.get? key = some value) : key ∈ m.keys := by
  refine Decidable.byContradiction fun habsent => ?_
  rw [get?_eq_none_iff.mpr habsent] at h
  cases h

/-- After a key was removed, the others are there. -/
theorem contains_erase (m : OrderedMap α) (key other : String) :
    (m.erase key).contains other = (m.contains other && decide (other ≠ key)) := by
  simp [contains, keys_erase]

/-- Setting keys that are there keeps the keys and their order. -/
theorem keys_insertAll {m : OrderedMap α} {pairs : List (String × α)}
    (h : ∀ key ∈ pairs.map Prod.fst, key ∈ m.keys) : (m.insertAll pairs).keys = m.keys := by
  induction pairs generalizing m with
  | nil => rfl
  | cons pair rest ih =>
    have hfirst : (m.insert pair.1 pair.2).keys = m.keys := by
      rw [keys_insert, if_pos (h _ (List.mem_cons_self ..))]
    -- After the first pair the keys are the same, so the rest finds its keys there too.
    show ((m.insert pair.1 pair.2).insertAll rest).keys = m.keys
    rw [ih, hfirst]
    intro key hkey
    rw [hfirst]
    exact h key (List.mem_cons_of_mem _ hkey)

/-- Setting pairs and then more pairs is setting them all. -/
theorem insertAll_append {m : OrderedMap α} {first second : List (String × α)} :
    m.insertAll (first ++ second) = (m.insertAll first).insertAll second :=
  List.foldl_append

/-- A look-up sees the last pair of the key among those that were set, and below them the map. -/
theorem get?_insertAll_eq_lookup {m : OrderedMap α} {pairs : List (String × α)} {key : String} :
    (m.insertAll pairs).get? key = (pairs.reverse.lookup key).or (m.get? key) := by
  induction pairs generalizing m with
  | nil => rfl
  | cons pair rest ih =>
    obtain ⟨k, v⟩ := pair
    show ((m.insert k v).insertAll rest).get? key = _
    rw [ih, get?_insert, List.reverse_cons, List.lookup_append, Option.or_assoc]
    by_cases hk : k = key
    · simp [hk]
    · have hk' : (key == k) = false := by simpa using Ne.symm hk
      simp [hk, hk', List.lookup_cons]

/-- A look-up sees the pairs that were set, and below them the map. Each key is set once. -/
theorem get?_insertAll {m : OrderedMap α} {pairs : List (String × α)} {key : String}
    (hnodup : (pairs.map Prod.fst).Nodup) :
    (m.insertAll pairs).get? key = (findEntry key pairs).or (m.get? key) := by
  induction pairs generalizing m with
  | nil => rfl
  | cons pair rest ih =>
    obtain ⟨k, v⟩ := pair
    rw [List.map_cons, List.nodup_cons] at hnodup
    show ((m.insert k v).insertAll rest).get? key = _
    rw [ih hnodup.2, get?_insert]
    by_cases hk : k = key
    · -- The rest does not set the key again.
      subst hk
      have hrest : findEntry k rest = none := findEntry_eq_none_iff.mpr hnodup.1
      rw [hrest]
      simp [findEntry]
    · rw [if_neg hk]
      simp [findEntry, hk]

/-- A look-up in one map laid over another sees the upper map first. -/
theorem get?_insertAll_entries (m n : OrderedMap α) (key : String) :
    (m.insertAll n.entries).get? key = (n.get? key).or (m.get? key) :=
  get?_insertAll n.nodup

/-- Setting a key that is not there adds its pair at the end. -/
theorem insertEntry_of_not_mem {l : List (String × α)} {key : String} {value : α}
    (h : key ∉ l.map Prod.fst) : insertEntry key value l = l ++ [(key, value)] := by
  induction l with
  | nil => rfl
  | cons pair rest ih =>
    obtain ⟨k, v⟩ := pair
    rw [List.map_cons, List.mem_cons, not_or] at h
    have hk : ¬ k = key := fun e => h.1 e.symm
    rw [insertEntry, if_neg hk, ih h.2, List.cons_append]

/-- Setting a key that is there replaces the value beside its first occurrence, and moves nothing.
-/
theorem insertEntry_append_cons {before after : List (String × α)} {key : String} {old value : α}
    (h : key ∉ before.map Prod.fst) :
    insertEntry key value (before ++ (key, old) :: after) = before ++ (key, value) :: after := by
  induction before with
  | nil => exact if_pos rfl
  | cons pair rest ih =>
    obtain ⟨k, v⟩ := pair
    rw [List.map_cons, List.mem_cons, not_or] at h
    have hk : ¬ k = key := fun e => h.1 e.symm
    rw [List.cons_append, insertEntry, if_neg hk, ih h.2, List.cons_append]

/-- What a look-up finds stands beside the first occurrence of the key. Pairs of the same key
behind it do not count. -/
theorem findEntry_eq_some_iff_append {l : List (String × α)} {key : String} {value : α} :
    findEntry key l = some value ↔
      ∃ before after, l = before ++ (key, value) :: after ∧ key ∉ before.map Prod.fst := by
  induction l with
  | nil => simp [findEntry]
  | cons pair rest ih =>
    obtain ⟨k, v⟩ := pair
    -- The search ends at this pair, or goes on and the pair stands before what is found.
    by_cases hk : k = key
    · subst hk
      rw [findEntry, if_pos rfl]
      constructor
      · rintro ⟨⟩
        exact ⟨[], rest, rfl, List.not_mem_nil⟩
      · rintro ⟨before, after, hl, hbefore⟩
        cases before with
        | nil => cases hl; rfl
        | cons first before =>
          cases hl
          exact absurd List.mem_cons_self hbefore
    · rw [findEntry, if_neg hk, ih]
      constructor
      · rintro ⟨before, after, rfl, hbefore⟩
        have hne : key ∉ ((k, v) :: before).map Prod.fst := by
          rw [List.map_cons, List.mem_cons, not_or]
          exact ⟨fun e => hk e.symm, hbefore⟩
        exact ⟨(k, v) :: before, after, rfl, hne⟩
      · rintro ⟨before, after, hl, hbefore⟩
        cases before with
        | nil => cases hl; exact absurd rfl hk
        | cons first before =>
          cases hl
          rw [List.map_cons, List.mem_cons, not_or] at hbefore
          exact ⟨before, after, rfl, hbefore.2⟩

/-- Pairs with new keys, each of them once, are added at the end in their order. -/
theorem entries_insertAll_of_nodup {m : OrderedMap α} {pairs : List (String × α)}
    (h : ((m.entries ++ pairs).map Prod.fst).Nodup) :
    (m.insertAll pairs).entries = m.entries ++ pairs := by
  induction pairs generalizing m with
  | nil => exact (List.append_nil m.entries).symm
  | cons pair rest ih =>
    have hfresh : pair.1 ∉ m.entries.map Prod.fst := by
      rw [List.map_append, List.nodup_append] at h
      intro hmem
      exact h.2.2 _ hmem _ (List.mem_cons_self ..) rfl
    have hentries : (m.insert pair.1 pair.2).entries = m.entries ++ [pair] :=
      insertEntry_of_not_mem hfresh
    -- The first pair has moved from the pairs to the end of the map.
    have hmoved : (m.insert pair.1 pair.2).entries ++ rest = m.entries ++ pair :: rest := by
      rw [hentries, List.append_assoc, List.singleton_append]
    show ((m.insert pair.1 pair.2).insertAll rest).entries = _
    rw [ih (hmoved ▸ h), hmoved]

/-- A pair that is there after a key was set is the new one, or was there before. -/
theorem mem_insertEntry {l : List (String × α)} {key : String} {value : α} {pair : String × α}
    (h : pair ∈ insertEntry key value l) : pair = (key, value) ∨ pair ∈ l := by
  induction l with
  | nil => exact Or.inl (List.mem_singleton.mp h)
  | cons first rest ih =>
    rw [insertEntry] at h
    split at h
    · rcases List.mem_cons.mp h with rfl | h
      · exact Or.inl rfl
      · exact Or.inr (List.mem_cons_of_mem _ h)
    · rcases List.mem_cons.mp h with rfl | h
      · exact Or.inr List.mem_cons_self
      · exact (ih h).imp_right (List.mem_cons_of_mem _)

/-- A pair that is there after pairs were set was there or was set. -/
theorem mem_entries_insertAll {m : OrderedMap α} {pairs : List (String × α)} {pair : String × α}
    (h : pair ∈ (m.insertAll pairs).entries) : pair ∈ m.entries ∨ pair ∈ pairs := by
  induction pairs generalizing m with
  | nil => exact Or.inl h
  | cons first rest ih =>
    rcases ih (m := m.insert first.1 first.2) h with h | h
    · rcases mem_insertEntry h with rfl | h
      · exact Or.inr List.mem_cons_self
      · exact Or.inl h
    · exact Or.inr (List.mem_cons_of_mem _ h)

/-- The pairs of the map of a list are pairs of the list. -/
theorem mem_of_mem_entries_ofList {pairs : List (String × α)} {pair : String × α}
    (h : pair ∈ (ofList pairs).entries) : pair ∈ pairs :=
  (mem_entries_insertAll h).resolve_left List.not_mem_nil

/-- The map of pairs that name each key once has just these pairs, in their order. -/
theorem entries_ofList {pairs : List (String × α)} (h : (pairs.map Prod.fst).Nodup) :
    (ofList pairs).entries = pairs :=
  entries_insertAll_of_nodup h

/-- Setting pairs adds their new keys at the end, each at its first place. Keys that are there
stay where they are. -/
theorem keys_insertAll_eq {m : OrderedMap α} {pairs : List (String × α)} :
    (m.insertAll pairs).keys =
      m.keys ++ ((pairs.map Prod.fst).filter fun key => key ∉ m.keys).eraseDups := by
  induction pairs generalizing m with
  | nil => simp [insertAll]
  | cons pair rest ih =>
    show ((m.insert pair.1 pair.2).insertAll rest).keys = _
    rw [ih, keys_insert, List.map_cons]
    by_cases hkey : pair.1 ∈ m.keys
    · rw [if_pos hkey, List.filter_cons_of_neg (by simpa using hkey)]
    · -- The new key stands first among the new ones and is not counted again.
      rw [if_neg hkey, List.filter_cons_of_pos (by simpa using hkey), List.eraseDups_cons,
        List.filter_filter, List.append_assoc, List.singleton_append]
      have hfilter : ((rest.map Prod.fst).filter fun key => key ∉ m.keys ++ [pair.1]) =
          (rest.map Prod.fst).filter fun key => !key == pair.1 && decide (key ∉ m.keys) := by
        refine List.filter_congr fun key _ => ?_
        by_cases h : key = pair.1
        · simp [h]
        · simp [h]
      rw [hfilter]

/-- The keys of the map of a list are those of its pairs, each at its first place. -/
theorem keys_ofList {pairs : List (String × α)} :
    (ofList pairs).keys = (pairs.map Prod.fst).eraseDups := by
  have hall : ((pairs.map Prod.fst).filter fun key => key ∉ (empty : OrderedMap α).keys) =
      pairs.map Prod.fst := List.filter_eq_self.mpr fun key _ => by simp [keys, empty]
  rw [ofList, keys_insertAll_eq, hall]
  rfl

/-- The keys of a map stand once. -/
theorem eraseDups_keys (m : OrderedMap α) : m.keys.eraseDups = m.keys := by
  have hentries : (ofList m.entries).entries = m.entries := entries_ofList m.nodup
  calc m.keys.eraseDups
      = (ofList m.entries).keys := keys_ofList.symm
    _ = m.keys := congrArg (List.map Prod.fst) hentries

/-- The map of the values of keys has each key once, at its first place. -/
theorem entries_ofList_map {keys : List String} {value : String → α} :
    (ofList (keys.map fun key => (key, value key))).entries =
      keys.eraseDups.map fun key => (key, value key) := by
  have hkeys : (ofList (keys.map fun key => (key, value key))).keys = keys.eraseDups := by
    rw [keys_ofList, List.map_map]
    exact congrArg List.eraseDups (List.map_id keys)
  rw [← hkeys, OrderedMap.keys, List.map_map]
  -- Every pair of the map is one of the list, so it has the value of its key.
  refine (List.map_id _).symm.trans (List.map_congr_left fun pair hpair => ?_)
  obtain ⟨key, -, rfl⟩ := List.mem_map.mp (mem_of_mem_entries_ofList hpair)
  rfl

/-! ### Equal maps -/

/-- What a look-up finds stands beside the key. -/
theorem mem_of_findEntry {l : List (String × α)} {key : String} {value : α}
    (h : findEntry key l = some value) : (key, value) ∈ l := by
  induction l with
  | nil => cases h
  | cons pair rest ih =>
    obtain ⟨k, v⟩ := pair
    rw [findEntry] at h
    split at h
    · rename_i hk
      cases h
      rw [hk]
      exact List.mem_cons_self
    · exact List.mem_cons_of_mem _ (ih h)

/-- Where each key stands once, the value beside a key is the one of its pair. -/
theorem findEntry_eq_some_iff {l : List (String × α)} (h : (l.map Prod.fst).Nodup) {key : String}
    {value : α} : findEntry key l = some value ↔ (key, value) ∈ l := by
  induction l with
  | nil => simp [findEntry]
  | cons pair rest ih =>
    obtain ⟨k, v⟩ := pair
    rw [List.map_cons, List.nodup_cons] at h
    by_cases hk : k = key
    · subst hk
      have hrest : (k, value) ∉ rest := fun hmem => h.1 (List.mem_map.mpr ⟨_, hmem, rfl⟩)
      simp only [findEntry, if_true, Option.some.injEq, List.mem_cons, Prod.mk.injEq, true_and,
        hrest, or_false]
      exact eq_comm
    · have hk' : ¬ key = k := fun e => hk e.symm
      simp only [findEntry, hk, if_false, ih h.2, List.mem_cons, Prod.mk.injEq, hk', false_and,
        false_or]

/-- Where each key stands once, at most one pair has a key. -/
theorem filter_eq_findEntry {l : List (String × α)} (h : (l.map Prod.fst).Nodup) (key : String) :
    (l.filter fun p => p.1 = key) = ((findEntry key l).map fun value => (key, value)).toList := by
  induction l with
  | nil => rfl
  | cons pair rest ih =>
    obtain ⟨k, v⟩ := pair
    rw [List.map_cons, List.nodup_cons] at h
    rw [List.filter_cons, ih h.2]
    by_cases hk : k = key
    · subst hk
      have hrest : findEntry k rest = none := findEntry_eq_none_iff.mpr h.1
      rw [hrest]
      simp [findEntry]
    · simp [findEntry, hk]

/-- A look-up finds a value exactly when the key stands beside it. No key occurs twice, so
there is one value to find. -/
theorem get?_eq_some_iff {m : OrderedMap α} {key : String} {value : α} :
    m.get? key = some value ↔ (key, value) ∈ m.entries :=
  findEntry_eq_some_iff m.nodup

/-- A look-up does not depend on the order of the pairs, because each key stands once. -/
theorem get?_of_perm {m n : OrderedMap α} (h : m.entries.Perm n.entries) (key : String) :
    m.get? key = n.get? key := by
  refine Option.ext fun value => ?_
  show m.get? key = some value ↔ n.get? key = some value
  rw [get?_eq_some_iff, get?_eq_some_iff, h.mem_iff]

/-- Lists of pairs with the same keys in the same order are equal when each key has the
same value beside it. -/
theorem findEntry_ext {l l' : List (String × α)} (hkeys : l.map Prod.fst = l'.map Prod.fst)
    (hnodup : (l.map Prod.fst).Nodup)
    (hfind : ∀ key ∈ l.map Prod.fst, findEntry key l = findEntry key l') : l = l' := by
  induction l generalizing l' with
  | nil =>
    cases l' with
    | nil => rfl
    | cons pair' rest' => cases hkeys
  | cons pair rest ih =>
    cases l' with
    | nil => cases hkeys
    | cons pair' rest' =>
      obtain ⟨k, v⟩ := pair
      obtain ⟨k', v'⟩ := pair'
      rw [List.map_cons, List.map_cons, List.cons.injEq] at hkeys
      obtain ⟨hk, hrest⟩ := hkeys
      dsimp only at hk
      subst hk
      rw [List.map_cons, List.nodup_cons] at hnodup
      have hvalue : v = v' := by simpa [findEntry] using hfind k (List.mem_cons_self ..)
      have htail : rest = rest' := by
        refine ih hrest hnodup.2 fun key hkey => ?_
        -- A key of the rest is not the first one, so both look-ups pass the first pair.
        have hne : ¬ k = key := fun e => hnodup.1 (e ▸ hkey)
        simpa [findEntry, hne] using hfind key (List.mem_cons_of_mem _ hkey)
      rw [hvalue, htail]

/-- Maps with the same keys in the same order are equal when a look-up sees the same in both. -/
theorem ext_get? {m n : OrderedMap α} (hkeys : m.keys = n.keys)
    (hget : ∀ key ∈ m.keys, m.get? key = n.get? key) : m = n :=
  ext (findEntry_ext hkeys m.nodup hget)

end EntitlementClient.OrderedMap
