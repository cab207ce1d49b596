import EntitlementClient.Proofs.OrderedMap
import EntitlementClient.Proofs.Text.Form
import EntitlementClient.Query

/-!
# `EntitlementClient.Proofs.Query`: what the server reads in a query

`Query.decode_encode` is the round trip of a query: whatever its pairs are, with repeated
keys, empty keys and values and any characters in them, decoding the form gives back the
pairs in order. It is put together from the round trip of a pair (`decodePair_encodePair`)
and the parts of a form.

`Json.pairs` says which pairs an option value is sent as, and `Query.pairs_pushOptions`
that a query of options has just these, option by option. The query of requested keys is
known completely (`Query.decode_ofOptions`): it fails with the keys that are not there, or
the server reads the pairs of the keys, each key at its first place.
-/

set_option autoImplicit false

namespace EntitlementClient

/-! ### As a form -/

namespace Query

/-- A pair without the equals sign between is two fields, and the first equals sign is
that one. -/
theorem decodePair_encodePair (p : String × String) : decodePair (encodePair p) = some p := by
  have hkey : ∀ c ∈ Text.formEncode p.1.toList, decide (c ≠ '=') = true := by
    intro c hc
    have hne : c ≠ '=' := by
      rintro rfl
      exact Text.not_mem_formEncode (by decide) _ hc
    simpa using hne
  have hfirst : (encodePair p).takeWhile (· ≠ '=') = Text.formEncode p.1.toList := by
    rw [encodePair, List.takeWhile_append_of_pos hkey]
    simp
  have hsecond : ((encodePair p).dropWhile (· ≠ '=')).drop 1 = Text.formEncode p.2.toList := by
    rw [encodePair, List.dropWhile_append_of_pos hkey]
    simp
  unfold decodePair
  rw [hfirst, hsecond, Text.formDecode_formEncode, Text.formDecode_formEncode]
  simp

/-- A pair holds no ampersand. -/
theorem not_mem_encodePair (p : String × String) : '&' ∉ encodePair p := by
  have hkey := Text.not_mem_formEncode (c := '&') (by decide) p.1.toList
  have hvalue := Text.not_mem_formEncode (c := '&') (by decide) p.2.toList
  simp [encodePair, hkey, hvalue]

/-- A pair is not empty: it holds an equals sign. -/
theorem encodePair_ne_nil (p : String × String) : encodePair p ≠ [] := by
  simp [encodePair]

/-- Pairs that are encoded one by one are read back one by one. -/
theorem mapM_decodePair (pairs : List (String × String)) :
    (pairs.map encodePair).mapM decodePair = some pairs := by
  induction pairs with
  | nil => rfl
  | cons p rest ih => simp [decodePair_encodePair, ih]

/-- Decoding the form of a query gives back the query. The signs that keep pairs and fields apart
are escaped inside of them. -/
theorem decode_encode (q : Query) : decode q.encode = some q := by
  have hparts : (Text.splitAt '&' q.encode.toList).filter (fun part => !part.isEmpty) =
      q.pairs.map encodePair := by
    rw [encode, String.toList_ofList]
    by_cases hnone : q.pairs = []
    · -- The form of no pairs has one part, which is empty.
      rw [hnone]
      rfl
    · rw [Text.splitAt_joinWith (by simpa using hnone), List.filter_eq_self]
      · intro part hpart
        obtain ⟨p, -, rfl⟩ := List.mem_map.mp hpart
        simpa using encodePair_ne_nil p
      · intro part hpart
        obtain ⟨p, -, rfl⟩ := List.mem_map.mp hpart
        exact not_mem_encodePair p
  rw [decode, hparts, mapM_decodePair]
  rfl

/-- A key that repeats, separators inside a key and a value, and an empty pair. -/
example :
    (Query.mk [("pool", "a b"), ("pool", "1+1=2"), ("x&y", "%"), ("", "")]).encode =
      "pool=a+b&pool=1%2B1%3D2&x%26y=%25&=" := by decide +kernel

end Query

/-! ### Of options -/

namespace Json

/-- Null is the only value that is null. -/
theorem isNull_iff {v : Json} : v.isNull = true ↔ v = .null := by
  cases v <;> simp [isNull]

/-- The text of a value that is not null: a string as it is, any other value as JSON. -/
def sentText : Json → String
  | .string s => s
  | v => v.render

/-- The pairs that a value is sent as under a key: none for null, one for each element of
a list that is not null, one for any other value. -/
def pairs (key : String) : Json → List (String × String)
  | .null => []
  | .array items => (items.filter fun item => !item.isNull).map fun item => (key, item.sentText)
  | v => [(key, v.sentText)]

/-- A value is sent as its text, unless it is null. -/
theorem scalarText?_eq (v : Json) :
    v.scalarText? = if v.isNull = true then none else some v.sentText := by
  cases v <;> rfl

/-- The elements of a list that are sent are those that are not null. -/
theorem filterMap_scalarText? (items : List Json) :
    items.filterMap scalarText? = (items.filter fun item => !item.isNull).map sentText := by
  induction items with
  | nil => rfl
  | cons item rest ih =>
    rw [List.filterMap_cons, scalarText?_eq, ih]
    cases hnull : item.isNull with
    | true => simp [hnull]
    | false => simp [hnull]

/-- The pairs of a value are those that it adds to a query. -/
theorem map_texts (key : String) (v : Json) :
    (Query.texts v).map (fun text => (key, text)) = v.pairs key := by
  cases v with
  | null => rfl
  | bool b => rfl
  | number n => rfl
  | string s => rfl
  | array items =>
    show (items.filterMap scalarText?).map _ = _
    rw [filterMap_scalarText?, List.map_map]
    rfl
  | object members => rfl

/-- Under another key a value has no pair. -/
theorem filter_pairs (key other : String) (v : Json) :
    ((v.pairs other).filter fun pair => pair.1 = key) = if other = key then v.pairs other else [] := by
  have hkey : ∀ pair ∈ v.pairs other, pair.1 = other := by
    intro pair hpair
    rw [← map_texts] at hpair
    obtain ⟨text, -, rfl⟩ := List.mem_map.mp hpair
    rfl
  split
  · rename_i heq
    exact List.filter_eq_self.mpr fun pair hpair => by simp [hkey pair hpair, heq]
  · rename_i hne
    exact List.filter_eq_nil_iff.mpr fun pair hpair => by simp [hkey pair hpair, hne]

end Json

/-- Selecting keys fails with those that are not there, all of them, or gives the values of all.
-/
theorem OptionSet.select_eq (options : OptionSet) (keys : List String) :
    options.select keys =
      if (keys.filter fun key => key ∉ options.keys) = [] then
        .ok (.ofList (keys.map fun key => (key, options.value key)))
      else .error (.missingKey (keys.filter fun key => key ∉ options.keys)) := by
  have hmissing : (keys.filter fun key => !options.contains key) =
      keys.filter fun key => key ∉ options.keys := by
    refine List.filter_congr fun key _ => ?_
    simp [OrderedMap.contains]
  unfold select
  dsimp only
  simp only [hmissing, List.isEmpty_iff]

namespace Query

variable {q : Query} {options : OptionSet}

/-- A value adds its pairs after those that are there. -/
theorem pairs_pushValue (key : String) (v : Json) :
    (q.pushValue key v).pairs = q.pairs ++ v.pairs key := by
  show q.pairs ++ (texts v).map (fun text => (key, text)) = _
  rw [Json.map_texts]

/-- A query with the options of a set has their pairs, in the order of the set, behind those that
it has. -/
theorem pairs_pushOptions :
    (q.pushOptions options).pairs =
      q.pairs ++ options.entries.flatMap fun entry => entry.2.pairs entry.1 := by
  unfold pushOptions
  induction options.entries generalizing q with
  | nil => exact (List.append_nil q.pairs).symm
  | cons entry rest ih =>
    rw [List.foldl_cons, ih, pairs_pushValue, List.flatMap_cons, List.append_assoc]

/-- The pairs of the options under the given keys are those of each key at its first place. A key
that is asked for twice is sent once. -/
theorem pairs_pushOptions_select {keys : List String} {selected : OptionSet}
    (h : options.select keys = .ok selected) :
    (q.pushOptions selected).pairs =
      q.pairs ++ keys.eraseDups.flatMap fun key => (options.value key).pairs key := by
  rw [OptionSet.select_eq] at h
  split at h
  · cases h
    rw [pairs_pushOptions, OrderedMap.entries_ofList_map, List.flatMap_map]
  · cases h

/-- A query of requested keys fails with the keys that are not there, in the order of the
request. When all are there, the server reads the pairs of the keys, each key at its first
place. And whatever the pairs of a query are, the server reads them in order. -/
theorem decode_ofOptions (options : OptionSet) (keys : List String) :
    (if (keys.filter fun key => key ∉ options.keys) = [] then
      ∃ q, ofOptions options keys = .ok q ∧
        decode q.encode =
          some ⟨keys.eraseDups.flatMap fun key => (options.value key).pairs key⟩
    else
      ofOptions options keys =
        .error (.missingKey (keys.filter fun key => key ∉ options.keys))) ∧
    ∀ q : Query, decode q.encode = some q := by
  refine ⟨?_, decode_encode⟩
  by_cases hmissing : (keys.filter fun key => key ∉ options.keys) = []
  · have hselect := options.select_eq keys
    rw [if_pos hmissing] at hselect ⊢
    refine ⟨_, by rw [ofOptions, hselect]; rfl, ?_⟩
    rw [decode_encode, Option.some.injEq, Query.mk.injEq]
    exact pairs_pushOptions_select hselect
  · rw [if_neg hmissing, ofOptions, OptionSet.select_eq, if_neg hmissing]
    rfl

end Query

end EntitlementClient
