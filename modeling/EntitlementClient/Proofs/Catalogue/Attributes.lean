import EntitlementClient.Proofs.Catalogue.Made
import EntitlementClient.Proofs.Operation.Apart
import EntitlementClient.Proofs.Wire.Attributes

/-!
# `EntitlementClient.Proofs.Catalogue.Attributes`: attributes as an object or as a list of pairs

A caller can give attributes as an object, or as the list of the pairs of a name and a
value (`Json.pairList`). Two operations take either form. The pools of an owner are
filtered by attributes, and a product is updated with them.

A filter of pools has the text of a value in it, and null has none, so an attribute that
is null does not filter. A product is sent all its attributes as a list of names and
values, those that are null too. Both make the same of the two forms.
`attributes_in_either_form` says so of whole calls, and what they send.
-/

set_option autoImplicit false

namespace EntitlementClient

/-! ### One map in two forms -/

/-- The names and the values of a map as a list of pairs. -/
def Json.pairList (m : OrderedMap Json) : Json :=
  .array (m.entries.map fun entry => .array [.string entry.1, entry.2])

/-- The pairs as which the attributes of a map are sent in a query. -/
def OrderedMap.filterPairs (m : OrderedMap Json) : List (String × String) :=
  (m.entries.filter fun entry => !entry.2.isNull).map fun entry =>
    ("attribute", entry.1 ++ ":" ++ entry.2.sentText)

/-- Attributes filter a query the same whether they are given as an object or as the list
of its pairs. -/
theorem attributeFilters_pairList (m : OrderedMap Json) :
    attributeFilters (.pairList m) = attributeFilters (.ofMap m) := by
  show (m.entries.map fun entry => Json.array [.string entry.1, entry.2]).filterMap attributeItem? =
    m.entries.filterMap fun entry => attributeFilter? (.string entry.1) entry.2
  rw [List.filterMap_map]
  rfl

/-- The filters of a query are one for each attribute with a value. Null has no text, so an
attribute that is null is no filter. -/
theorem map_attributeFilters (m : OrderedMap Json) :
    (attributeFilters (.ofMap m)).map (fun filter => ("attribute", filter)) = m.filterPairs := by
  show (m.entries.filterMap fun entry => attributeFilter? (.string entry.1) entry.2).map _ = _
  rw [OrderedMap.filterPairs]
  induction m.entries with
  | nil => rfl
  | cons entry rest ih =>
    have hfilter : attributeFilter? (.string entry.1) entry.2 =
        if entry.2.isNull = true then none else some (entry.1 ++ ":" ++ entry.2.sentText) := by
      show (entry.2.scalarText?.bind fun value => some (entry.1 ++ ":" ++ value)) = _
      rw [Json.scalarText?_eq]
      cases entry.2.isNull with
      | true => rfl
      | false => rfl
    rw [List.filterMap_cons, hfilter]
    cases hnull : entry.2.isNull with
    | true => simp [hnull, ih]
    | false => simp [hnull, ih]

namespace Json

/-- In a body, too, both forms become the same list of names and values. -/
theorem nameValuePairs_pairList (m : OrderedMap Json) :
    (pairList m).nameValuePairs = (ofMap m).nameValuePairs := by
  show array ((m.entries.map fun entry => array [.string entry.1, entry.2]).map pairToNameValue) =
    array (m.entries.map fun entry => nameValue (.string entry.1) entry.2)
  rw [List.map_map]
  rfl

/-- Attributes in a body are never null, whatever was given for them. So no body drops them. -/
theorem isNull_nameValuePairs (v : Json) : v.nameValuePairs.isNull = false := by
  cases v <;> rfl

end Json

variable {context : Context} {supplied merged : OptionSet} {request : Request}

/-! ### The pools of an owner -/

namespace Owners

/-- The query of the pools: the options before the filters, the filters, and the options
after them. -/
theorem pairs_getOwnerPools (h : getOwnerPools.Makes context supplied merged request) :
    request.query.pairs =
      (["consumer", "product", "listall"].flatMap fun key => (merged.value key).pairs key) ++
        ((attributeFilters (merged.value "attributes")).map fun filter => ("attribute", filter)) ++
        ["page", "per_page", "order", "sort_by"].flatMap fun key =>
          (merged.value key).pairs key := by
  obtain ⟨-, path, query, -, hquery, rfl⟩ := h.plan_cases
  simp only [getOwnerPools, renderQuery, bind_eq_ok_iff] at hquery
  obtain ⟨filtered, hfiltered, attributed, hattributed, paged, hpaged, hquery⟩ := hquery
  cases hquery
  cases hattributed
  -- No option is named twice, so each adds its pairs where it is named.
  have hfirst : ["consumer", "product", "listall"].eraseDups =
      ["consumer", "product", "listall"] := by decide
  have hlast : ["page", "per_page", "order", "sort_by"].eraseDups =
      ["page", "per_page", "order", "sort_by"] := by decide
  rw [QueryPart.pairs_addTo_options hpaged, hlast, Query.pushAll,
    QueryPart.pairs_addTo_options hfiltered, hfirst]
  rfl

/-- Both forms of a map filter the pools alike. The option `attributes` is read in one part of the
query only, and that part makes the same of both. -/
theorem call_getOwnerPools_pairList (context : Context) (supplied : OptionSet)
    (m : OrderedMap Json) :
    getOwnerPools.call context (supplied.insert "attributes" (.pairList m)) =
      getOwnerPools.call context (supplied.insert "attributes" (.ofMap m)) := by
  refine Operation.call_insert_congr fun {options options'} happart hpairs hobject => ?_
  refine Operation.plan_congr happart (by decide) (by decide) ?_ fun body hbody => by cases hbody
  -- Of all parts only the filters read the attributes.
  have hfilters : ∀ q : Query,
      (QueryPart.attributes "attribute" "attributes").addTo options q =
        (QueryPart.attributes "attribute" "attributes").addTo options' q := by
    intro q
    rw [QueryPart.addTo, QueryPart.addTo, hpairs, hobject, attributeFilters_pairList]
  simp only [getOwnerPools, List.forall_mem_cons]
  exact ⟨QueryPart.addTo_congr happart (by decide), hfilters,
    QueryPart.addTo_congr happart (by decide), List.forall_mem_nil _⟩

end Owners

/-! ### The update of a product -/

namespace Products

/-- The attributes stand last in the body, and no member before them has their name. They are a
list, so they are never dropped, not even when there are none. -/
theorem body_updateProduct (h : updateProduct.Makes context supplied merged request) :
    ∃ members, request.body = some (.object (members ++
        [("attributes", (merged.value "attributes").nameValuePairs)])) ∧
      "attributes" ∉ members.map Prod.fst := by
  have hfields : merged.wireFields ["name", "multiplier", "dependent_product_ids", "relies_on"] =
      [("name", merged.value "name"), ("multiplier", merged.value "multiplier"),
        ("dependentProductIds", merged.value "dependent_product_ids"),
        ("reliesOn", merged.value "relies_on")] := h.wireFields (by decide)
  have hplan : updateProduct.body = some (.compacted ([.fields _, .member _ _ _] ++ [_])) := rfl
  refine ⟨_, h.body_last hplan rfl (Json.isNull_nameValuePairs _) ?_, fun hmem => ?_⟩
  · simp [BodyPart.members, hfields]
  · have hname := (List.filter_sublist.map Prod.fst).subset hmem
    simp [BodyPart.members, hfields] at hname

/-- Both forms of a map update a product alike. Here the option is read in one member of the body
only. -/
theorem call_updateProduct_pairList (context : Context) (supplied : OptionSet)
    (m : OrderedMap Json) :
    updateProduct.call context (supplied.insert "attributes" (.pairList m)) =
      updateProduct.call context (supplied.insert "attributes" (.ofMap m)) := by
  refine Operation.call_insert_congr fun {options options'} happart hpairs hobject => ?_
  refine Operation.plan_congr happart (by decide) (by decide)
    (List.forall_mem_nil _) fun body hbody => ?_
  cases hbody
  -- Of all parts only one member of the body reads the attributes.
  have hattributes : (BodyPart.member "attributes" "attributes" .attributes).members options =
      (BodyPart.member "attributes" "attributes" .attributes).members options' := by
    rw [BodyPart.members, BodyPart.members, hpairs, hobject, Shape.apply, Shape.apply,
      Json.nameValuePairs_pairList]
  rw [BodyPlan.render, BodyPlan.render, assemble_congr]
  simp only [List.forall_mem_cons]
  exact ⟨BodyPart.members_congr happart (by decide) (by decide),
    BodyPart.members_congr happart (by decide) (by decide), hattributes, List.forall_mem_nil _⟩

end Products

/-! ### What is sent -/

/-- Apart from one that the caller gives, a merged option without a default has the
caller's value. -/
theorem value_of_merge_other {op : Operation} {key other : String} {v : Json}
    (hnodup : op.declared.Nodup)
    (h : (op.defaults context (supplied.insert key v)).merge (supplied.insert key v) = .ok merged)
    (hother : other ≠ key ∧ (other, .absent) ∈ op.parameters) :
    merged.value other = supplied.value other := by
  rw [Operation.value_of_merge_absent hnodup h hother.2, OptionSet.value, OrderedMap.get?_insert,
    if_neg hother.1.symm]
  rfl

/-- The pools of an owner are asked for with the filters of the map. They stand after the options
that select pools and before those that select a page. -/
theorem request_getOwnerPools (context : Context) {m : OrderedMap Json}
    (hdeclared : ∀ key ∈ (supplied.insert "attributes" (.ofMap m)).keys,
      key ∈ Owners.getOwnerPools.declared)
    (hkey : (supplied.value "key").IsScalar) :
    ∃ request,
      Owners.getOwnerPools.request context (supplied.insert "attributes" (.ofMap m)) =
        .ok request ∧
      request.query.pairs =
        (["consumer", "product", "listall"].flatMap fun key => (supplied.value key).pairs key) ++
          m.filterPairs ++
          ["page", "per_page", "order", "sort_by"].flatMap fun key =>
            (supplied.value key).pairs key := by
  have hentry : (Entry.single Owners.getOwnerPools).Declared
    (supplied.insert "attributes" (.ofMap m)) := hdeclared
  obtain ⟨merged, hmerge⟩ := Entry.merge_of_declared context hentry
  have hnodup : Owners.getOwnerPools.declared.Nodup := by decide
  have hscalar : (merged.value "key").IsScalar := by
    rwa [value_of_merge_other hnodup hmerge (by decide)]
  obtain ⟨request, hrequest, hmakes⟩ :=
    Operation.ReadsDeclared.exists_makes (by decide +kernel) hmerge
      (List.forall_mem_singleton.mpr (OptionSet.require_of_ne_null hscalar.ne_null))
      (by simpa [Owners.getOwnerPools, Owners.ownerPath, PathPart.reads] using hscalar)
  -- Every other option in the query has the value that the caller gave for it.
  have hpairs : ∀ keys : List String,
      (∀ key ∈ keys, key ≠ "attributes" ∧ (key, .absent) ∈ Owners.getOwnerPools.parameters) →
        (keys.flatMap fun key => (merged.value key).pairs key) =
          keys.flatMap fun key => (supplied.value key).pairs key := fun keys hkeys =>
    List.flatMap_congr fun key hmem => by
      rw [value_of_merge_other hnodup hmerge (hkeys key hmem)]
  refine ⟨request, hrequest, ?_⟩
  rw [Owners.pairs_getOwnerPools hmakes, Operation.value_of_merge_insert hmerge,
    map_attributeFilters, hpairs _ (by decide), hpairs _ (by decide)]

/-- A product is updated with the list of the names and values of the map. The map can be read
back from that list. -/
theorem request_updateProduct (context : Context) {m : OrderedMap Json}
    (hdeclared : ∀ key ∈ (supplied.insert "attributes" (.ofMap m)).keys,
      key ∈ Products.updateProduct.declared)
    (hkey : (supplied.value "key").IsScalar) (hproduct : (supplied.value "product_id").IsScalar) :
    ∃ request members list,
      Products.updateProduct.request context (supplied.insert "attributes" (.ofMap m)) =
        .ok request ∧
      request.body = some (.object (members ++ [("attributes", list)])) ∧
      "attributes" ∉ members.map Prod.fst ∧ list.attributes? = some m.entries := by
  have hentry : (Entry.single Products.updateProduct).Declared
    (supplied.insert "attributes" (.ofMap m)) := hdeclared
  obtain ⟨merged, hmerge⟩ := Entry.merge_of_declared context hentry
  have hnodup : Products.updateProduct.declared.Nodup := by decide
  rw [← value_of_merge_other hnodup hmerge (by decide)] at hkey hproduct
  obtain ⟨request, hrequest, hmakes⟩ :=
    Operation.ReadsDeclared.exists_makes (by decide +kernel) hmerge
      (List.forall_mem_singleton.mpr (OptionSet.require_of_ne_null hkey.ne_null))
      (by simpa [Products.updateProduct, Products.ownerProductPath, Products.productsPath,
        PathPart.reads] using ⟨hkey, hproduct⟩)
  -- The list in the body is made of the merged attributes, which are the caller's.
  obtain ⟨members, hbody, hother⟩ := Products.body_updateProduct hmakes
  refine ⟨request, members, _, hrequest, hbody, hother, ?_⟩
  rw [Operation.value_of_merge_insert hmerge]
  exact Json.attributes?_nameValuePairs m.entries

/-- Take any options and any map of attributes, on any client. The call for the pools of
an owner is the same whether the attributes are given as the object of the map or as the
list of its pairs, and so is the call that updates a product. When the options are
declared and those in the path fit into it, each call sends one request. The query for the
pools has one filter for each value that is not null, in order, after the options that
select pools and before those of the page. The body of the update has one member
`attributes`, from which the names and values of the map can be read back in their order,
those that are null too. -/
theorem attributes_in_either_form (context : Context) (supplied : OptionSet) (m : OrderedMap Json)
    {σ : Type} (serve : Call.Server σ) (s : σ) :
    let asObject := supplied.insert "attributes" (.ofMap m)
    let asPairs := supplied.insert "attributes" (.pairList m)
    Owners.getOwnerPools.call context asPairs = Owners.getOwnerPools.call context asObject ∧
    Products.updateProduct.call context asPairs = Products.updateProduct.call context asObject ∧
    ((∀ key ∈ asObject.keys, key ∈ Owners.getOwnerPools.declared) →
      (supplied.value "key").IsScalar →
      ∃ request,
        (Owners.getOwnerPools.call context asObject).run serve s =
          ⟨[request], (serve s request).1, (serve s request).2⟩ ∧
        request.query.pairs =
          (["consumer", "product", "listall"].flatMap fun key =>
            (supplied.value key).pairs key) ++
          m.filterPairs ++
          ["page", "per_page", "order", "sort_by"].flatMap fun key =>
            (supplied.value key).pairs key) ∧
    ((∀ key ∈ asObject.keys, key ∈ Products.updateProduct.declared) →
      (supplied.value "key").IsScalar → (supplied.value "product_id").IsScalar →
      ∃ request members list,
        (Products.updateProduct.call context asObject).run serve s =
          ⟨[request], (serve s request).1, (serve s request).2⟩ ∧
        request.body = some (.object (members ++ [("attributes", list)])) ∧
        "attributes" ∉ members.map Prod.fst ∧ list.attributes? = some m.entries) := by
  refine ⟨Owners.call_getOwnerPools_pairList context supplied m,
    Products.call_updateProduct_pairList context supplied m, fun hdeclared hkey => ?_,
    fun hdeclared hkey hproduct => ?_⟩
  · obtain ⟨request, hrequest, hpairs⟩ := request_getOwnerPools context hdeclared hkey
    exact ⟨request, by rw [Operation.run_call, hrequest], hpairs⟩
  · obtain ⟨request, members, list, hrequest, hbody⟩ :=
      request_updateProduct context hdeclared hkey hproduct
    exact ⟨request, members, list, by rw [Operation.run_call, hrequest], hbody⟩

/-- Attributes of which one is null and one is a list. Neither operation can tell the
forms apart. The null is no filter, but it is sent with the product. -/
theorem attributes_in_either_form_null_and_list :
    let context : Context := ⟨none, ⟨2026, 1, 31⟩⟩
    let m : OrderedMap Json :=
      .ofList [("cores", .null), ("arch", .array [.string "x86_64", .null]), ("type", .string "SVC")]
    let filtered : OptionSet :=
      .ofList [("page", .ofNat 2), ("key", .string "admin"), ("product", .string "p1")]
    let updated : OptionSet := .ofList [("key", .string "admin"), ("product_id", .ofNat 7)]
    (∀ key ∈ (filtered.insert "attributes" (.ofMap m)).keys,
        key ∈ Owners.getOwnerPools.declared) ∧
      (filtered.value "key").IsScalar ∧
      ((Owners.getOwnerPools.call context (filtered.insert "attributes" (.pairList m))).run
          replay []).sent.map (fun request => request.query.pairs) =
        [[("product", "p1"), ("attribute", "arch:[\"x86_64\",null]"), ("attribute", "type:SVC"),
          ("page", "2")]] ∧
      (∀ key ∈ (updated.insert "attributes" (.ofMap m)).keys,
        key ∈ Products.updateProduct.declared) ∧
      (updated.value "key").IsScalar ∧ (updated.value "product_id").IsScalar ∧
      ∃ request members list,
        ((Products.updateProduct.call context (updated.insert "attributes" (.pairList m))).run
          replay []).sent = [request] ∧
        request.body = some (.object (members ++ [("attributes", list)])) ∧
        list.attributes? = some [("cores", .null), ("arch", .array [.string "x86_64", .null]),
          ("type", .string "SVC")] := by
  intro context m filtered updated
  obtain ⟨hpools, -, hfilters, -⟩ := attributes_in_either_form context filtered m replay []
  obtain ⟨-, hproduct, -, hsends⟩ := attributes_in_either_form context updated m replay []
  have hfiltered : ∀ key ∈ (filtered.insert "attributes" (.ofMap m)).keys,
      key ∈ Owners.getOwnerPools.declared := by decide
  have hupdated : ∀ key ∈ (updated.insert "attributes" (.ofMap m)).keys,
      key ∈ Products.updateProduct.declared := by decide
  obtain ⟨request, hrun, hpairs⟩ := hfilters hfiltered trivial
  obtain ⟨sent, members, list, hsent, hbody, -, hlist⟩ := hsends hupdated trivial trivial
  refine ⟨hfiltered, trivial, ?_, hupdated, trivial, trivial, sent, members, list,
    by rw [hproduct, hsent], hbody, hlist⟩
  rw [hpools, hrun, List.map_singleton, hpairs]
  decide +kernel

end EntitlementClient
