import EntitlementClient.Proofs.Catalogue.Made
import EntitlementClient.Proofs.Operation.Call
import EntitlementClient.Proofs.Wire.Attributes

/-!
# `EntitlementClient.Proofs.Catalogue.Products`: the attributes of a product that is created

A product is created with attributes, which have to be an object, and with a type, which
is sent as one of them. The type is not among the members of the body itself.

`Products.createProduct_sends` says what comes of any attributes. When they are no object
the call fails and sends nothing. When they are one, the body holds them as a list of
names and values in their order, and the attribute `type` has the type option as its
value, whether the caller's attributes name it or not (`OrderedMap.Overrides`). Nothing
else that the caller gives enters the list.
-/

set_option autoImplicit false

namespace EntitlementClient.Products

open Operation

/-! ### The options of the call -/

/-- The attributes of a call. Without any they are the object without members. -/
def attributesOf (supplied : OptionSet) : Json := (supplied.get? "attributes").getD (.object [])

/-- The type of the product. -/
def typeOf (supplied : OptionSet) : Json := (supplied.get? "type").getD (.string "SVC")

variable {context : Context} {supplied merged : OptionSet} {request : Request}

/-- Merged options hold the attributes, the type and the key of the call, each with its default
where the caller does not name it. -/
theorem values_of_merge
    (h : (createProduct.defaults context supplied).merge supplied = .ok merged) :
    merged.value "attributes" = attributesOf supplied ∧ merged.value "type" = typeOf supplied ∧
      merged.value "key" = supplied.value "key" := by
  have hvalue : ∀ parameter ∈ createProduct.parameters, merged.value parameter.1 =
      (supplied.get? parameter.1).getD (parameter.2.evaluate context supplied) :=
    fun _ => value_of_merge (by decide) h
  simp only [createProduct, List.forall_mem_cons] at hvalue
  obtain ⟨-, htype, -, -, hattributes, -, -, -, hkey, -⟩ := hvalue
  exact ⟨hattributes, htype, hkey⟩

/-! ### Requirements -/

/-- Once there is a key, only the attributes can keep the request from being made. They have to be
an object. -/
theorem checkAll_createProduct (hkey : merged.value "key" ≠ .null) :
    checkAll merged createProduct.requirements =
      if (merged.value "attributes").isObject = true then .ok ()
      else .error (.missingRequiredParameter ["attributes"]) := by
  have hpresent : merged.require ["key"] = .ok () := OptionSet.require_of_ne_null hkey
  show (merged.require ["key"] >>= fun _ =>
    merged.requireThat ["attributes"] Json.isObject >>= fun _ => checkAll merged []) = _
  rw [hpresent]
  cases hobject : (merged.value "attributes").isObject with
  | true => simp [OptionSet.requireThat, OptionSet.failing, hobject, checkAll, bind, Except.bind]
  | false => simp [OptionSet.requireThat, OptionSet.failing, hobject, bind, Except.bind]

/-! ### The body -/

/-- The members of the body apart from the attributes. -/
def plainMembers (merged : OptionSet) : List (String × Json) :=
  [("name", merged.value "name"), ("multiplier", merged.value "multiplier"),
    ("dependentProductIds", merged.value "dependent_product_ids"),
    ("reliesOn", merged.value "relies_on"), ("productContent", merged.value "product_content"),
    ("id", merged.value "product_id")].filter fun member => !member.2.isNull

/-- None of the members before the attributes is named like them. -/
theorem attributes_not_mem_plainMembers : "attributes" ∉ (plainMembers merged).map Prod.fst := by
  intro hmem
  have hname := (List.filter_sublist.map Prod.fst).subset hmem
  simp at hname

/-- The attributes stand last in the body. They are a list, and so they are never dropped. The
type is one of them, in the place where the caller had one or at the end. -/
theorem body_createProduct (h : createProduct.Makes context supplied merged request)
    {m : OrderedMap Json} (hattributes : merged.value "attributes" = .ofMap m) :
    request.body = some (.object (plainMembers merged ++ [("attributes",
      .array ((m.insert "type" (merged.value "type")).entries.map fun entry =>
        .object [("name", .string entry.1), ("value", entry.2)]))])) := by
  have hfields : merged.wireFields
      ["name", "multiplier", "dependent_product_ids", "relies_on", "product_content"] =
        [("name", merged.value "name"), ("multiplier", merged.value "multiplier"),
          ("dependentProductIds", merged.value "dependent_product_ids"),
          ("reliesOn", merged.value "relies_on"),
          ("productContent", merged.value "product_content")] := h.wireFields (by decide)
  have hplan : createProduct.body = some (.compacted ([.fields _, .member _ _ _] ++ [_])) := rfl
  have hlast : (BodyPart.typedAttributes "attributes" "attributes" "type").members merged = _ := rfl
  rw [h.body_last hplan hlast]
  · simp only [List.flatMap_cons, List.flatMap_nil, BodyPart.members, hfields, hattributes]
    rfl
  · rw [hattributes]
    rfl
  · simp [BodyPart.members, hfields]

/-! ### The call -/

/-- A call whose attributes are no object fails for them and sends nothing. -/
theorem run_createProduct_of_not_object
    (hmerge : (createProduct.defaults context supplied).merge supplied = .ok merged)
    (hkey : merged.value "key" ≠ .null) (hobject : (merged.value "attributes").isObject = false)
    {σ : Type} (serve : Call.Server σ) (s : σ) :
    (createProduct.call context supplied).run serve s =
      ⟨[], .error (.missingRequiredParameter ["attributes"]), s⟩ := by
  have hrequest : createProduct.request context supplied =
      .error (.missingRequiredParameter ["attributes"]) := by
    rw [request_eq_plan hmerge, plan, checkAll_createProduct hkey, hobject]
    rfl
  rw [run_call, hrequest]

/-- A call whose attributes are an object makes a request, if the key fits into a path. -/
theorem exists_makes_createProduct
    (hmerge : (createProduct.defaults context supplied).merge supplied = .ok merged)
    (hkey : (merged.value "key").IsScalar) (hobject : (merged.value "attributes").isObject = true) :
    ∃ request, createProduct.request context supplied = .ok request ∧
      createProduct.Makes context supplied merged request := by
  refine ReadsDeclared.exists_makes (by decide +kernel) hmerge (checkAll_eq_ok_iff.mp ?_) ?_
  · rw [checkAll_createProduct hkey.ne_null, if_pos hobject]
  · simpa [createProduct, productsPath, PathPart.reads] using hkey

/-- Take any declared options with a key that fits into a path, on any client. When the
attributes are no object, the call fails with them and sends nothing. When they are the
object of a map, it sends one request, and the last member of the body is the list of
their names and values in which the type option is the value of `type`. No other member is
called so, and the names and values can be read back from the list. -/
theorem createProduct_sends (context : Context) (supplied : OptionSet)
    (hdeclared : ∀ key ∈ supplied.keys, key ∈ createProduct.declared)
    (hkey : (supplied.value "key").IsScalar) {σ : Type} (serve : Call.Server σ) (s : σ) :
    ((attributesOf supplied).isObject = false →
      (createProduct.call context supplied).run serve s =
        ⟨[], .error (.missingRequiredParameter ["attributes"]), s⟩) ∧
    ∀ m : OrderedMap Json, attributesOf supplied = .ofMap m →
      ∃ request members list entries,
        (createProduct.call context supplied).run serve s =
          ⟨[request], (serve s request).1, (serve s request).2⟩ ∧
        request.body = some (.object (members ++ [("attributes", list)])) ∧
        "attributes" ∉ members.map Prod.fst ∧
        list = .array (entries.map fun entry =>
          .object [("name", .string entry.1), ("value", entry.2)]) ∧
        m.Overrides "type" (typeOf supplied) entries ∧ list.attributes? = some entries := by
  have hentry : (Entry.single createProduct).Declared supplied := hdeclared
  obtain ⟨merged, hmerge⟩ := Entry.merge_of_declared context hentry
  obtain ⟨hattributes, htype, hmerged⟩ := values_of_merge hmerge
  -- From here on all is said of the merged options.
  rw [← hmerged] at hkey
  rw [← hattributes, ← htype]
  refine ⟨fun hobject => run_createProduct_of_not_object hmerge hkey.ne_null hobject serve s, ?_⟩
  intro m hm
  have hobject : (merged.value "attributes").isObject = true := by rw [hm]; rfl
  obtain ⟨request, hrequest, hmakes⟩ := exists_makes_createProduct hmerge hkey hobject
  refine ⟨request, plainMembers merged, _, _, by rw [run_call, hrequest],
    body_createProduct hmakes hm, attributes_not_mem_plainMembers, rfl,
    m.overrides_insert "type" _, ?_⟩
  exact Json.attributes?_nameValuePairs _

/-- Attributes that name a type in the midst of others, one of them null. The type of the
product takes its place. A list of attributes is refused. -/
theorem createProduct_sends_type_in_place :
    let context : Context := ⟨some "sticky", ⟨2026, 1, 31⟩⟩
    let attributes : OrderedMap Json :=
      .ofList [("arch", .string "x86_64"), ("type", .string "old"), ("cores", .null)]
    let supplied : OptionSet :=
      .ofList [("attributes", .ofMap attributes), ("key", .string "admin"), ("type", .string "MKT")]
    let refused : OptionSet := .ofList [("key", .ofNat 1), ("attributes", .array [.string "arch"])]
    let entries : List (String × Json) :=
      [("arch", .string "x86_64"), ("type", .string "MKT"), ("cores", .null)]
    (∀ key ∈ supplied.keys, key ∈ createProduct.declared) ∧ (supplied.value "key").IsScalar ∧
      attributesOf supplied = .ofMap attributes ∧
      attributes.Overrides "type" (.string "MKT") entries ∧
      ((createProduct.call context supplied).run replay []).sent.map Request.body =
        [some (.object [("multiplier", .ofNat 1), ("dependentProductIds", .array []),
          ("reliesOn", .array []), ("productContent", .array []),
          ("attributes", .array (entries.map fun entry =>
            .object [("name", .string entry.1), ("value", entry.2)]))])] ∧
      (∀ key ∈ refused.keys, key ∈ createProduct.declared) ∧ (refused.value "key").IsScalar ∧
      (attributesOf refused).isObject = false ∧
      (createProduct.call context refused).run replay [] =
        ⟨[], .error (.missingRequiredParameter ["attributes"]), []⟩ := by
  intro context attributes supplied refused entries
  have hdeclared : ∀ key ∈ supplied.keys, key ∈ createProduct.declared := by decide
  have hrefused : ∀ key ∈ refused.keys, key ∈ createProduct.declared := by decide
  have hobject : (attributesOf refused).isObject = false := by decide
  have hmap : attributesOf supplied = .ofMap attributes := by decide
  obtain ⟨-, hsends⟩ := createProduct_sends context supplied hdeclared trivial replay []
  obtain ⟨request, members, list, sent, -, -, -, -, hentries, -⟩ := hsends attributes hmap
  have hsent : ((createProduct.call context supplied).run replay []).sent.map Request.body =
      [some (.object [("multiplier", .ofNat 1), ("dependentProductIds", .array []),
        ("reliesOn", .array []), ("productContent", .array []),
        ("attributes", .array (entries.map fun entry =>
          .object [("name", .string entry.1), ("value", entry.2)]))])] := by decide +kernel
  have hsame : sent = entries := by
    have hset : OrderedMap.ofList sent = OrderedMap.ofList entries := hentries.map.trans (by decide)
    rw [← OrderedMap.entries_ofList hentries.nodup, hset]
    decide
  rw [hsame] at hentries
  exact ⟨hdeclared, trivial, hmap, hentries, hsent, hrefused, trivial, hobject,
    (createProduct_sends context refused hrefused trivial replay []).1 hobject⟩

end EntitlementClient.Products
