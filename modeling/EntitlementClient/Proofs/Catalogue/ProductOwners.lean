import EntitlementClient.Proofs.Catalogue.Made
import EntitlementClient.Proofs.Operation.Call

/-!
# `EntitlementClient.Proofs.Catalogue.ProductOwners`: asking for the owners of products

The owners that hold any of some products are asked for by the ids of the products, read
as a list (`Products.productIds`). The call is refused when the list has no element. The
query has a pair for each id that is not null.

So the check and the query do not look at the same: a list of nothing but nulls has
elements, and no pairs. `Products.getOwnersWithProduct_sends` says exactly what becomes of
every list, and `Products.getOwnersWithProduct_without_ids` shows such a request. It asks
for the owners of no product in particular.
-/

set_option autoImplicit false

namespace EntitlementClient

/-- The pairs of a value are those of its elements that are not null. A value that is no list
counts as the list of itself, and null as the empty list. -/
theorem Json.pairs_eq_asList (key : String) (v : Json) :
    v.pairs key =
      (v.asList.filter fun item => !item.isNull).map fun item => (key, item.sentText) := by
  cases v <;> rfl

namespace Products

/-- The ids that a caller gives, as a list. -/
def productIds (supplied : OptionSet) : List Json := (supplied.value "product_ids").asList

/-- The pairs as which ids are sent. -/
def idPairs (ids : List Json) : List (String × String) :=
  (ids.filter fun id => !id.isNull).map fun id => ("product", id.sentText)

/-- Some pair is sent exactly when some id is not null. -/
theorem idPairs_ne_nil_iff {ids : List Json} : idPairs ids ≠ [] ↔ ∃ id ∈ ids, id ≠ .null := by
  rw [idPairs, ne_eq, List.map_eq_nil_iff, List.filter_eq_nil_iff]
  simp [← Json.isNull_iff]

variable {context : Context} {supplied merged : OptionSet}

/-- Merged options have the ids of the caller. Where the caller names none, the default is null
and has no elements. -/
theorem productIds_of_merge
    (h : (getOwnersWithProduct.defaults context supplied).merge supplied = .ok merged) :
    productIds merged = productIds supplied := by
  have hvalue : merged.value "product_ids" =
      (supplied.get? "product_ids").getD (Default.emptyList.evaluate context supplied) :=
    Operation.value_of_merge (by decide) h List.mem_cons_self
  rw [productIds, productIds, hvalue, OptionSet.value]
  cases supplied.get? "product_ids" with
  | none => rfl
  | some v => rfl

/-- The check counts the ids, null or not. So it lets a list pass that holds nothing but null. -/
theorem checkAll_getOwnersWithProduct :
    Operation.checkAll merged getOwnersWithProduct.requirements =
      if productIds merged = [] then .error (.missingRequiredParameter ["product_ids"])
      else .ok () := by
  show (merged.requireThat ["product_ids"] (fun v => !v.asList.isEmpty) >>= fun _ => .ok ()) = _
  unfold productIds
  cases hids : (merged.value "product_ids").asList with
  | nil => simp [OptionSet.requireThat, OptionSet.failing, hids, bind, Except.bind]
  | cons id rest => simp [OptionSet.requireThat, OptionSet.failing, hids, bind, Except.bind]

/-- The call is refused when the list of ids is empty. In all other cases there is a
request, and its query has one pair for each id that is not null. Ids that are all null
are thus no reason to refuse. -/
theorem request_getOwnersWithProduct (context : Context)
    (hdeclared : ∀ key ∈ supplied.keys, key ∈ getOwnersWithProduct.declared) :
    getOwnersWithProduct.request context supplied =
      if productIds supplied = [] then .error (.missingRequiredParameter ["product_ids"])
      else .ok ⟨.get, "/products/owners", ⟨idPairs (productIds supplied)⟩, none, none⟩ := by
  have hentry : (Entry.single getOwnersWithProduct).Declared supplied := hdeclared
  obtain ⟨merged, hmerge⟩ := Entry.merge_of_declared context hentry
  -- The query is made of the value as it is, which has the pairs of the list.
  have hpairs : (Query.empty.pushValue "product" (merged.value "product_ids")).pairs =
      idPairs (productIds merged) := by
    rw [Query.pairs_pushValue, Json.pairs_eq_asList]
    rfl
  rw [Operation.request_eq_plan hmerge, Operation.plan, checkAll_getOwnersWithProduct,
    ← productIds_of_merge hmerge, ← hpairs]
  split
  · rfl
  · rfl

/-- Take any options of a call for the owners of products, on any client. When some are
not declared, or the ids have no element as a list, the call fails with them and sends
nothing. Otherwise it sends one request, and its query has one pair for each id that is
not null, in order. So it has pairs exactly when some id is not null. -/
theorem getOwnersWithProduct_sends (context : Context) (supplied : OptionSet) {σ : Type}
    (serve : Call.Server σ) (s : σ) :
    (getOwnersWithProduct.undeclared supplied ≠ [] →
      (getOwnersWithProduct.call context supplied).run serve s =
        ⟨[], .error (.unknownParameter (getOwnersWithProduct.undeclared supplied)), s⟩) ∧
    (getOwnersWithProduct.undeclared supplied = [] → productIds supplied = [] →
      (getOwnersWithProduct.call context supplied).run serve s =
        ⟨[], .error (.missingRequiredParameter ["product_ids"]), s⟩) ∧
    (getOwnersWithProduct.undeclared supplied = [] → productIds supplied ≠ [] →
      ∃ request,
        (getOwnersWithProduct.call context supplied).run serve s =
          ⟨[request], (serve s request).1, (serve s request).2⟩ ∧
        request = ⟨.get, "/products/owners", ⟨idPairs (productIds supplied)⟩, none, none⟩ ∧
        (request.query.pairs ≠ [] ↔ ∃ id ∈ productIds supplied, id ≠ .null)) := by
  have hdeclared : getOwnersWithProduct.undeclared supplied = [] →
      ∀ key ∈ supplied.keys, key ∈ getOwnersWithProduct.declared := by
    intro hnone key hkey
    simpa using List.filter_eq_nil_iff.mp hnone key hkey
  -- The options are judged before the ids, and the ids before anything is sent.
  refine ⟨fun hsome => ?_, fun hnone hempty => ?_, fun hnone hids => ?_⟩
  · rw [Operation.run_call, Operation.request_of_undeclared hsome]
  · rw [Operation.run_call, request_getOwnersWithProduct context (hdeclared hnone), if_pos hempty]
  · refine ⟨_, ?_, rfl, idPairs_ne_nil_iff⟩
    rw [Operation.run_call, request_getOwnersWithProduct context (hdeclared hnone), if_neg hids]

/-- Two ids with a null between. -/
theorem getOwnersWithProduct_sends_two_ids :
    let context : Context := ⟨none, ⟨2026, 1, 31⟩⟩
    let supplied : OptionSet :=
      .ofList [("product_ids", .array [.string "p 1", .null, .ofNat 37060])]
    let empty : OptionSet := .ofList [("product_ids", .null)]
    let misspelt : OptionSet := .ofList [("product_id", .string "p1")]
    getOwnersWithProduct.undeclared supplied = [] ∧ productIds supplied ≠ [] ∧
      ((getOwnersWithProduct.call context supplied).run replay []).sent =
        [⟨.get, "/products/owners", ⟨[("product", "p 1"), ("product", "37060")]⟩, none, none⟩] ∧
      getOwnersWithProduct.undeclared empty = [] ∧ productIds empty = [] ∧
      (getOwnersWithProduct.call context empty).run replay [] =
        ⟨[], .error (.missingRequiredParameter ["product_ids"]), []⟩ ∧
      (getOwnersWithProduct.call context misspelt).run replay [] =
        ⟨[], .error (.unknownParameter ["product_id"]), []⟩ := by
  intro context supplied empty misspelt
  obtain ⟨-, -, hsends⟩ := getOwnersWithProduct_sends context supplied replay []
  have hdeclared : getOwnersWithProduct.undeclared supplied = [] := by decide
  have hids : productIds supplied ≠ [] := by decide
  have hdeclared' : getOwnersWithProduct.undeclared empty = [] := by decide
  have hnone : productIds empty = [] := by decide
  obtain ⟨request, hrun, hrequest, -⟩ := hsends hdeclared hids
  refine ⟨hdeclared, hids, ?_, hdeclared', hnone,
    (getOwnersWithProduct_sends context empty replay []).2.1 hdeclared' hnone,
    (getOwnersWithProduct_sends context misspelt replay []).1 (by decide)⟩
  rw [hrun, hrequest]
  decide +kernel

/-- A list that holds only null is not refused. The request has no pairs, so nothing in it
says which products are meant. -/
theorem getOwnersWithProduct_without_ids :
    let context : Context := ⟨none, ⟨2026, 1, 31⟩⟩
    let supplied : OptionSet := .ofList [("product_ids", .array [.null])]
    getOwnersWithProduct.undeclared supplied = [] ∧ productIds supplied ≠ [] ∧
      ((getOwnersWithProduct.call context supplied).run replay []).sent =
        [⟨.get, "/products/owners", ⟨[]⟩, none, none⟩] := by
  intro context supplied
  exact ⟨by decide, by decide, by decide +kernel⟩

end Products

end EntitlementClient
