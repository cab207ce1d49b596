import EntitlementClient.Proofs.Calendar
import EntitlementClient.Proofs.Catalogue.Made
import EntitlementClient.Proofs.Operation.Call

/-!
# `EntitlementClient.Proofs.Catalogue.Bind`: what the binding of entitlements sends

The query of a binding holds five options (`BindOptions`). A binding is by product when it
has a product, and by pool when it has a pool. The quantity of a binding that is not by
product is 1 unless the caller says otherwise, and the date of one that is not by pool is
the current date.

A call looks for its defaults at the options that the caller names, null or not
(`BindOptions.named`). So a product that is named as null takes away the default quantity,
but sends no pair itself. `Consumers.bind_sends_values_iff` says what is sent, and that it
is what the values of the caller come to (`BindOptions.given`) except where the caller
names the product as null and no quantity, or the pool as null and no date.
-/

set_option autoImplicit false

namespace EntitlementClient.Consumers

open Operation

/-- The options in the query of a binding. -/
structure BindOptions where
  /-- The product whose entitlements are bound. -/
  product : Json
  /-- How many are bound. -/
  quantity : Json
  /-- Whether the server answers before it has bound them. -/
  async : Json
  /-- The date on which they have to be valid. -/
  entitleDate : Json
  /-- The pool from which they are taken. -/
  pool : Json

namespace BindOptions

/-- The options of the caller, with the default where there is none. A binding by product
has no default quantity, and a binding by pool no default date. -/
def of (today : Date) (supplied : OptionSet) (byProduct byPool : Bool) : BindOptions where
  product := supplied.value "product"
  quantity := (supplied.get? "quantity").getD (if byProduct then .null else .ofNat 1)
  async := (supplied.get? "async").getD (.bool false)
  entitleDate := (supplied.get? "entitle_date").getD (if byPool then .null else .string today.text)
  pool := supplied.value "pool"

/-- A binding is by the product and the pool that the caller names, null or not. -/
def named (today : Date) (supplied : OptionSet) : BindOptions :=
  of today supplied (supplied.contains "product") (supplied.contains "pool")

/-- A binding is by a product and a pool that are not null. -/
def given (today : Date) (supplied : OptionSet) : BindOptions :=
  of today supplied (!supplied.isNull "product") (!supplied.isNull "pool")

/-- The pairs of the query, in order. -/
def pairs (b : BindOptions) : List (String × String) :=
  b.product.pairs "product" ++ b.quantity.pairs "quantity" ++ b.async.pairs "async" ++
    b.entitleDate.pairs "entitle_date" ++ b.pool.pairs "pool"

/-! ### Options that differ -/

/-- The same pairs are sent exactly when they are the same for each option. The keys of the pairs
keep the options apart. -/
theorem pairs_eq_iff {b b' : BindOptions} :
    b.pairs = b'.pairs ↔
      b.product.pairs "product" = b'.product.pairs "product" ∧
        b.quantity.pairs "quantity" = b'.quantity.pairs "quantity" ∧
        b.async.pairs "async" = b'.async.pairs "async" ∧
        b.entitleDate.pairs "entitle_date" = b'.entitleDate.pairs "entitle_date" ∧
        b.pool.pairs "pool" = b'.pool.pairs "pool" := by
  constructor
  · intro h
    -- The keys are different, so the pairs of one option are those of its key.
    have hkey : ∀ key, (b.pairs.filter fun pair => pair.1 = key) =
        b'.pairs.filter fun pair => pair.1 = key := fun key => by rw [h]
    simp only [pairs, List.filter_append, Json.filter_pairs] at hkey
    exact ⟨by simpa using hkey "product", by simpa using hkey "quantity",
      by simpa using hkey "async", by simpa using hkey "entitle_date", by simpa using hkey "pool"⟩
  · rintro ⟨hproduct, hquantity, hasync, hdate, hpool⟩
    rw [pairs, pairs, hproduct, hquantity, hasync, hdate, hpool]

/-- A default that may be left out changes the pairs of an option unless the caller names
the option. -/
theorem pairs_getD_eq_iff {supplied : OptionSet} {option : String} {v : Json}
    (hv : v.pairs option ≠ []) {p q : Bool} :
    ((supplied.get? option).getD (if p then .null else v)).pairs option =
        ((supplied.get? option).getD (if q then .null else v)).pairs option ↔
      option ∈ supplied.keys ∨ p = q := by
  cases hget : supplied.get? option with
  | some w =>
    -- The caller's value stands in both.
    simp [OrderedMap.mem_keys_of_get? hget]
  | none =>
    have habsent : option ∉ supplied.keys := OrderedMap.get?_eq_none_iff.mp hget
    have hnull : Json.null.pairs option = [] := rfl
    simp only [Option.getD_none, habsent, false_or]
    cases p with
    | true =>
      cases q with
      | true => simp
      | false => simpa [hnull] using hv.symm
    | false =>
      cases q with
      | true => simpa [hnull] using hv
      | false => simp

/-- What a binding is by decides the defaults of the quantity and of the date. So it shows in the
pairs exactly where the caller leaves that default. -/
theorem pairs_of_eq_iff {today : Date} {supplied : OptionSet} {p q p' q' : Bool} :
    (of today supplied p q).pairs = (of today supplied p' q').pairs ↔
      ("quantity" ∈ supplied.keys ∨ p = p') ∧ ("entitle_date" ∈ supplied.keys ∨ q = q') := by
  have hquantity : (Json.ofNat 1).pairs "quantity" ≠ [] := List.cons_ne_nil _ _
  have hdate : (Json.string today.text).pairs "entitle_date" ≠ [] := List.cons_ne_nil _ _
  rw [pairs_eq_iff, ← pairs_getD_eq_iff hquantity, ← pairs_getD_eq_iff hdate]
  exact ⟨fun h => ⟨h.2.1, h.2.2.2.1⟩, fun h => ⟨rfl, h.1, rfl, h.2, rfl⟩⟩

/-- A product and a pool that are null need not be named for their values: they have the value
null without that, too. -/
theorem of_erase {today : Date} {supplied : OptionSet} {key : String}
    (hkey : key = "product" ∨ key = "pool") (hnull : supplied.get? key = some .null) (p q : Bool) :
    of today (supplied.erase key) p q = of today supplied p q := by
  have hother : ∀ other, key ≠ other → (supplied.erase key).get? other = supplied.get? other := by
    intro other hne
    rw [OrderedMap.get?_erase, if_neg hne]
  have hne : key ≠ "quantity" ∧ key ≠ "async" ∧ key ≠ "entitle_date" := by
    rcases hkey with rfl | rfl
    · decide
    · decide
  rw [of, OptionSet.value_erase_of_null hnull, OptionSet.value_erase_of_null hnull,
    hother _ hne.1, hother _ hne.2.1, hother _ hne.2.2]
  rfl

/-- To be named and to have a value is the same for an option, unless it is named as null. -/
theorem contains_eq_iff {supplied : OptionSet} {key : String} :
    supplied.contains key = !supplied.isNull key ↔ supplied.get? key ≠ some .null := by
  rw [OrderedMap.contains, OptionSet.isNull, OptionSet.value]
  cases hget : supplied.get? key with
  | none => simp [OrderedMap.get?_eq_none_iff.mp hget, Json.isNull]
  | some v =>
    have hmem := OrderedMap.mem_keys_of_get? hget
    cases v <;> simp [hmem, Json.isNull]

end BindOptions

/-- The caller names `key` as null, and leaves `option` to its default. -/
def NamesNull (supplied : OptionSet) (key option : String) : Prop :=
  supplied.get? key = some .null ∧ option ∉ supplied.keys

/-- The names and the values of the caller come to the same pairs unless a null that the
caller names takes away a default. -/
theorem BindOptions.pairs_named_eq_iff {today : Date} {supplied : OptionSet} :
    (named today supplied).pairs = (given today supplied).pairs ↔
      ¬ NamesNull supplied "product" "quantity" ∧ ¬ NamesNull supplied "pool" "entitle_date" := by
  rw [named, given, pairs_of_eq_iff, contains_eq_iff, contains_eq_iff]
  simp only [NamesNull, not_and, Decidable.not_not]
  constructor
  · rintro ⟨hproduct, hpool⟩
    exact ⟨fun h => hproduct.resolve_right (· h), fun h => hpool.resolve_right (· h)⟩
  · rintro ⟨hproduct, hpool⟩
    exact ⟨Decidable.or_iff_not_imp_right.mpr fun h => hproduct (Decidable.not_not.mp h),
      Decidable.or_iff_not_imp_right.mpr fun h => hpool (Decidable.not_not.mp h)⟩

/-! ### The call -/

variable {context : Context} {supplied merged : OptionSet}

/-- Merged options hold what the caller named, and else the defaults. The pairs of the query are
those of `BindOptions.named`, where an option counts for the defaults when it is named. -/
theorem queryPairs_of_merge (htoday : context.today.IsDay)
    (h : (bindEntitlements.defaults context supplied).merge supplied = .ok merged) :
    (["product", "quantity", "async", "entitle_date", "pool"].flatMap fun key =>
      (merged.value key).pairs key) = (BindOptions.named context.today supplied).pairs := by
  have hvalue : ∀ parameter ∈ bindEntitlements.parameters, merged.value parameter.1 =
      (supplied.get? parameter.1).getD (parameter.2.evaluate context supplied) :=
    fun _ => value_of_merge (by decide) h
  simp only [bindEntitlements, uuidParameter, List.forall_mem_cons] at hvalue
  obtain ⟨-, hproduct, hquantity, hasync, hdate, hpool, -⟩ := hvalue
  simp only [Default.evaluate, Date.daysAhead_zero htoday] at hdate
  simp only [List.flatMap_cons, List.flatMap_nil, hproduct, hquantity, hasync, hdate, hpool,
    List.append_nil, ← List.append_assoc]
  rfl

/-- The only option that a binding requires is the uuid, and one that fits into a path is there.
-/
theorem checkAll_bind {segment : String}
    (hsegment : OptionSet.segmentText? (merged.value "uuid") = some segment) :
    checkAll merged bindEntitlements.requirements = .ok () := by
  refine checkAll_eq_ok_iff.mpr fun requirement hrequirement => ?_
  obtain rfl := List.mem_singleton.mp hrequirement
  refine OptionSet.require_of_ne_null fun hnull => ?_
  rw [hnull] at hsegment
  cases hsegment

/-- The path of a call leads to the entitlements of the consumer. The merged option `uuid`
is its only slot. -/
theorem renderPath_bind {segment : String}
    (hsegment : OptionSet.segmentText? (merged.value "uuid") = some segment) :
    renderPath merged bindEntitlements.path =
      .ok ("/consumers/" ++ segment ++ "/entitlements") := by
  simp only [bindEntitlements, consumerPath, renderPath, renderParts, PathPart.render,
    OptionSet.segment_eq_ok_iff.mpr hsegment]
  show Except.ok (String.join ["/consumers/", segment, "/entitlements"]) = _
  rw [String.join_cons, String.join_cons, String.join_cons, String.append_assoc]
  rfl

/-- The query holds the pairs of the five options. -/
theorem renderQuery_bind {query : Query}
    (h : renderQuery merged .empty bindEntitlements.query = .ok query) :
    query.pairs = ["product", "quantity", "async", "entitle_date", "pool"].flatMap fun key =>
      (merged.value key).pairs key := by
  simp only [bindEntitlements, renderQuery, bind_eq_ok_iff] at h
  obtain ⟨only, honly, hquery⟩ := h
  cases hquery
  have hkeys : ["product", "quantity", "async", "entitle_date", "pool"].eraseDups =
      ["product", "quantity", "async", "entitle_date", "pool"] := by decide
  rw [QueryPart.pairs_addTo_options honly, hkeys]
  rfl

/-- A binding that a caller can make with declared options is one request, and all of it
is known. -/
theorem request_bind (htoday : context.today.IsDay)
    (hdeclared : ∀ key ∈ supplied.keys, key ∈ bindEntitlements.declared)
    (huuid : ((supplied.get? "uuid").getD (uuidValue context.uuid)).IsScalar) :
    ∃ segment,
      OptionSet.segmentText? ((supplied.get? "uuid").getD (uuidValue context.uuid)) = some segment ∧
      bindEntitlements.request context supplied =
        .ok ⟨.post, "/consumers/" ++ segment ++ "/entitlements",
          ⟨(BindOptions.named context.today supplied).pairs⟩, none, none⟩ := by
  have hentry : (Entry.single bindEntitlements).Declared supplied := hdeclared
  obtain ⟨merged, hmerge⟩ := Entry.merge_of_declared context hentry
  have huuidParameter : uuidParameter ∈ bindEntitlements.parameters := List.mem_cons_self
  have hvalue : merged.value "uuid" = (supplied.get? "uuid").getD (uuidValue context.uuid) :=
    value_of_merge (by decide) hmerge huuidParameter
  rw [← hvalue] at huuid ⊢
  obtain ⟨segment, -, hsegment, -⟩ := huuid.segment
  refine ⟨segment, hsegment, ?_⟩
  -- The uuid passes the check and fills the path, and the query reads declared options only.
  obtain ⟨query, hquery⟩ : ∃ query, renderQuery merged .empty bindEntitlements.query = .ok query :=
    ReadsDeclared.renderQuery_ok (by decide +kernel) hmerge
  have hpairs : query.pairs = (BindOptions.named context.today supplied).pairs :=
    (renderQuery_bind hquery).trans (queryPairs_of_merge htoday hmerge)
  rw [request_eq_plan hmerge, plan, checkAll_bind hsegment, renderPath_bind hsegment, hquery,
    ← hpairs]
  rfl

/-- Naming a product or a pool as null is the same as not naming it where the caller names
the option whose default hangs on it, and only there. -/
theorem call_erase_eq_iff (htoday : context.today.IsDay)
    (hdeclared : ∀ key ∈ supplied.keys, key ∈ bindEntitlements.declared)
    (huuid : ((supplied.get? "uuid").getD (uuidValue context.uuid)).IsScalar) {key option : String}
    (hkey : (key, option) ∈ [("product", "quantity"), ("pool", "entitle_date")])
    (hnull : supplied.get? key = some .null) :
    bindEntitlements.call context (supplied.erase key) = bindEntitlements.call context supplied ↔
      option ∈ supplied.keys := by
  have hcases : key = "product" ∧ option = "quantity" ∨ key = "pool" ∧ option = "entitle_date" := by
    simpa using hkey
  have hby : key = "product" ∨ key = "pool" := hcases.imp And.left And.left
  have hnamed : supplied.contains key = true :=
    OrderedMap.contains_iff.mpr (OrderedMap.mem_keys_of_get? hnull)
  have hdeclared' : ∀ other ∈ (supplied.erase key).keys, other ∈ bindEntitlements.declared := by
    intro other hmem
    rw [OrderedMap.keys_erase, List.mem_filter] at hmem
    exact hdeclared other hmem.1
  have huuid' : (supplied.erase key).get? "uuid" = supplied.get? "uuid" := by
    have hne : key ≠ "uuid" := by rcases hby with rfl | rfl <;> decide
    rw [OrderedMap.get?_erase, if_neg hne]
  obtain ⟨segment, hsegment, hrequest⟩ := request_bind htoday hdeclared huuid
  obtain ⟨segment', hsegment', hrequest'⟩ :=
    request_bind htoday hdeclared' (by rw [huuid']; exact huuid)
  obtain rfl : segment' = segment := by
    rw [huuid', hsegment] at hsegment'
    exact (Option.some.inj hsegment').symm
  -- Both calls have the same path, so all depends on the pairs.
  rw [call_eq_iff hrequest' hrequest]
  simp only [Request.mk.injEq, Query.mk.injEq, true_and, and_true, BindOptions.named,
    BindOptions.of_erase hby hnull, BindOptions.pairs_of_eq_iff, OrderedMap.contains_erase]
  rcases hcases with ⟨rfl, rfl⟩ | ⟨rfl, rfl⟩
  · simp [hnamed]
  · simp [hnamed]

/-- Take any options that a binding declares, with a uuid that fits into a path, on any
day. The call posts to the entitlements of the consumer, and the pairs of its query are
those of the five options with the defaults that the names of the caller leave. These are
the pairs that the values of the caller come to if and only if no null takes away a
default: where the caller names the product as null, it names a quantity, and where it
names the pool as null, it names a date. With the same exceptions a call that names a
product or a pool as null is the call that leaves it out. -/
theorem bind_sends_values_iff (htoday : context.today.IsDay)
    (hdeclared : ∀ key ∈ supplied.keys, key ∈ bindEntitlements.declared)
    (huuid : ((supplied.get? "uuid").getD (uuidValue context.uuid)).IsScalar)
    {σ : Type} (serve : Call.Server σ) (s : σ) :
    (∃ segment request,
      OptionSet.segmentText? ((supplied.get? "uuid").getD (uuidValue context.uuid)) = some segment ∧
      (bindEntitlements.call context supplied).run serve s =
        ⟨[request], (serve s request).1, (serve s request).2⟩ ∧
      request = ⟨.post, "/consumers/" ++ segment ++ "/entitlements",
        ⟨(BindOptions.named context.today supplied).pairs⟩, none, none⟩) ∧
    ((BindOptions.named context.today supplied).pairs =
        (BindOptions.given context.today supplied).pairs ↔
      ¬ NamesNull supplied "product" "quantity" ∧ ¬ NamesNull supplied "pool" "entitle_date") ∧
    ∀ key option, (key, option) ∈ [("product", "quantity"), ("pool", "entitle_date")] →
      supplied.get? key = some .null →
      (bindEntitlements.call context (supplied.erase key) =
        bindEntitlements.call context supplied ↔ option ∈ supplied.keys) := by
  obtain ⟨segment, hsegment, hrequest⟩ := request_bind htoday hdeclared huuid
  refine ⟨⟨segment, _, hsegment, ?_, rfl⟩, BindOptions.pairs_named_eq_iff, fun key option hkey =>
    call_erase_eq_iff htoday hdeclared huuid hkey⟩
  rw [run_call, hrequest]

/-- A caller names the pool as null and the date on which the entitlements have to be
valid, on a client that has a uuid. The null takes nothing away. -/
theorem bind_sends_values_of_client :
    let context : Context := ⟨some "c 1", ⟨2026, 1, 31⟩⟩
    let supplied : OptionSet := .ofList [("async", .array [.bool true, .null]), ("pool", .null),
      ("entitle_date", .string "2026-02-01")]
    context.today.IsDay ∧ (∀ key ∈ supplied.keys, key ∈ bindEntitlements.declared) ∧
      ((supplied.get? "uuid").getD (uuidValue context.uuid)).IsScalar ∧
      ((bindEntitlements.call context supplied).run replay []).sent =
        [⟨.post, "/consumers/c%201/entitlements",
          ⟨[("quantity", "1"), ("async", "true"), ("entitle_date", "2026-02-01")]⟩, none, none⟩] ∧
      (BindOptions.named context.today supplied).pairs =
        (BindOptions.given context.today supplied).pairs ∧
      bindEntitlements.call context (supplied.erase "pool") =
        bindEntitlements.call context supplied := by
  intro context supplied
  have htoday : context.today.IsDay :=
    ⟨by decide, by decide, by decide, by decide, 31, by decide, by decide⟩
  have hdeclared : ∀ key ∈ supplied.keys, key ∈ bindEntitlements.declared := by decide
  have huuid : ((supplied.get? "uuid").getD (uuidValue context.uuid)).IsScalar := trivial
  obtain ⟨-, hpairs, hnull⟩ := bind_sends_values_iff htoday hdeclared huuid replay []
  refine ⟨htoday, hdeclared, huuid, by decide +kernel, hpairs.mpr ?_, ?_⟩
  · exact ⟨fun h => absurd h.1 (by decide), fun h => h.2 (by decide)⟩
  · exact (hnull "pool" "entitle_date" (by decide) (by decide)).mpr (by decide)

/-- A caller names the product as null. The query has no quantity, although the binding is
not by product. -/
theorem bind_null_product_without_quantity :
    let context : Context := ⟨some "c1", ⟨2026, 1, 31⟩⟩
    let supplied : OptionSet :=
      .ofList [("product", .null), ("entitle_date", .string "2024-01-01")]
    (∀ key ∈ supplied.keys, key ∈ bindEntitlements.declared) ∧
      ((bindEntitlements.call context supplied).run replay []).sent =
        [⟨.post, "/consumers/c1/entitlements",
          ⟨[("async", "false"), ("entitle_date", "2024-01-01")]⟩, none, none⟩] ∧
      (BindOptions.given context.today supplied).pairs =
        [("quantity", "1"), ("async", "false"), ("entitle_date", "2024-01-01")] ∧
      bindEntitlements.call context (supplied.erase "product") ≠
        bindEntitlements.call context supplied := by
  intro context supplied
  refine ⟨by decide, by decide +kernel, by decide +kernel, ?_⟩
  have hrun : ((bindEntitlements.call context (supplied.erase "product")).run replay []).sent ≠
      ((bindEntitlements.call context supplied).run replay []).sent := by decide +kernel
  exact fun heq => hrun (by rw [heq])

end EntitlementClient.Consumers
