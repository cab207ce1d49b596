import Mathlib.Data.List.Nodup
import EntitlementClient.Proofs.Catalogue.Attributes
import EntitlementClient.Proofs.Catalogue.Register
import EntitlementClient.Proofs.Operation.Apart

/-!
# `EntitlementClient.Proofs.Catalogue.References`: records, ids and references in one list

A caller names the products of a consumer or of a subscription by their records, by their
ids, or by references that were made before. `Json.idReferences` makes references of all
of them, and it makes the same references exactly when the elements have the same ids
(`Json.idReferences_eq_iff`). References have the ids to which they refer, so that they
stay as they are.

An operation that only sets members of its body to the references of an option does not
tell such values apart (`Operation.TakesReferences.call_congr`). `references_in_any_form`
is this for a registration and for a subscription, with the member that each of them
sends. Whether the server knows the products is not decided here.
-/

set_option autoImplicit false

namespace EntitlementClient

open Consumers.RegisterOptions (ownId idReferences_eq)

/-! ### References -/

namespace Json

/-- The references of a value, as a list, are those of its elements: one object for each, with the
id as its only member. -/
theorem asList_idReferences (v : Json) :
    v.idReferences.asList = v.asList.map fun item => .object [("id", ownId item)] := by
  rw [idReferences_eq]
  rfl

/-- A reference has the id to which it refers. So references of references are the references
again. -/
theorem ownIds_idReferences (v : Json) : v.idReferences.asList.map ownId = v.asList.map ownId := by
  rw [asList_idReferences, List.map_map]
  rfl

/-- Values have the same references exactly when their elements have the same ids, in the same
order. In which form each element is does not show. -/
theorem idReferences_eq_iff {v w : Json} :
    w.idReferences = v.idReferences ↔ w.asList.map ownId = v.asList.map ownId := by
  constructor
  · intro h
    rw [← ownIds_idReferences, h, ownIds_idReferences]
  · intro h
    have hmap : ∀ x : Json,
        x.idReferences = .array ((x.asList.map ownId).map fun id => .object [("id", id)]) := by
      intro x
      rw [idReferences_eq, List.map_map]
      rfl
    rw [hmap, hmap, h]

end Json

/-! ### Parts of a body -/

/-- The part sets a member to the references of the option. -/
def BodyPart.setsReferences (key : String) : BodyPart → Bool
  | .member _ other .idReferences | .memberIfAny _ other .idReferences => other = key
  | _ => false

/-- A part that sets references sees nothing else of its option, so it makes the same of values
with the same references. -/
theorem BodyPart.members_of_setsReferences {part : BodyPart} {key : String}
    {options options' : OptionSet} (h : part.setsReferences key = true)
    (hrefs : (options.value key).idReferences = (options'.value key).idReferences) :
    part.members options = part.members options' := by
  -- Whether there is an element at all can be seen from the references too.
  have hempty : ∀ v : Json, v.asList.isEmpty = v.idReferences.asList.isEmpty := by
    intro v
    rw [Json.asList_idReferences, List.isEmpty_map]
  unfold setsReferences at h
  split at h
  · rw [of_decide_eq_true h, members, members, Shape.apply, Shape.apply, hrefs]
  · rw [of_decide_eq_true h, members, members, Shape.apply, Shape.apply, hempty, hrefs, ← hempty]
  · cases h

namespace Operation

/-- The operation takes an option as references: it sets members of a body to them, and
does not read the option anywhere else. -/
structure TakesReferences (op : Operation) (key : String) : Prop where
  requirements : ∀ requirement ∈ op.requirements, requirement.reads ≠ [] ∧ key ∉ requirement.reads
  path : ∀ part ∈ op.path, key ∉ part.reads
  query : ∀ part ∈ op.query, key ∉ part.reads
  body : ∃ parts, op.body = some (.compacted parts) ∧
    ∀ part ∈ parts, part.setsReferences key = true ∨ (part ≠ .allFields ∧ key ∉ part.reads)

/-- Values with the same references are the same to a call. The option is read where references
are set, and nowhere else. -/
theorem TakesReferences.call_congr {op : Operation} {key : String} (h : op.TakesReferences key)
    (context : Context) (supplied : OptionSet) {v w : Json}
    (hrefs : w.idReferences = v.idReferences) :
    op.call context (supplied.insert key w) = op.call context (supplied.insert key v) := by
  refine call_insert_congr fun {options options'} happart hw hv => ?_
  refine plan_congr happart h.requirements h.path
    (fun part hpart => QueryPart.addTo_congr happart (h.query part hpart)) fun body hbody => ?_
  obtain ⟨parts, hplan, hparts⟩ := h.body
  rw [hplan] at hbody
  cases hbody
  -- A part either makes references of the option or has no use for it.
  rw [BodyPlan.render, BodyPlan.render, assemble_congr fun part hpart => ?_]
  rcases hparts part hpart with hsets | ⟨hall, hkey⟩
  · exact BodyPart.members_of_setsReferences hsets (by rw [hw, hv, hrefs])
  · exact BodyPart.members_congr happart hall hkey

end Operation

variable {context : Context} {supplied merged : OptionSet} {request : Request} {v : Json}

/-! ### The registration of a consumer -/

namespace Consumers

/-- Registration takes the installed products as references. -/
theorem takesReferences_register : register.TakesReferences "installed_products" where
  requirements := by decide
  path := by decide
  query := by decide
  body := ⟨registerParts, rfl, by decide⟩

/-- A registration without an environment, or in one that fits into a path, makes a request. -/
theorem exists_makes_register
    (hmerge : (register.defaults context supplied).merge supplied = .ok merged)
    (henvironment : merged.value "environment" = .null ∨ (merged.value "environment").IsScalar) :
    ∃ request, register.request context supplied = .ok request ∧
      register.Makes context supplied merged request := by
  have hpath : ∃ path, renderPath merged register.path = .ok path := by
    rcases henvironment with hnull | hscalar
    · exact ⟨_, renderPath_register_of_null hnull⟩
    · obtain ⟨segment, -, hsegment, -⟩ := hscalar.segment
      exact ⟨_, renderPath_register_of_segment hsegment⟩
  have hreads : register.ReadsDeclared := by decide +kernel
  obtain ⟨request, hrequest⟩ := hreads.request_ok_iff.mpr
    ⟨merged, hmerge, List.forall_mem_nil _, renderPath_ok_iff.mp hpath⟩
  exact ⟨request, hrequest, hmerge, (Operation.request_eq_plan hmerge).symm.trans hrequest⟩

/-- The installed products are one member of the body, also when there are none, for an empty list
is not null. -/
theorem body_references_register (h : register.Makes context supplied merged request) :
    ∃ members, request.body = some (.object members) ∧ (members.map Prod.fst).Nodup ∧
      ∀ value, ("installedProducts", value) ∈ members ↔
        value = (merged.value "installed_products").idReferences := by
  have hbody := body_register h
  have hplan : register.body = some (.compacted registerParts) := rfl
  have hentries := h.body_compacted hplan
  rw [hbody, Option.some.injEq, Json.object.injEq] at hentries
  have hnodup : (((RegisterOptions.read merged).members).map Prod.fst).Nodup := by
    rw [hentries]
    exact OrderedMap.nodup _
  have hmem : ("installedProducts", (merged.value "installed_products").idReferences) ∈
      (RegisterOptions.read merged).members := by
    rw [idReferences_eq]
    exact List.mem_append_right _ (List.mem_singleton.mpr rfl)
  refine ⟨_, hbody, hnodup, fun value => ⟨fun hvalue => ?_, fun hvalue => hvalue ▸ hmem⟩⟩
  exact congrArg Prod.snd (List.inj_on_of_nodup_map hnodup hvalue hmem rfl)

end Consumers

/-! ### The creation of a subscription -/

namespace Owners

/-- The lists of products that a subscription can have: the member of the body and the option. -/
def productLists : List (String × String) :=
  [("providedProducts", "provided_products"), ("derivedProducts", "derived_products"),
    ("derivedProvidedProducts", "derived_provided_products")]

/-- The parts of the body of a subscription. -/
def subscriptionParts : List BodyPart :=
  [.fields ["start_date", "end_date", "quantity", "account_number", "order_number",
      "contract_number"],
    .member "product" "product_id" (.memberOf "id")] ++
    productLists.map fun list => .memberIfAny list.1 list.2 .idReferences

/-- A new subscription takes each of its lists of products as references. The lists differ
in their option and in their member only. -/
theorem takesReferences_createSubscription {list : String × String} (hlist : list ∈ productLists) :
    createSubscription.TakesReferences list.2 where
  requirements := List.forall_mem_nil _
  path := by revert list; decide
  query := List.forall_mem_nil _
  body := ⟨subscriptionParts, rfl, by revert list; decide⟩

/-- The members of a subscription that are not lists of products, before those that are
null are dropped. -/
def plainMembers (merged : OptionSet) : List (String × Json) :=
  [("startDate", merged.value "start_date"), ("endDate", merged.value "end_date"),
    ("quantity", merged.value "quantity"), ("accountNumber", merged.value "account_number"),
    ("orderNumber", merged.value "order_number"),
    ("contractNumber", merged.value "contract_number"),
    ("product", .object [("id", merged.value "product_id")])]

/-- The members for those lists of products that have an element. -/
def listMembers (merged : OptionSet) : List (String × Json) :=
  (productLists.filter fun list => !(merged.value list.2).asList.isEmpty).map fun list =>
    (list.1, (merged.value list.2).idReferences)

/-- The members that the parts set. -/
theorem flatMap_members_createSubscription
    (h : createSubscription.Makes context supplied merged request) :
    subscriptionParts.flatMap (BodyPart.members merged) =
      plainMembers merged ++ listMembers merged := by
  have hfields : merged.wireFields ["start_date", "end_date", "quantity", "account_number",
      "order_number", "contract_number"] = (plainMembers merged).dropLast := h.wireFields (by decide)
  have hlists : (productLists.map fun list =>
      BodyPart.memberIfAny list.1 list.2 .idReferences).flatMap (BodyPart.members merged) =
        listMembers merged := by
    rw [listMembers]
    induction productLists with
    | nil => rfl
    | cons list rest ih =>
      rw [List.map_cons, List.flatMap_cons, ih, BodyPart.members]
      cases hempty : (merged.value list.2).asList.isEmpty with
      | true => simp [hempty]
      | false => simp [hempty, Shape.apply]
  rw [subscriptionParts, List.flatMap_append, hlists, List.flatMap_cons, BodyPart.members, hfields]
  rfl

/-- Each list of products is one member of the body, unless it has no element. In that case the
body has no member of that name. -/
theorem body_createSubscription (h : createSubscription.Makes context supplied merged request) :
    ∃ members, request.body = some (.object members) ∧ (members.map Prod.fst).Nodup ∧
      ∀ list ∈ productLists, ∀ value, (list.1, value) ∈ members ↔
        value = (merged.value list.2).idReferences ∧ (merged.value list.2).asList ≠ [] := by
  have hmembers := flatMap_members_createSubscription h
  have hnames : ((plainMembers merged ++ listMembers merged).map Prod.fst).Sublist
      ((plainMembers merged).map Prod.fst ++ productLists.map Prod.fst) := by
    rw [List.map_append, listMembers, List.map_map]
    exact (List.Sublist.refl _).append (List.filter_sublist.map Prod.fst)
  -- No two members that can be set have one name, so each that is set stays in the body.
  have hnodup : ((plainMembers merged).map Prod.fst ++ productLists.map Prod.fst).Nodup := by
    simp [plainMembers, productLists]
  obtain ⟨-, hlists, hdisjoint⟩ := List.nodup_append.mp hnodup
  have hplan : createSubscription.body = some (.compacted subscriptionParts) := rfl
  refine ⟨_, h.body_compacted hplan, OrderedMap.nodup _, fun list hlist value => ?_⟩
  have hplain : (list.1, value) ∉ plainMembers merged := fun hmem =>
    hdisjoint _ (List.mem_map.mpr ⟨_, hmem, rfl⟩) _ (List.mem_map.mpr ⟨list, hlist, rfl⟩) rfl
  rw [Body.mem_compact, entries_assemble (hmembers ▸ hnodup.sublist hnames), hmembers,
    List.mem_append, or_iff_right hplain]
  constructor
  · rintro ⟨hmem, -⟩
    obtain ⟨other, hother, heq⟩ := List.mem_map.mp hmem
    obtain ⟨hother, hsome⟩ := List.mem_filter.mp hother
    obtain ⟨hname, rfl⟩ := Prod.mk.injEq .. ▸ heq
    obtain rfl := List.inj_on_of_nodup_map hlists hother hlist hname
    exact ⟨rfl, by simpa using hsome⟩
  · rintro ⟨rfl, hsome⟩
    refine ⟨List.mem_map.mpr ⟨list, List.mem_filter.mpr ⟨hlist, by simpa using hsome⟩, rfl⟩, ?_⟩
    intro hnull
    cases hnull

/-- A subscription is created with the options of the caller, if the key of its owner fits into a
path. -/
theorem exists_makes_createSubscription
    (hmerge : (createSubscription.defaults context supplied).merge supplied = .ok merged)
    (hkey : (merged.value "key").IsScalar) :
    ∃ request, createSubscription.request context supplied = .ok request ∧
      createSubscription.Makes context supplied merged request :=
  Operation.ReadsDeclared.exists_makes (by decide +kernel) hmerge (List.forall_mem_nil _)
    (by simpa [createSubscription, ownerPath, PathPart.reads] using hkey)

end Owners

/-! ### What is sent -/

/-- A consumer is registered with the references of its installed products. They are the only
member of their name. -/
theorem request_register_references (context : Context)
    (hdeclared : ∀ key ∈ (supplied.insert "installed_products" v).keys,
      key ∈ Consumers.register.declared)
    (henvironment : supplied.value "environment" = .null ∨
      (supplied.value "environment").IsScalar) :
    ∃ request members,
      Consumers.register.request context (supplied.insert "installed_products" v) = .ok request ∧
      request.body = some (.object members) ∧ (members.map Prod.fst).Nodup ∧
      ∀ value, ("installedProducts", value) ∈ members ↔ value = v.idReferences := by
  have hentry : (Entry.single Consumers.register).Declared
    (supplied.insert "installed_products" v) := hdeclared
  obtain ⟨merged, hmerge⟩ := Entry.merge_of_declared context hentry
  -- The environment is an option of its own, and the products do not decide it.
  rw [← value_of_merge_other (by decide) hmerge (by decide)] at henvironment
  obtain ⟨request, hrequest, hmakes⟩ := Consumers.exists_makes_register hmerge henvironment
  obtain ⟨members, hbody, hnodup, hmembers⟩ := Consumers.body_references_register hmakes
  rw [Operation.value_of_merge_insert hmerge] at hmembers
  exact ⟨request, members, hrequest, hbody, hnodup, hmembers⟩

/-- A subscription is created with the references of a list of products, if it has an element.
They are the only member of their name. -/
theorem request_createSubscription_references (context : Context) {list : String × String}
    (hlist : list ∈ Owners.productLists)
    (hdeclared : ∀ key ∈ (supplied.insert list.2 v).keys, key ∈ Owners.createSubscription.declared)
    (hkey : (supplied.value "key").IsScalar) :
    ∃ request members,
      Owners.createSubscription.request context (supplied.insert list.2 v) = .ok request ∧
      request.body = some (.object members) ∧ (members.map Prod.fst).Nodup ∧
      ∀ value, (list.1, value) ∈ members ↔ value = v.idReferences ∧ v.asList ≠ [] := by
  have hentry : (Entry.single Owners.createSubscription).Declared (supplied.insert list.2 v) :=
    hdeclared
  obtain ⟨merged, hmerge⟩ := Entry.merge_of_declared context hentry
  have hother : ∀ list ∈ Owners.productLists,
      "key" ≠ list.2 ∧ ("key", .absent) ∈ Owners.createSubscription.parameters := by decide
  rw [← value_of_merge_other (by decide) hmerge (hother list hlist)] at hkey
  obtain ⟨request, hrequest, hmakes⟩ := Owners.exists_makes_createSubscription hmerge hkey
  obtain ⟨members, hbody, hnodup, hmembers⟩ := Owners.body_createSubscription hmakes
  have hvalue := hmembers list hlist
  rw [Operation.value_of_merge_insert hmerge] at hvalue
  exact ⟨request, members, hrequest, hbody, hnodup, hvalue⟩

/-- Take any value, any options and any client. The references of the value are one object
for each element of it as a list, in order, and its only member is the id of the element.
The references of these are the same again. A value whose elements have the same ids, in
whichever form each of them is, is the same to a registration, and to the creation of a
subscription as any of the lists of products. The references themselves are such a value.
When the options are declared and those in the path fit into it, each call sends one
request, and the references are the member of its body. Only an empty list of products is
not sent with a subscription. -/
theorem references_in_any_form (context : Context) (supplied : OptionSet) (v : Json) {σ : Type}
    (serve : Call.Server σ) (s : σ) :
    v.idReferences = .array (v.asList.map fun item => .object [("id", ownId item)]) ∧
    v.idReferences.idReferences = v.idReferences ∧
    v.idReferences.asList.map ownId = v.asList.map ownId ∧
    (∀ w : Json, w.asList.map ownId = v.asList.map ownId →
      w.idReferences = v.idReferences ∧
      Consumers.register.call context (supplied.insert "installed_products" w) =
        Consumers.register.call context (supplied.insert "installed_products" v) ∧
      ∀ list ∈ Owners.productLists,
        Owners.createSubscription.call context (supplied.insert list.2 w) =
          Owners.createSubscription.call context (supplied.insert list.2 v)) ∧
    ((∀ key ∈ (supplied.insert "installed_products" v).keys, key ∈ Consumers.register.declared) →
      (supplied.value "environment" = .null ∨ (supplied.value "environment").IsScalar) →
      ∃ request members,
        (Consumers.register.call context (supplied.insert "installed_products" v)).run serve s =
          ⟨[request], (serve s request).1, (serve s request).2⟩ ∧
        request.body = some (.object members) ∧ (members.map Prod.fst).Nodup ∧
        ∀ value, ("installedProducts", value) ∈ members ↔ value = v.idReferences) ∧
    ∀ list ∈ Owners.productLists,
      (∀ key ∈ (supplied.insert list.2 v).keys, key ∈ Owners.createSubscription.declared) →
      (supplied.value "key").IsScalar →
      ∃ request members,
        (Owners.createSubscription.call context (supplied.insert list.2 v)).run serve s =
          ⟨[request], (serve s request).1, (serve s request).2⟩ ∧
        request.body = some (.object members) ∧ (members.map Prod.fst).Nodup ∧
        ∀ value, (list.1, value) ∈ members ↔ value = v.idReferences ∧ v.asList ≠ [] := by
  -- The references of a value have the same ids, so they are one of the other forms.
  have hids := Json.ownIds_idReferences v
  refine ⟨idReferences_eq v, Json.idReferences_eq_iff.mpr hids, hids, fun w hw => ?_,
    fun hdeclared henvironment => ?_, fun list hlist hdeclared hkey => ?_⟩
  · have hrefs := Json.idReferences_eq_iff.mpr hw
    exact ⟨hrefs, Consumers.takesReferences_register.call_congr context supplied hrefs,
      fun list hlist =>
        (Owners.takesReferences_createSubscription hlist).call_congr context supplied hrefs⟩
  · obtain ⟨request, members, hrequest, hbody⟩ :=
      request_register_references context hdeclared henvironment
    exact ⟨request, members, by rw [Operation.run_call, hrequest], hbody⟩
  · obtain ⟨request, members, hrequest, hbody⟩ :=
      request_createSubscription_references context hlist hdeclared hkey
    exact ⟨request, members, by rw [Operation.run_call, hrequest], hbody⟩

/-- A record, a bare id, a reference, a null, a record without an id and a list in one
list. It is sent as six references, also when these are sent again. An empty list of
products is not sent. -/
theorem references_in_any_form_mixed :
    let context : Context := ⟨none, ⟨2026, 1, 31⟩⟩
    let mixed : Json := .array [.object [("name", .string "Two"), ("id", .string "p2")],
      .string "p1", .object [("id", .ofNat 7)], .null, .object [("name", .string "None")],
      .array [.string "p3"]]
    let references : Json := .array [.object [("id", .string "p2")], .object [("id", .string "p1")],
      .object [("id", .ofNat 7)], .object [("id", .null)], .object [("id", .null)],
      .object [("id", .array [.string "p3"])]]
    let consumer : OptionSet := .ofList [("name", .string "box"), ("facts", .null)]
    let subscription : OptionSet := .ofList [("key", .string "admin"), ("quantity", .ofNat 10)]
    mixed.idReferences = references ∧ references.idReferences = references ∧
      references.asList.map ownId = mixed.asList.map ownId ∧
      (∀ key ∈ (consumer.insert "installed_products" mixed).keys,
        key ∈ Consumers.register.declared) ∧
      (consumer.value "environment" = .null ∨ (consumer.value "environment").IsScalar) ∧
      (∃ request members,
        ((Consumers.register.call context (consumer.insert "installed_products" references)).run
          replay []).sent = [request] ∧
        request.body = some (.object members) ∧ ("installedProducts", references) ∈ members) ∧
      ("providedProducts", "provided_products") ∈ Owners.productLists ∧
      (∀ key ∈ (subscription.insert "provided_products" mixed).keys,
        key ∈ Owners.createSubscription.declared) ∧
      (subscription.value "key").IsScalar ∧
      (∃ request members,
        ((Owners.createSubscription.call context
          (subscription.insert "provided_products" references)).run replay []).sent = [request] ∧
        request.body = some (.object members) ∧ ("providedProducts", references) ∈ members) ∧
      ∃ request members,
        ((Owners.createSubscription.call context
          (subscription.insert "provided_products" (.array []))).run replay []).sent = [request] ∧
        request.body = some (.object members) ∧
        ∀ value, ("providedProducts", value) ∉ members := by
  intro context mixed references consumer subscription
  have hids : references.asList.map ownId = mixed.asList.map ownId := rfl
  have hlist : ("providedProducts", "provided_products") ∈ Owners.productLists := by decide
  have hconsumer : ∀ key ∈ (consumer.insert "installed_products" mixed).keys,
      key ∈ Consumers.register.declared := by decide
  have hsubscription : ∀ v : Json, ∀ key ∈ (subscription.insert "provided_products" v).keys,
      key ∈ Owners.createSubscription.declared := fun _ =>
    show ∀ key ∈ ["key", "quantity", "provided_products"], key ∈ Owners.createSubscription.declared
      by decide
  have henvironment : consumer.value "environment" = .null ∨
      (consumer.value "environment").IsScalar := .inl rfl
  have hkey : (subscription.value "key").IsScalar := trivial
  refine ⟨rfl, rfl, hids, hconsumer, henvironment, ?_, hlist, hsubscription mixed, hkey, ?_, ?_⟩
  · obtain ⟨-, -, -, hsame, hregister, -⟩ := references_in_any_form context consumer mixed replay []
    obtain ⟨request, members, hrun, hbody, -, hmembers⟩ := hregister hconsumer henvironment
    rw [(hsame references hids).2.1, hrun]
    exact ⟨request, members, rfl, hbody, (hmembers references).mpr rfl⟩
  · obtain ⟨-, -, -, hsame, -, hcreate⟩ :=
      references_in_any_form context subscription mixed replay []
    obtain ⟨request, members, hrun, hbody, -, hmembers⟩ :=
      hcreate _ hlist (hsubscription mixed) hkey
    rw [(hsame references hids).2.2 _ hlist, hrun]
    exact ⟨request, members, rfl, hbody, (hmembers references).mpr ⟨rfl, List.cons_ne_nil _ _⟩⟩
  · obtain ⟨-, -, -, -, -, hcreate⟩ :=
      references_in_any_form context subscription (.array []) replay []
    obtain ⟨request, members, hrun, hbody, -, hmembers⟩ := hcreate _ hlist (hsubscription _) hkey
    rw [hrun]
    exact ⟨request, members, rfl, hbody, fun value hvalue => ((hmembers value).mp hvalue).2 rfl⟩

end EntitlementClient
