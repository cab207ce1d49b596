import EntitlementClient.Proofs.Catalogue.Entry
import EntitlementClient.Proofs.Catalogue.OneRequest
import EntitlementClient.Proofs.Operation.Call
import EntitlementClient.Proofs.Operation.Missing

/-!
# `EntitlementClient.Proofs.Catalogue.Required`: are missing options reported together?

`Entry.required` is the documentation of the catalogue as far as it says which options are
required. A call that fails because required options are missing should name all of those
that are null. `Entry.missing_reported_together_iff` says for which calls it does: for all
but those of `update_product` in which both of its required options are null. Such a call
names the owner's key alone, because the product's id is checked only when the path is
rendered.

For the other operations it is enough that the first check looks at every required option
(`Entry.required_all`), which is a check of the table of operations.
-/

set_option autoImplicit false

namespace EntitlementClient

namespace Entry

/-- The options that are documented as required, by the name of the entry. Where the
documentation lists two options before one mark, both are taken as required. -/
def requiredOptions : List (String × List String) :=
  [ -- The server.
    ("get_serial", ["serial_id"]), ("get_job", ["job_id"]), ("delete_job", ["job_id"]),
    -- Consumers, their guests and types.
    ("get_consumer_type", ["type_id"]), ("delete_consumer_type", ["type_id"]),
    ("delete_deletion_record", ["deleted_uuid"]),
    ("delete_entitlement", ["uuid", "entitlement_id"]),
    ("update_guest_id", ["uuid", "guest_id"]), ("get_guest_id", ["uuid", "guest_id"]),
    ("delete_guest_id", ["uuid", "guest_id"]),
    -- Environments and activation keys.
    ("get_environment", ["id"]), ("delete_environment", ["id"]), ("promote_content", ["env_id"]),
    ("get_activation_key", ["id"]), ("get_activation_key_pools", ["id"]),
    ("delete_activation_key", ["id"]),
    -- Entitlements, pools and subscriptions.
    ("get_entitlement", ["entitlement_id"]), ("get_upstream_certificate", ["id"]),
    ("update_entitlement", ["id"]), ("update_entitlement_consumer", ["id"]),
    ("get_pool", ["pool_id"]), ("get_pool_entitlements", ["pool_id"]),
    ("get_per_pool_statistics", ["pool_id"]), ("delete_pool", ["pool_id"]),
    ("get_subscription", ["subscription_id"]),
    ("get_subscription_certificate", ["subscription_id"]),
    ("delete_subscription", ["subscription_id"]),
    -- Users and roles.
    ("update_user", ["username"]), ("get_user", ["username"]), ("get_user_roles", ["username"]),
    ("get_user_owners", ["username"]), ("delete_user", ["username"]),
    ("create_user_under_owner", ["key"]), ("update_role", ["role_id"]),
    ("get_role", ["role_id"]), ("delete_role", ["role_id"]),
    ("add_role_user", ["role_id", "username"]), ("delete_role_user", ["role_id", "username"]),
    ("add_role_permission", ["role_id"]),
    ("delete_role_permission", ["role_id", "permission_id"]),
    -- Owners.
    ("get_owner", ["key"]), ("get_owner_hypervisors", ["key"]), ("get_owner_info", ["key"]),
    ("get_owner_events", ["key"]), ("get_owner_imports", ["key"]),
    ("get_owner_subscriptions", ["key"]), ("get_owner_activation_keys", ["key"]),
    ("get_owner_service_levels", ["key"]), ("get_owner_environment", ["key"]),
    ("get_owner_pools", ["key"]), ("create_owner_environment", ["key"]),
    ("create_ueber_cert", ["key"]), ("refresh_pools", ["key"]), ("create_subscription", ["key"]),
    ("update_owner", ["key"]), ("set_owner_log_level", ["key"]),
    ("delete_owner_log_level", ["key"]), ("delete_owner", ["key"]),
    -- Products and content.
    ("get_owner_product", ["key", "product_id"]), ("get_all_owner_products", ["key"]),
    ("create_product", ["key"]), ("update_product", ["product_id", "key"]),
    ("delete_product", ["key", "product_id"]), ("get_product_cert", ["key", "product_id"]),
    ("update_product_content", ["product_id", "content_id", "key"]),
    ("delete_product_content", ["product_id", "content_id", "key"]),
    ("get_product", ["product_id"]), ("get_owners_with_product", ["product_ids"]),
    ("get_product_certificate", ["product_id"]), ("get_per_product_statistics", ["product_id"]),
    ("create_content", ["key"]), ("delete_content", ["content_id", "key"]),
    ("get_content", ["content_id"]),
    -- Distributor versions and delivery networks.
    ("update_distributor_version", ["id"]), ("delete_distributor_version", ["id"]),
    ("update_cdn", ["label"]), ("delete_cdn", ["label"])]

/-- The required options of the entry with a name. -/
def required (name : String) : List String := (requiredOptions.lookup name).getD []

/-- Every operation declares the options that it is documented to require. Every one but
`update_product` looks at all of them in its first check. -/
theorem required_all : ∀ listed ∈ Operation.all, ∀ key ∈ required listed.1,
    key ∈ listed.2.declared ∧ (listed.1 = "update_product" ∨ key ∈ listed.2.firstChecked) := by
  decide +kernel

end Entry

/-! ### Updating a product -/

/-- The name `update_product` stands for one operation of the catalogue. -/
theorem Products.eq_updateProduct_of_mem {op : Operation}
    (h : ("update_product", op) ∈ Operation.all) : op = Products.updateProduct := by
  simpa [Operation.all, Service.catalogue, Consumers.catalogue, Environments.catalogue,
    Entitlements.catalogue, Access.catalogue, Owners.catalogue, Products.catalogue,
    Delivery.catalogue] using h

/-- Updating a product checks the owner's key first. The product's id is a slot of the path, and
so it is looked at only once the key is there. -/
theorem Products.updateProduct_missing {context : Context} {supplied options : OptionSet}
    {keys : List String}
    (hmerge : (Products.updateProduct.defaults context supplied).merge supplied = .ok options)
    (h : Products.updateProduct.plan options = .error (.missingRequiredParameter keys)) :
    keys = if options.isNull "key" then ["key"] else ["product_id"] := by
  have hreads : Products.updateProduct.ReadsDeclared := by decide +kernel
  have hrequirements : Products.updateProduct.requirements = [.present ["key"]] := rfl
  have hpath : mandatory Products.updateProduct.path = ["key", "product_id"] := rfl
  have hcases := hreads.plan_missing hmerge h
  rw [hrequirements, hpath] at hcases
  rcases hcases with hfailed | ⟨hmet, key, hkey, rfl⟩
  · -- The requirement on the key reports, so the key is null.
    rw [Operation.checkAll, bind_eq_error_iff] at hfailed
    rcases hfailed with hfailed | ⟨-, -, hnone⟩
    · obtain ⟨hkeys, hsome⟩ := OptionSet.requireThat_missing hfailed
      have hfailing : keys = if options.isNull "key" then ["key"] else [] := by
        rw [hkeys]
        cases hvalue : (options.value "key").isNull with
        | true => simp [OptionSet.failing, OptionSet.isNull, hvalue]
        | false => simp [OptionSet.failing, OptionSet.isNull, hvalue]
      cases hnull : options.isNull "key" with
      | true => rw [hfailing, hnull]; rfl
      | false =>
        rw [hfailing, hnull] at hsome
        exact absurd rfl hsome
    · cases hnone
  · -- The key is there, so the path can lack the product's id only.
    rw [Operation.checkAll_eq_ok_iff] at hmet
    have hset := OptionSet.requireThat_eq_ok_iff.mp (hmet _ (List.mem_singleton_self _)) "key"
      (List.mem_singleton_self _)
    have hnull : options.isNull "key" = false := by simpa [OptionSet.isNull] using hset
    rw [List.find?_cons_of_neg (by simp [hnull])] at hkey
    have hproduct : key = "product_id" := by simpa using List.mem_of_find?_eq_some hkey
    rw [hnull, hproduct]
    rfl

/-! ### Calls -/

/-- An error about options that a call ends with is the one that kept its request from
being made. -/
theorem Operation.request_of_result_isLocal {op : Operation} {context : Context}
    {supplied : OptionSet} {answers : Answers} {n : Nat} {e : ClientError} (hlocal : e.IsLocal)
    (h : ((op.call context supplied).run answers.server n).result = .error e) :
    op.request context supplied = .error e := by
  rw [Operation.run_call] at h
  cases hrequest : op.request context supplied with
  | error e' =>
    rw [hrequest] at h
    cases h
    rfl
  | ok request =>
    -- What comes back from an exchange is no error about options.
    rw [hrequest] at h
    dsimp only [Answers.server] at h
    cases hanswer : answers n with
    | ok response =>
      rw [hanswer] at h
      cases h
    | error problem =>
      rw [hanswer] at h
      cases h
      exact absurd hlocal (ClientError.not_isLocal_ofTransport problem)

namespace Entry

variable {name : String} {entry : Entry} {context : Context} {supplied options : OptionSet}
  {answers : Answers} {keys : List String}

/-- A call that reports missing options, apart from `update_product`, reports every
required option that is null. -/
theorem Listed.mem_of_missing (hlisted : Listed name entry)
    (hmerge : (entry.defaults context supplied).merge supplied = .ok options)
    (h : ((entry.call context supplied).run answers.server 0).result =
      .error (.missingRequiredParameter keys))
    (hname : name ≠ "update_product") {key : String} (hkey : key ∈ required name)
    (hnull : options.value key = .null) : key ∈ keys := by
  cases hlisted with
  | @single _ op hmem =>
    have hplan := Operation.request_of_result_isLocal
      (e := .missingRequiredParameter keys) trivial h
    rw [Operation.request_eq_plan hmerge] at hplan
    have hkeys : options.keys = op.declared :=
      (Defaults.keys_of_merge hmerge).trans
        (Operation.keys_defaults (Operation.nodup_declared_all _ hmem))
    have hfirst := ((required_all _ hmem key hkey).2).resolve_left hname
    exact (Operation.readsDeclared_all _ hmem).mem_of_plan_missing hmerge hkeys hplan hfirst hnull
  | ownerUser =>
    have hrequired : key = "key" := by
      have hkeys : required "create_user_under_owner" = ["key"] := by decide +kernel
      rw [hkeys] at hkey
      exact List.mem_singleton.mp hkey
    subst hrequired
    obtain ⟨failed, hrequire, hmem⟩ :
        ∃ failed, options.requireThat ["key"] (fun v => !v.isNull) =
          .error (.missingRequiredParameter failed) ∧ "key" ∈ failed :=
      OptionSet.requireThat_of_null rfl (List.mem_singleton_self _) hnull
    -- The key is checked before anything is sent.
    have hrun : ((Access.createUserUnderOwner context supplied).run answers.server 0).result =
        .error (.missingRequiredParameter failed) := by
      rw [Access.createUserUnderOwner,
        show Access.ownerUserDefaults.merge supplied = .ok options from hmerge]
      show ((Call.done (options.require ["key"]) >>= fun _ => _).run _ _).result = _
      rw [OptionSet.require, hrequire]
      rfl
    have hresult := hrun.symm.trans h
    cases hresult
    exact hmem

/-- A call of `update_product` that is refused for a missing option names one option. It
is the key if that is null, and the product id otherwise. -/
theorem Listed.updateProduct_missing (hlisted : Listed name entry) (hname : name = "update_product")
    (hmerge : (entry.defaults context supplied).merge supplied = .ok options)
    (h : ((entry.call context supplied).run answers.server 0).result =
      .error (.missingRequiredParameter keys)) :
    keys = if options.isNull "key" then ["key"] else ["product_id"] := by
  cases hlisted with
  | @single _ op hmem =>
    subst hname
    have hop := Products.eq_updateProduct_of_mem hmem
    subst hop
    have hplan := Operation.request_of_result_isLocal
      (e := .missingRequiredParameter keys) trivial h
    rw [Operation.request_eq_plan hmerge] at hplan
    exact Products.updateProduct_missing hmerge hplan
  | ownerUser => exact absurd hname (by decide)

/-- Take any call of the catalogue that fails because options are missing, against any
answers. It names every required option that is null, unless it is a call of
`update_product` in which the key and the product's id are null. Such a call names the key
alone. -/
theorem missing_reported_together_iff (hlisted : Listed name entry)
    (hmerge : (entry.defaults context supplied).merge supplied = .ok options)
    (h : ((entry.call context supplied).run answers.server 0).result =
      .error (.missingRequiredParameter keys)) :
    ((∀ key ∈ required name, options.value key = .null → key ∈ keys) ↔
      ¬ (name = "update_product" ∧ options.value "key" = .null ∧
        options.value "product_id" = .null)) ∧
    (name = "update_product" → options.value "key" = .null → keys = ["key"]) := by
  by_cases hname : name = "update_product"
  · have hrequired : required "update_product" = ["product_id", "key"] := by decide +kernel
    have hkeys := hlisted.updateProduct_missing hname hmerge h
    rw [hname, hrequired, hkeys]
    by_cases hkey : options.value "key" = .null
    · rw [if_pos (OptionSet.isNull_iff.mpr hkey)]
      refine ⟨?_, fun _ _ => rfl⟩
      simp [hkey]
    · rw [if_neg (mt OptionSet.isNull_iff.mp hkey)]
      refine ⟨?_, fun _ hnull => absurd hnull hkey⟩
      simp [hkey]
  · refine ⟨⟨fun _ hboth => hname hboth.1, fun _ key hkey hnull => ?_⟩, fun h => absurd h hname⟩
    exact hlisted.mem_of_missing hmerge h hname hkey hnull

/-- Removing a guest without naming it, with a client of no consumer, reports both options. -/
theorem missing_reported_together_delete_guest_id :
    let entry := Entry.single Consumers.deleteGuestId
    let context : Context := ⟨none, ⟨2026, 1, 31⟩⟩
    let supplied : OptionSet := .ofList [("unregister", .bool true)]
    let options : OptionSet :=
      .ofList [("uuid", .null), ("guest_id", .null), ("unregister", .bool true)]
    let answers : Answers := fun _ => .error .connection
    Listed "delete_guest_id" entry ∧
      (entry.defaults context supplied).merge supplied = .ok options ∧
      ((entry.call context supplied).run answers.server 0).result =
        .error (.missingRequiredParameter ["uuid", "guest_id"]) ∧
      ∀ key ∈ required "delete_guest_id", options.value key = .null →
        key ∈ ["uuid", "guest_id"] := by
  intro entry context supplied options answers
  have hlisted : Listed "delete_guest_id" entry :=
    .single (by simp [Operation.all, Consumers.catalogue])
  have hmerge : (entry.defaults context supplied).merge supplied = .ok options := rfl
  have hresult : ((entry.call context supplied).run answers.server 0).result =
      .error (.missingRequiredParameter ["uuid", "guest_id"]) := rfl
  refine ⟨hlisted, hmerge, hresult, ?_⟩
  exact (missing_reported_together_iff hlisted hmerge hresult).1.mpr (by decide)

/-- Missing options are not always reported together: updating a product without any
option names the key and leaves out the product's id. -/
theorem missing_not_reported_together_update_product :
    ¬ ∀ (name : String) (entry : Entry) (context : Context) (supplied options : OptionSet)
        (answers : Answers) (keys : List String), Listed name entry →
        (entry.defaults context supplied).merge supplied = .ok options →
        ((entry.call context supplied).run answers.server 0).result =
          .error (.missingRequiredParameter keys) →
        ∀ key ∈ required name, options.value key = .null → key ∈ keys := by
  intro htogether
  have hlisted : Listed "update_product" (.single Products.updateProduct) :=
    .single (by simp [Operation.all, Products.catalogue])
  have hproduct : "product_id" ∈ ["key"] :=
    htogether _ _ ⟨none, ⟨2026, 1, 31⟩⟩ .empty _ (fun _ => .error .connection) ["key"] hlisted rfl
      rfl "product_id" (by decide +kernel) rfl
  exact absurd hproduct (by decide)

end Entry

end EntitlementClient
