import EntitlementClient.Operation.Basic

/-!
# `EntitlementClient.Catalogue.Owners`: owners

An owner is the organisation that consumers, subscriptions and products belong to.
Operations name it by its key.
-/

set_option autoImplicit false

namespace EntitlementClient.Owners

open Operation

/-- The path below an owner. -/
def ownerPath (suffix : String) : List PathPart :=
  [.text "/owners/", .option "key", .text suffix]

/-- A request on an owner that takes no other option than its key. -/
def onOwner (method : Method) (suffix : String) : Operation := below method "/owners" "key" suffix

/-! ### Reading -/

/-- Gets an owner. -/
def getOwner : Operation := getById "/owners" "key"

/-- Gets the hypervisors of an owner. -/
def getOwnerHypervisors : Operation :=
  { method := .get
    parameters := [("key", .absent), ("hypervisor_ids", .emptyList)]
    path := ownerPath "/hypervisors"
    query := [.renamed "hypervisor_id" "hypervisor_ids"] }

/-- Gets a summary of an owner. -/
def getOwnerInfo : Operation := onOwner .get "/info"

/-- Gets the events of an owner. -/
def getOwnerEvents : Operation := onOwner .get "/events"

/-- Gets the imports of an owner. -/
def getOwnerImports : Operation := onOwner .get "/imports"

/-- Gets the subscriptions of an owner. -/
def getOwnerSubscriptions : Operation := onOwner .get "/subscriptions"

/-- Gets the activation keys of an owner. -/
def getOwnerActivationKeys : Operation := onOwner .get "/activation_keys"

/-- Gets the service levels of an owner. -/
def getOwnerServiceLevels : Operation :=
  { method := .get
    parameters := [("key", .absent), ("exempt", .flag false)]
    path := ownerPath "/servicelevels"
    query := [.options ["exempt"]] }

/-- Gets the environments of an owner. -/
def getOwnerEnvironment : Operation :=
  { method := .get
    parameters := optional ["key", "name"]
    path := ownerPath "/environments"
    query := [.options ["name"]] }

/-- Gets all owners. -/
def getAllOwners : Operation := fixed .get "/owners"

/-- Gets the pools of an owner, filtered and by the page. -/
def getOwnerPools : Operation :=
  { method := .get
    parameters :=
      optional ["key", "consumer", "product", "listall"] ++ [("attributes", .emptyList)]
        ++ optional Defaults.paging.keys
    requirements := [.present ["key"]]
    path := ownerPath "/pools"
    query :=
      [.options ["consumer", "product", "listall"], .attributes "attribute" "attributes",
        .options ["page", "per_page", "order", "sort_by"]] }

/-! ### Changing -/

/-- Has all consumers of an owner healed. -/
def autohealOwner : Operation := onOwner .post "/entitlements"

/-- Creates an owner. -/
def createOwner : Operation :=
  { method := .post
    parameters := optional ["key", "display_name", "parent_owner"]
    path := [.text "/owners"]
    body := some (.compacted
      [.fields ["key", "display_name"], .member "parentOwner" "parent_owner" (.reference "id")]) }

/-- Creates an environment of an owner. -/
def createOwnerEnvironment : Operation :=
  { method := .post
    parameters := optional ["key", "id", "name", "description"]
    path := ownerPath "/environments"
    body := some (.compacted [.fields ["id", "name", "description"]]) }

/-- Creates the certificate that entitles to all content of an owner. -/
def createUeberCert : Operation := onOwner .post "/uebercert"

/-- Has the pools of an owner brought up to date. -/
def refreshPools : Operation :=
  { method := .put
    parameters :=
      [("key", .absent), ("auto_create_owner", .flag false), ("lazy_regen", .flag false)]
    requirements := [.present ["key"]]
    path := ownerPath "/subscriptions"
    query := [.options ["auto_create_owner", "lazy_regen"]] }

/-- Creates a subscription, for a year from the current date unless the call says otherwise. -/
def createSubscription : Operation :=
  { method := .post
    parameters :=
      [("key", .absent), ("start_date", .daysAhead 0), ("end_date", .daysAhead 365),
        ("quantity", .one), ("account_number", .text ""), ("order_number", .text ""),
        ("contract_number", .text ""), ("product_id", .absent),
        ("provided_products", .emptyList), ("derived_products", .emptyList),
        ("derived_provided_products", .emptyList)]
    path := ownerPath "/subscriptions"
    body := some (.compacted
      [.fields ["start_date", "end_date", "quantity", "account_number", "order_number",
          "contract_number"],
        .member "product" "product_id" (.memberOf "id"),
        .memberIfAny "providedProducts" "provided_products" .idReferences,
        .memberIfAny "derivedProducts" "derived_products" .idReferences,
        .memberIfAny "derivedProvidedProducts" "derived_provided_products" .idReferences]) }

/-- Updates an owner. -/
def updateOwner : Operation :=
  { method := .put
    parameters :=
      optional ["key", "display_name", "parent_owner", "default_service_level",
        "content_prefix", "log_level"]
    path := ownerPath ""
    body := some (.compacted
      [.fields ["display_name", "parent_owner", "default_service_level", "content_prefix",
          "log_level"],
        .member "parentOwner" "parent_owner" (.reference "id")]) }

/-- Sets the level at which the server logs about an owner. -/
def setOwnerLogLevel : Operation :=
  { method := .put
    parameters := optional ["key", "level"]
    path := ownerPath "/log"
    query := [.options ["level"]] }

/-- Returns to the usual log level for an owner. -/
def deleteOwnerLogLevel : Operation := onOwner .delete "/log"

/-- Deletes an owner. -/
def deleteOwner : Operation :=
  { method := .delete
    parameters := [("key", .absent), ("revoke", .flag false)]
    path := ownerPath ""
    query := [.options ["revoke"]] }

/-- The operations with their names. -/
def catalogue : List (String × Operation) :=
  [("get_owner", getOwner), ("get_owner_hypervisors", getOwnerHypervisors),
    ("get_owner_info", getOwnerInfo), ("get_owner_events", getOwnerEvents),
    ("get_owner_imports", getOwnerImports), ("get_owner_subscriptions", getOwnerSubscriptions),
    ("get_owner_activation_keys", getOwnerActivationKeys),
    ("get_owner_service_levels", getOwnerServiceLevels),
    ("get_owner_environment", getOwnerEnvironment), ("get_all_owners", getAllOwners),
    ("get_owner_pools", getOwnerPools), ("autoheal_owner", autohealOwner),
    ("create_owner", createOwner), ("create_owner_environment", createOwnerEnvironment),
    ("create_ueber_cert", createUeberCert), ("refresh_pools", refreshPools),
    ("create_subscription", createSubscription), ("update_owner", updateOwner),
    ("set_owner_log_level", setOwnerLogLevel), ("delete_owner_log_level", deleteOwnerLogLevel),
    ("delete_owner", deleteOwner)]

end EntitlementClient.Owners
