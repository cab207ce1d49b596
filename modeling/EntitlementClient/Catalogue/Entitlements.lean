import EntitlementClient.Operation.Basic

/-!
# `EntitlementClient.Catalogue.Entitlements`: entitlements, pools and subscriptions

A subscription fills pools, and entitlements are drawn from pools.
-/

set_option autoImplicit false

namespace EntitlementClient.Entitlements

open Operation

/-- The path of the statistics below a path, of one kind of value if the option names it. -/
def statisticsPath (base : List PathPart) : List PathPart :=
  base ++ [.text "/statistics", .whenSet "/" "val_type"]

/-! ### Entitlements -/

/-- Gets an entitlement. -/
def getEntitlement : Operation := getById "/entitlements" "entitlement_id"

/-- Gets the certificate of what an entitlement was drawn from, as text. -/
def getSourceCertificate : Operation :=
  (below .get "/entitlements" "id" "/upstream_cert").accepting textPlain

/-- Changes the quantity of an entitlement. -/
def updateEntitlement : Operation :=
  { method := .put
    parameters := [("id", .absent), ("quantity", .one)]
    requirements := [.present ["id"]]
    path := [.text "/entitlements/", .option "id"]
    body := some (.verbatim [.fields ["id", "quantity"]]) }

/-- Moves an entitlement to another consumer. -/
def updateEntitlementConsumer : Operation :=
  { method := .put
    parameters := [("id", .absent), ("to_consumer", .absent), ("quantity", .one)]
    requirements := [.present ["id"]]
    path := [.text "/entitlements/", .option "id"]
    body := some (.compacted [.fields ["to_consumer", "quantity"]]) }

/-! ### Pools -/

/-- Gets a pool, as a consumer sees it. -/
def getPool : Operation :=
  { method := .get
    parameters := [("pool_id", .absent), ("uuid", .consumerUuid)]
    path := [.text "/pools/", .option "pool_id"]
    query := [.renamed "consumer" "uuid"] }

/-- Gets the entitlements drawn from a pool. -/
def getPoolEntitlements : Operation := below .get "/pools" "pool_id" "/entitlements"

/-- Gets the statistics of a pool. -/
def getPerPoolStatistics : Operation :=
  { method := .get
    parameters := optional ["pool_id", "val_type"]
    path := statisticsPath [.text "/pools/", .option "pool_id"] }

/-- Deletes a pool. -/
def deletePool : Operation := deleteById "/pools" "pool_id"

/-! ### Subscriptions -/

/-- Gets a subscription. -/
def getSubscription : Operation := getById "/subscriptions" "subscription_id"

/-- Gets the certificate of a subscription as text. -/
def getSubscriptionCertificate : Operation :=
  (below .get "/subscriptions" "subscription_id" "/cert").accepting textPlain

/-- Deletes a subscription. -/
def deleteSubscription : Operation := deleteById "/subscriptions" "subscription_id"

/-- The operations with their names. -/
def catalogue : List (String × Operation) :=
  [("get_entitlement", getEntitlement), ("get_upstream_certificate", getSourceCertificate),
    ("update_entitlement", updateEntitlement),
    ("update_entitlement_consumer", updateEntitlementConsumer), ("get_pool", getPool),
    ("get_pool_entitlements", getPoolEntitlements),
    ("get_per_pool_statistics", getPerPoolStatistics), ("delete_pool", deletePool),
    ("get_subscription", getSubscription),
    ("get_subscription_certificate", getSubscriptionCertificate),
    ("delete_subscription", deleteSubscription)]

end EntitlementClient.Entitlements
