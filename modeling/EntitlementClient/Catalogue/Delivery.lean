import EntitlementClient.Operation.Basic

/-!
# `EntitlementClient.Catalogue.Delivery`: distributor versions and delivery networks

What entitled content is delivered by: versions of distributors with their capabilities,
and content delivery networks.
-/

set_option autoImplicit false

namespace EntitlementClient.Delivery

open Operation

/-! ### Distributor versions -/

/-- The body of a distributor version. -/
def distributorBody (keys : List String) : BodyPlan :=
  .compacted [.fields keys, .member "capabilities" "capabilities" (.named "name")]

/-- Creates a distributor version. -/
def createDistributorVersion : Operation :=
  { method := .post
    parameters := [("name", .absent), ("display_name", .absent), ("capabilities", .emptyList)]
    path := [.text "/distributor_versions"]
    body := some (distributorBody ["name", "display_name"]) }

/-- Updates a distributor version. -/
def updateDistributorVersion : Operation :=
  { method := .put
    parameters :=
      [("id", .absent), ("name", .absent), ("display_name", .absent),
        ("capabilities", .emptyList)]
    path := [.text "/distributor_versions/", .option "id"]
    body := some (distributorBody ["id", "name", "display_name"]) }

/-- Searches distributor versions. -/
def getDistributorVersion : Operation :=
  { method := .get
    parameters := optional ["name", "capability"]
    path := [.text "/distributor_versions"]
    query := [.renamed "capability" "capability", .renamed "name_search" "name"] }

/-- Deletes a distributor version. -/
def deleteDistributorVersion : Operation := deleteById "/distributor_versions" "id"

/-! ### Delivery networks -/

/-- The parameters of a delivery network. -/
def networkParameters : List (String × Default) :=
  optional ["label", "name", "url", "certificate"]

/-- Creates a delivery network. -/
def createCdn : Operation :=
  { method := .post
    parameters := networkParameters
    path := [.text "/cdn"]
    body := some (.compacted [.allFields]) }

/-- Updates a delivery network. -/
def updateCdn : Operation :=
  { method := .put
    parameters := networkParameters
    path := [.text "/cdn/", .option "label"]
    body := some (.compacted [.fields ["name", "url", "certificate"]]) }

/-- Gets all delivery networks. -/
def getAllCdns : Operation := fixed .get "/cdn"

/-- Deletes a delivery network. -/
def deleteCdn : Operation := deleteById "/cdn" "label"

/-- The operations with their names. -/
def catalogue : List (String × Operation) :=
  [("create_distributor_version", createDistributorVersion),
    ("update_distributor_version", updateDistributorVersion),
    ("get_distributor_version", getDistributorVersion),
    ("delete_distributor_version", deleteDistributorVersion), ("create_cdn", createCdn),
    ("update_cdn", updateCdn), ("get_all_cdns", getAllCdns), ("delete_cdn", deleteCdn)]

end EntitlementClient.Delivery
