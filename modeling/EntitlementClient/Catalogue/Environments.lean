import EntitlementClient.Operation.Basic

/-!
# `EntitlementClient.Catalogue.Environments`: environments and activation keys

Environments restrict which content reaches the consumers registered in them. Activation
keys carry what a consumer is to be given at registration.
-/

set_option autoImplicit false

namespace EntitlementClient.Environments

open Operation

/-! ### Environments -/

/-- Gets all environments. -/
def getEnvironments : Operation := fixed .get "/environments"

/-- Gets an environment. -/
def getEnvironment : Operation := getById "/environments" "id"

/-- Deletes an environment. -/
def deleteEnvironment : Operation := deleteById "/environments" "id"

/-- Promotes content into an environment. A bare id is sent as a reference. -/
def promoteContent : Operation :=
  { method := .post
    parameters := [("env_id", .absent), ("content", .emptyList)]
    requirements := [.present ["env_id"]]
    path := [.text "/environments/", .option "env_id", .text "/content"]
    body := some (.bare "content" (.references "contentId")) }

/-! ### Activation keys -/

/-- Gets an activation key. -/
def getActivationKey : Operation := getById "/activation_keys" "id"

/-- Gets all activation keys. -/
def getAllActivationKeys : Operation := fixed .get "/activation_keys"

/-- Gets the pools of an activation key. -/
def getActivationKeyPools : Operation :=
  { below .get "/activation_keys" "id" "/pools" with requirements := [.present ["id"]] }

/-- Deletes an activation key. -/
def deleteActivationKey : Operation := deleteById "/activation_keys" "id"

/-- The operations with their names. -/
def catalogue : List (String × Operation) :=
  [("get_environments", getEnvironments), ("get_environment", getEnvironment),
    ("delete_environment", deleteEnvironment), ("promote_content", promoteContent),
    ("get_activation_key", getActivationKey), ("get_all_activation_keys", getAllActivationKeys),
    ("get_activation_key_pools", getActivationKeyPools),
    ("delete_activation_key", deleteActivationKey)]

end EntitlementClient.Environments
