import EntitlementClient.Operation.Basic

/-!
# `EntitlementClient.Catalogue.Access`: users, roles and permissions

A role gives its users permissions on owners. `Access.ownerPermission` is the permission
on one owner.
-/

set_option autoImplicit false

namespace EntitlementClient.Access

open Operation

/-! ### Permissions -/

/-- How far a permission reaches. -/
inductive Level where
  | all
  | readOnly
deriving DecidableEq, Repr, Inhabited

/-- The name of the level on the wire. -/
def Level.name : Level → String
  | .all => "ALL"
  | .readOnly => "READ_ONLY"

/-- A permission on the owner with the given key. -/
def ownerPermission (key : String) (level : Level) : Json :=
  .object [("access", .string level.name), ("type", .string "OWNER"),
    ("owner", .object [("key", .string key)])]

/-! ### Users -/

/-- The parameters of a user. -/
def userParameters : List (String × Default) :=
  [("username", .absent), ("password", .absent), ("super_admin", .flag false)]

/-- A request on a user. -/
def onUser (method : Method) (suffix : String) : Operation :=
  below method "/users" "username" suffix

/-- Creates a user. -/
def createUser : Operation :=
  { method := .post
    parameters := userParameters
    path := [.text "/users"]
    body := some (.compacted [.allFields]) }

/-- Updates a user. -/
def updateUser : Operation :=
  { method := .put
    parameters := userParameters
    path := [.text "/users/", .option "username"]
    body := some (.compacted [.allFields]) }

/-- Gets a user. -/
def getUser : Operation := getById "/users" "username"

/-- Gets the roles of a user. -/
def getUserRoles : Operation := onUser .get "/roles"

/-- Gets the owners that a user may see. -/
def getUserOwners : Operation := onUser .get "/owners"

/-- Deletes a user. -/
def deleteUser : Operation := deleteById "/users" "username"

/-- Gets all users. -/
def getAllUsers : Operation := fixed .get "/users"

/-! ### Roles -/

/-- Creates a role. -/
def createRole : Operation :=
  { method := .post
    parameters := [("name", .absent), ("permissions", .emptyList)]
    path := [.text "/roles"]
    body := some (.verbatim
      [.member "name" "name" .same, .member "permissions" "permissions" .list]) }

/-- Updates a role. -/
def updateRole : Operation :=
  { method := .put
    parameters :=
      [("role_id", .absent), ("users", .emptyList), ("permissions", .emptyList),
        ("name", .absent)]
    path := [.text "/roles/", .option "role_id"]
    body := some (.compacted
      [.member "id" "role_id" .same, .member "name" "name" .same,
        .member "users" "users" .list, .member "permissions" "permissions" .list]) }

/-- Gets a role. -/
def getRole : Operation := getById "/roles" "role_id"

/-- Gets all roles. -/
def getAllRoles : Operation := fixed .get "/roles"

/-- Deletes a role. -/
def deleteRole : Operation := deleteById "/roles" "role_id"

/-- A request on a user of a role. -/
def onRoleUser (method : Method) : Operation :=
  { method := method
    parameters := optional ["role_id", "username"]
    requirements := [.allPresent]
    path := [.text "/roles/", .option "role_id", .text "/users/", .option "username"] }

/-- Gives a role to a user. -/
def addRoleUser : Operation := onRoleUser .post

/-- Takes a role from a user. -/
def deleteRoleUser : Operation := onRoleUser .delete

/-- Adds a permission to a role. -/
def addRolePermission : Operation :=
  { method := .post
    parameters :=
      [("role_id", .absent), ("type", .absent), ("owner", .absent),
        ("access", .text Level.readOnly.name)]
    path := [.text "/roles/", .option "role_id", .text "/permissions/"]
    body := some (.compacted
      [.member "owner" "owner" (.reference "key"), .member "access" "access" .same,
        .member "type" "type" .same]) }

/-- Removes a permission from a role. -/
def deleteRolePermission : Operation :=
  { method := .delete
    parameters := optional ["role_id", "permission_id"]
    requirements := [.allPresent]
    path := [.text "/roles/", .option "role_id", .text "/permissions/", .option "permission_id"] }

/-- The operations with their names. -/
def catalogue : List (String × Operation) :=
  [("create_user", createUser), ("update_user", updateUser), ("get_user", getUser),
    ("get_user_roles", getUserRoles), ("get_user_owners", getUserOwners),
    ("delete_user", deleteUser), ("get_all_users", getAllUsers), ("create_role", createRole),
    ("update_role", updateRole), ("get_role", getRole), ("get_all_roles", getAllRoles),
    ("delete_role", deleteRole), ("add_role_user", addRoleUser),
    ("delete_role_user", deleteRoleUser), ("add_role_permission", addRolePermission),
    ("delete_role_permission", deleteRolePermission)]

end EntitlementClient.Access
