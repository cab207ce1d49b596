import EntitlementClient.Catalogue.Access
import EntitlementClient.Operation.Call

/-!
# `EntitlementClient.Catalogue.OwnerUser`: a user with access to an owner

Creating a user under an owner takes several requests: the roles are searched for the
owner's role, the role is created if it is missing, then the user is created and given the
role. Each step needs the reply of the one before, and the first reply that does not serve
ends the call.
-/

set_option autoImplicit false

namespace EntitlementClient.Access

/-- The parameters of a user under an owner. -/
def ownerUserDefaults : Defaults :=
  .ofList [("username", .null), ("password", .null), ("super_admin", .bool false), ("key", .null)]

/-- An option as a text: a string itself, any other value as JSON text. -/
def keyText (options : OptionSet) : String :=
  (options.string? "key").getD (options.value "key").render

/-- The name of the role that gives access to an owner. -/
def ownerRole (key : String) : String := key ++ "-ALL"

/-- The first role of a list that has the name. -/
def findRole? (name : String) : Json → Option Json
  | .array roles => roles.find? fun role => role.member? "name" = some (.string name)
  | _ => none

/-- The access that comes with a new role: all of it for an administrator. -/
def levelFor (options : OptionSet) : Level :=
  if options.value "super_admin" = .bool true then .all else .readOnly

/-- The options with which the role of an owner is created. -/
def roleOptions (options : OptionSet) : OptionSet :=
  .ofList [("name", .string (ownerRole (keyText options))),
    ("permissions", ownerPermission (keyText options) (levelFor options))]

/-- The options with which the user is created. -/
def userOptions (options : OptionSet) : OptionSet :=
  .ofList [("username", options.value "username"), ("password", options.value "password"),
    ("super_admin", options.value "super_admin")]

/-- The options with which the user is given the role. -/
def membershipOptions (roleId : Json) (options : OptionSet) : OptionSet :=
  .ofList [("role_id", roleId), ("username", options.value "username")]

/-- The id of a role. -/
def roleId (name : String) (role : Json) : Except ClientError Json :=
  match role.member? "id" with
  | some id => .ok id
  | none => .error (.decode (.roleWithoutId name))

/-- A user as the server describes it, with the password that the caller chose. -/
def withPassword (password : Json) : Json → Json
  | .object members => .object (OrderedMap.insertEntry "password" password members)
  | user => user

/-- Finds the role of the owner among all roles, or creates it. -/
def provideRole (context : Context) (options : OptionSet) : Call Json := do
  let response ← getAllRoles.call context .empty
  let roles ← .done response.okJson
  match findRole? (ownerRole (keyText options)) roles with
  | some role => return role
  | none => do
    let created ← createRole.call context (roleOptions options)
    .done created.okJson

/-- Creates the user and gives it the role with an id. -/
def createMember (context : Context) (options : OptionSet) (id : Json) : Call Json := do
  let created ← createUser.call context (userOptions options)
  let user ← .done created.okJson
  let joined ← addRoleUser.call context (membershipOptions id options)
  let _ ← .done joined.okContent
  return withPassword (options.value "password") user

/-- Creates a user with access to the owner that the option `key` names, and returns the
user with its password. -/
def createUserUnderOwner (context : Context) (supplied : OptionSet) : Call Json := do
  let options ← .done (ownerUserDefaults.merge supplied)
  .done (options.require ["key"])
  let role ← provideRole context options
  let id ← .done (roleId (ownerRole (keyText options)) role)
  createMember context options id

end EntitlementClient.Access
