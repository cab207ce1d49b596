import EntitlementClient.Catalogue.OwnerUser
import EntitlementClient.Proofs.Operation.Validation
import EntitlementClient.Proofs.Options.Segment

/-!
# `EntitlementClient.Proofs.Access.OwnerUserRequests`: the requests for a user under an owner

An `OwnerUserAsk` is what a caller asks for: the key of the owner, and user name, password
and administrator flag of the user. It has four requests: `getRoles`, `createRole`,
`createUser` and `joinRole`. They are written out here as they go over the wire.

`createUserUnderOwner` makes them through other operations of the catalogue. Each of these
operations, called with the options that it is given there, has the request of the ask
(`createRole_request`, `createUser_request`). Giving the role to the user is the one of
them that can be refused before it is sent: its two options come from the role that the
server returned and from the caller, and each has to be a path segment
(`joinRole_request_eq_ok_iff`).
-/

set_option autoImplicit false

namespace EntitlementClient

namespace Access

/-- The text of a key: a string itself, any other value as JSON text. -/
def textOfKey : Json → String
  | .string key => key
  | v => v.render

/-- What a caller asks for who creates a user under an owner. -/
structure OwnerUserAsk where
  /-- The key of the owner. -/
  key : String
  /-- The name of the user. -/
  username : Json
  /-- The password of the user. -/
  password : Json
  /-- Whether the user is an administrator. -/
  superAdmin : Json

namespace OwnerUserAsk

/-- The ask that the options of a call express. Without the flag the user is no administrator. -/
def of (supplied : OptionSet) : OwnerUserAsk :=
  { key := textOfKey (supplied.value "key")
    username := supplied.value "username"
    password := supplied.value "password"
    superAdmin := (supplied.get? "super_admin").getD (.bool false) }

/-- The options are ones with which the protocol begins: all declared, and with a key. -/
def Accepted (supplied : OptionSet) : Prop :=
  ownerUserDefaults.undeclared supplied = [] ∧ supplied.value "key" ≠ .null

variable (ask : OwnerUserAsk)

/-- The name of the role. -/
def roleName : String := ask.key ++ "-ALL"

/-- The request for all roles. -/
def getRoles : Request :=
  { method := .get
    path := "/roles"
    query := .empty
    body := none
    accept := none }

/-- The request that creates the role, with one permission on the owner. -/
def createRole : Request :=
  { method := .post
    path := "/roles"
    query := .empty
    body := some (.object
      [("name", .string ask.roleName),
        ("permissions", .array [.object
          [("access", .string (if ask.superAdmin = .bool true then "ALL" else "READ_ONLY")),
            ("type", .string "OWNER"), ("owner", .object [("key", .string ask.key)])]])])
    accept := none }

/-- The request that creates the user, with the members that are not null. -/
def createUser : Request :=
  { method := .post
    path := "/users"
    query := .empty
    body := some (.object
      ([("username", ask.username), ("password", ask.password),
        ("superAdmin", ask.superAdmin)].filter fun member => !member.2.isNull))
    accept := none }

/-- The request that gives the role to the user. Both parts of its path are path segments. -/
def joinRole (id username : String) : Request :=
  { method := .post
    path := "/roles/" ++ id ++ "/users/" ++ username
    query := .empty
    body := none
    accept := none }

/-! ### The ask of merged options -/

/-- The ask that merged options express. -/
def read (options : OptionSet) : OwnerUserAsk :=
  { key := textOfKey (options.value "key")
    username := options.value "username"
    password := options.value "password"
    superAdmin := options.value "super_admin" }

/-- Merging keeps the ask: what is read from the merged options is what the caller's options say,
with the defaults for the rest. -/
theorem read_of_merge {supplied options : OptionSet}
    (h : ownerUserDefaults.merge supplied = .ok options) : read options = of supplied := by
  have hkey : options.value "key" = supplied.value "key" := Defaults.value_of_merge h "key"
  have husername : options.value "username" = supplied.value "username" :=
    Defaults.value_of_merge h "username"
  have hpassword : options.value "password" = supplied.value "password" :=
    Defaults.value_of_merge h "password"
  have hsuperAdmin : options.value "super_admin" =
      (supplied.get? "super_admin").getD (.bool false) := Defaults.value_of_merge h "super_admin"
  rw [read, of, hkey, husername, hpassword, hsuperAdmin]

/-- The text of the key among merged options. A string is taken as it is, and any other value as
JSON. -/
theorem keyText_eq (options : OptionSet) : keyText options = textOfKey (options.value "key") := by
  unfold keyText OptionSet.value OptionSet.string?
  cases options.get? "key" with
  | none => rfl
  | some v => cases v <;> rfl

/-- The name of the role for merged options. -/
theorem ownerRole_eq (options : OptionSet) :
    ownerRole (keyText options) = (read options).roleName := by
  rw [keyText_eq]
  rfl

/-! ### The requests of the operations -/

variable (context : Context) (options : OptionSet)

/-- Getting all roles is the first request. -/
theorem getAllRoles_request : getAllRoles.request context .empty = .ok getRoles := rfl

/-- An administrator gets all access, and anybody else may read only. Nothing but `true` makes an
administrator. -/
theorem name_levelFor :
    (levelFor options).name =
      if options.value "super_admin" = .bool true then "ALL" else "READ_ONLY" := by
  unfold levelFor
  split
  · rfl
  · rfl

/-- The request that creates the role is the one that the ask describes, with one permission for
the owner. -/
theorem createRole_request :
    Access.createRole.request context (roleOptions options) = .ok (read options).createRole := by
  have hmerge : (Access.createRole.defaults context (roleOptions options)).merge
      (roleOptions options) = .ok (roleOptions options) := rfl
  have hplan : Access.createRole.plan (roleOptions options) =
      .ok ⟨.post, "/roles", .empty,
        some (.object [("name", .string (ownerRole (keyText options))),
          ("permissions", .array [ownerPermission (keyText options) (levelFor options)])]),
        none⟩ := rfl
  rw [Operation.request, hmerge]
  show Access.createRole.plan (roleOptions options) = _
  rw [hplan, ownerRole_eq, ownerPermission, name_levelFor, keyText_eq]
  rfl

/-- The options of the user with their names on the wire. -/
theorem mapFields_userOptions :
    (userOptions options).mapFields none =
      .ofList [("username", options.value "username"), ("password", options.value "password"),
        ("superAdmin", options.value "super_admin")] := by
  have husername : Wire.toCamel "username" = "username" := by decide +kernel
  have hpassword : Wire.toCamel "password" = "password" := by decide +kernel
  have hsuperAdmin : Wire.toCamel "super_admin" = "superAdmin" := by decide +kernel
  -- Only the keys are computed; the values stay as they are.
  show OrderedMap.ofList [(Wire.toCamel "username", _), (Wire.toCamel "password", _),
    (Wire.toCamel "super_admin", _)] = _
  rw [husername, hpassword, hsuperAdmin]

/-- The request that creates the user is the one that the ask describes. Its body has the three
options with their names on the wire. -/
theorem createUser_request :
    Access.createUser.request context (userOptions options) = .ok (read options).createUser := by
  have hmerge : (Access.createUser.defaults context (userOptions options)).merge
      (userOptions options) = .ok (userOptions options) := rfl
  have hplan : Access.createUser.plan (userOptions options) =
      .ok ⟨.post, "/users", .empty,
        some (BodyPlan.render (userOptions options) (.compacted [.allFields])), none⟩ := rfl
  have hbody : BodyPlan.render (userOptions options) (.compacted [.allFields]) =
      .object ([("username", options.value "username"), ("password", options.value "password"),
        ("superAdmin", options.value "super_admin")].filter fun member => !member.2.isNull) := by
    simp only [BodyPlan.render, assemble, List.foldl_cons, List.foldl_nil, BodyPart.addTo,
      mapFields_userOptions]
    rfl
  rw [Operation.request, hmerge]
  show Access.createUser.plan (userOptions options) = _
  rw [hplan, hbody]
  rfl

/-- The options with which the user is given the role are declared. -/
theorem merge_membershipOptions (id : Json) :
    (addRoleUser.defaults context (membershipOptions id options)).merge
      (membershipOptions id options) = .ok (membershipOptions id options) := rfl

/-- The path on which the user is given the role. -/
theorem renderPath_addRoleUser :
    renderPath options addRoleUser.path = do
      let id ← options.segment "role_id"
      let username ← options.segment "username"
      return "/roles/" ++ id ++ "/users/" ++ username := by
  simp only [renderPath, addRoleUser, onRoleUser, renderParts, PathPart.render]
  cases options.segment "role_id" with
  | error e => rfl
  | ok id =>
    cases options.segment "username" with
    | error e => rfl
    | ok username => rfl

/-- Giving the role to the user is a request exactly when its id and the user name are
path segments. -/
theorem joinRole_request_eq_ok_iff {id : Json} {request : Request} :
    addRoleUser.request context (membershipOptions id options) = .ok request ↔
      ∃ idText username, OptionSet.segmentText? id = some idText ∧
        OptionSet.segmentText? (read options).username = some username ∧
        request = joinRole idText username := by
  have hid : (membershipOptions id options).value "role_id" = id := rfl
  have husername : (membershipOptions id options).value "username" = (read options).username := rfl
  rw [Operation.request, merge_membershipOptions]
  show addRoleUser.plan (membershipOptions id options) = _ ↔ _
  constructor
  · intro h
    simp only [Operation.plan, renderPath_addRoleUser, bind_eq_ok_iff,
      OptionSet.segment_eq_ok_iff, hid, husername] at h
    obtain ⟨-, -, path, ⟨idText, hidText, usernameText, husernameText, hpath⟩, query, hquery,
      hrequest⟩ := h
    cases hpath
    cases hquery
    cases hrequest
    exact ⟨idText, usernameText, hidText, husernameText, rfl⟩
  · rintro ⟨idText, usernameText, hidText, husernameText, rfl⟩
    -- A value with the text of a segment is not null, so both options are there.
    have hrequire : (membershipOptions id options).require [] = .ok () := by
      refine OptionSet.requireThat_eq_ok_iff.mpr fun key hkey => ?_
      have hkeys : key = "role_id" ∨ key = "username" := by
        simpa [membershipOptions] using hkey
      rcases hkeys with rfl | rfl
      · rw [hid, OptionSet.isNull_of_segmentText? hidText]
        rfl
      · rw [husername, OptionSet.isNull_of_segmentText? husernameText]
        rfl
    have hpresent : Operation.checkAll (membershipOptions id options) addRoleUser.requirements =
        .ok () := by
      show ((membershipOptions id options).require [] >>= fun _ => .ok ()) = _
      rw [hrequire]
      rfl
    have hidSegment := OptionSet.segment_eq_ok_iff.mpr (hid ▸ hidText)
    have husernameSegment := OptionSet.segment_eq_ok_iff.mpr (husername ▸ husernameText)
    rw [Operation.plan, hpresent, renderPath_addRoleUser, hidSegment, husernameSegment]
    rfl

/-- Giving the role to the user fails only for a value that is no path segment. The options are
all declared, so nothing else can be wrong with them. -/
theorem joinRole_request_error {id : Json} {e : ClientError}
    (h : addRoleUser.request context (membershipOptions id options) = .error e) :
    (OptionSet.segmentText? id = none ∨ OptionSet.segmentText? (read options).username = none) ∧
      e.RejectsValues := by
  constructor
  · cases hid : OptionSet.segmentText? id with
    | none => exact Or.inl rfl
    | some idText =>
      cases husername : OptionSet.segmentText? (read options).username with
      | none => exact Or.inr rfl
      | some username =>
        have hrequest := (joinRole_request_eq_ok_iff context options).mpr
          ⟨idText, username, hid, husername, rfl⟩
        rw [h] at hrequest
        cases hrequest
  · -- Both options are declared, so only their values can be refused.
    have hreads : addRoleUser.ReadsDeclared := by decide +kernel
    have hdeclared : addRoleUser.undeclared (membershipOptions id options) = [] := rfl
    rcases hreads.request_error h with ⟨hundeclared, -⟩ | ⟨-, hvalues⟩
    · exact absurd hdeclared hundeclared
    · exact hvalues

end OwnerUserAsk

end Access

end EntitlementClient
