import EntitlementClient.Catalogue
import EntitlementClient.Catalogue.OwnerUser
import EntitlementClient.Proofs.Operation.Defaults
import EntitlementClient.Proofs.Operation.Sent

/-!
# `EntitlementClient.Proofs.Catalogue.Entry`: everything a caller can ask for by name

An `Entry` is an operation that is one request, or the creation of a user under an owner,
which is several. `Entry.call` is what a call of it does, whichever it is, and
`Entry.Listed` says under which name it is asked for.

The requests of a call are made by operations of the catalogue. `Entry.Part` lists those,
each with the options that it is given: an operation with the options of the caller, or
one of the four operations that provide a role, create the user and give it the role.
Every request that a call sends, against any server, is a request of one of its parts
(`Entry.request_of_mem_sent`), and every part is itself an operation of the catalogue
(`Entry.Part.named`). So what holds of the one request of each operation holds of all
requests of all calls.
-/

set_option autoImplicit false

namespace EntitlementClient

open Access

/-- No operation declares an option twice. The catalogue is finite, so this is computed. -/
theorem Operation.nodup_declared_all :
    ∀ entry ∈ Operation.all, entry.2.declared.Nodup := by
  decide +kernel

/-- What a caller can ask for. -/
inductive Entry where
  /-- An operation that is one request. -/
  | single (op : Operation)
  /-- The creation of a user under an owner. -/
  | ownerUser

namespace Entry

/-- What comes back from a call. -/
def Result : Entry → Type
  | .single _ => Response
  | .ownerUser => Json

/-- The call. -/
def call (context : Context) (supplied : OptionSet) : (entry : Entry) → Call entry.Result
  | .single op => op.call context supplied
  | .ownerUser => createUserUnderOwner context supplied

/-- The defaults of a call. -/
def defaults (context : Context) (supplied : OptionSet) : Entry → Defaults
  | .single op => op.defaults context supplied
  | .ownerUser => ownerUserDefaults

/-- The declared options, in order. -/
def declared : Entry → List String
  | .single op => op.declared
  | .ownerUser => ownerUserDefaults.keys

/-- The caller names declared options only. -/
def Declared (entry : Entry) (supplied : OptionSet) : Prop :=
  ∀ key ∈ supplied.keys, key ∈ entry.declared

/-- The entries with the names under which callers ask for them. -/
inductive Listed : String → Entry → Prop
  | single {name op} (h : (name, op) ∈ Operation.all) : Listed name (.single op)
  | ownerUser : Listed "create_user_under_owner" .ownerUser

/-- The operations of which a call is made, each with the options that it is given. -/
inductive Part (supplied : OptionSet) : Entry → Operation → OptionSet → Prop
  /-- The operation itself, with the options of the caller. -/
  | single {op} : Part supplied (.single op) op supplied
  | getRoles : Part supplied .ownerUser getAllRoles .empty
  | createRole {options} (hmerge : ownerUserDefaults.merge supplied = .ok options) :
      Part supplied .ownerUser createRole (roleOptions options)
  | createUser {options} (hmerge : ownerUserDefaults.merge supplied = .ok options) :
      Part supplied .ownerUser createUser (userOptions options)
  /-- The id of the role is one that the server returned. -/
  | joinRole {options} (hmerge : ownerUserDefaults.merge supplied = .ok options) (id : Json) :
      Part supplied .ownerUser addRoleUser (membershipOptions id options)

variable {context : Context} {supplied : OptionSet}

/-- The defaults of an operation name the options that it declares, and no others. -/
@[simp] theorem mem_keys_defaults {entry : Entry} {key : String} :
    key ∈ (entry.defaults context supplied).keys ↔ key ∈ entry.declared := by
  cases entry with
  | single op => exact Operation.mem_keys_defaults
  | ownerUser => exact Iff.rfl

/-- The defaults name the declared options in the order of their declaration. -/
theorem Listed.keys_defaults {name : String} {entry : Entry} (hlisted : Listed name entry) :
    (entry.defaults context supplied).keys = entry.declared := by
  cases hlisted with
  | single hmem => exact Operation.keys_defaults (Operation.nodup_declared_all _ hmem)
  | ownerUser => rfl

/-- Options can be merged with the defaults when they are all declared. Nothing else is asked of
them. -/
theorem merge_of_declared {entry : Entry} (context : Context)
    (h : entry.Declared supplied) :
    ∃ options, (entry.defaults context supplied).merge supplied = .ok options := by
  refine ⟨_, Defaults.merge_eq_ok_iff.mpr ⟨?_, rfl⟩⟩
  rw [List.eq_nil_iff_forall_not_mem]
  intro key hkey
  obtain ⟨hsupplied, hundeclared⟩ := Defaults.mem_undeclared.mp hkey
  exact hundeclared (mem_keys_defaults.mpr (h key hsupplied))

/-- A part of an entry of the catalogue is an operation of the catalogue. So what holds of all
operations of the catalogue holds of the parts of every call. -/
theorem Part.named {name : String} {entry : Entry} {op : Operation} {options : OptionSet}
    (hlisted : Listed name entry) (hpart : Part supplied entry op options) :
    ∃ name', (name', op) ∈ Operation.all := by
  cases hpart with
  | single =>
    cases hlisted with
    | single hmem => exact ⟨name, hmem⟩
  | getRoles => exact ⟨"get_all_roles", by simp [Operation.all, Access.catalogue]⟩
  | createRole => exact ⟨"create_role", by simp [Operation.all, Access.catalogue]⟩
  | createUser => exact ⟨"create_user", by simp [Operation.all, Access.catalogue]⟩
  | joinRole => exact ⟨"add_role_user", by simp [Operation.all, Access.catalogue]⟩

/-! ### The requests of a call -/

/-- The request is made by a part of the entry. -/
def Requests (context : Context) (supplied : OptionSet) (entry : Entry) (request : Request) :
    Prop :=
  ∃ op options, entry.Part supplied op options ∧ op.request context options = .ok request

/-- The requests of a part are requests of the entry, so a call of the part sends nothing else. -/
theorem onlySends_part {entry : Entry} {op : Operation} {options : OptionSet}
    (hpart : entry.Part supplied op options) :
    (op.call context options).OnlySends (Requests context supplied entry) := by
  refine Call.onlySends_done_bind fun request hrequest => ?_
  exact ⟨⟨op, options, hpart, hrequest⟩, fun _ => trivial⟩

/-- Providing the role sends the request for all roles, and the one that creates the role if none
has the name. Both are requests of the entry. -/
theorem onlySends_provideRole {options : OptionSet}
    (hmerge : ownerUserDefaults.merge supplied = .ok options) :
    (provideRole context options).OnlySends (Requests context supplied .ownerUser) := by
  refine (onlySends_part .getRoles).bind fun response => ?_
  refine Call.onlySends_done_bind fun roles _ => ?_
  split
  · exact trivial
  · refine (onlySends_part (.createRole hmerge)).bind fun created => ?_
    exact trivial

/-- From the id of the role on, the call sends the request that creates the user and the one that
gives the user the role. -/
theorem onlySends_createMember {options : OptionSet}
    (hmerge : ownerUserDefaults.merge supplied = .ok options) (id : Json) :
    (createMember context options id).OnlySends (Requests context supplied .ownerUser) := by
  refine (onlySends_part (.createUser hmerge)).bind fun created => ?_
  refine Call.onlySends_done_bind fun user _ => ?_
  refine (onlySends_part (.joinRole hmerge id)).bind fun joined => ?_
  exact Call.onlySends_done_bind fun _ _ => trivial

/-- A call sends nothing but requests that its parts make of the caller's options, whatever the
server answers. `request_of_mem_sent` reads this off a run. -/
theorem onlySends_call (context : Context) (supplied : OptionSet) (entry : Entry) :
    (entry.call context supplied).OnlySends (Requests context supplied entry) := by
  cases entry with
  | single op => exact onlySends_part .single
  | ownerUser =>
    refine Call.onlySends_done_bind fun options hmerge => ?_
    refine Call.onlySends_done_bind fun _ _ => ?_
    refine (onlySends_provideRole hmerge).bind fun role => ?_
    exact Call.onlySends_done_bind fun id _ => onlySends_createMember hmerge id

/-- Every request that is sent, whatever the server answers, is one that a part of the
entry makes. -/
theorem request_of_mem_sent {entry : Entry} {σ : Type} {serve : Call.Server σ} {s : σ}
    {request : Request} (hsent : request ∈ ((entry.call context supplied).run serve s).sent) :
    ∃ op options, entry.Part supplied op options ∧ op.request context options = .ok request :=
  (onlySends_call context supplied entry).of_mem_sent serve s hsent

end Entry

end EntitlementClient
