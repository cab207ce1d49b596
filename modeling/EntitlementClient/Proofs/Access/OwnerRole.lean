import EntitlementClient.Proofs.Access.OwnerUserRequests
import EntitlementClient.Proofs.Operation.Call

/-!
# `EntitlementClient.Proofs.Access.OwnerRole`: the role of an owner and the password of a user

Two functions of the catalogue decide what creating a user under an owner does with the
answers: `findRole?` searches a list of roles for a name, and `withPassword` puts the
password into the user that the server describes. This file says what they return in terms
of lists alone.

`findRole?_eq_some_iff` splits the list at the role that is found: it has the name, and
none before it has. `withPassword_eq_iff` splits the members of the user in the same way,
at the first `password`.

An answer with roles is read through `OwnerUserAsk.GivenRole`, the role that the user is
given, and `OwnerUserAsk.Missing`, which says that there is none to be found.
`role?_eq_some_iff` and `existing?_eq_none_iff` tie them to the functions of the answers
that the protocol is written with.
-/

set_option autoImplicit false

namespace EntitlementClient

/-! ### Members and elements -/

/-- The value is an object, and the first of its members with the name has the other value. -/
def Json.HasMember (v : Json) (name : String) (value : Json) : Prop :=
  ∃ before after, v = .object (before ++ (name, value) :: after) ∧ name ∉ before.map Prod.fst

/-- The elements of a list. No other value has any. -/
def Json.elements : Json → List Json
  | .array items => items
  | _ => []

/-- A look-up in an object finds the value of the first member with the name. What is not an
object has no members, so nothing is found in it. -/
theorem Json.member?_eq_some_iff {v value : Json} {name : String} :
    v.member? name = some value ↔ v.HasMember name value := by
  cases v with
  | object members =>
    rw [member?, OrderedMap.findEntry_eq_some_iff_append]
    constructor
    · rintro ⟨before, after, rfl, hbefore⟩
      exact ⟨before, after, rfl, hbefore⟩
    · rintro ⟨before, after, hmembers, hbefore⟩
      cases hmembers
      exact ⟨before, after, rfl, hbefore⟩
  | _ =>
    constructor
    · intro h
      cases h
    · rintro ⟨before, after, hobject, -⟩
      cases hobject

/-- A look-up finds nothing exactly when no member has the name. For a value that is not an object
this is always so. -/
theorem Json.member?_eq_none_iff {v : Json} {name : String} :
    v.member? name = none ↔ ∀ value, ¬ v.HasMember name value := by
  rw [Option.eq_none_iff_forall_ne_some]
  exact forall_congr' fun value => not_congr member?_eq_some_iff

instance (v : Json) (name : String) (value : Json) : Decidable (v.HasMember name value) :=
  decidable_of_iff _ Json.member?_eq_some_iff

namespace Access

/-! ### Finding a role -/

/-- Roles are searched from the front for one whose member `name` is the name as a string. What is
not a list has no roles. -/
theorem findRole?_eq_find? (name : String) (roles : Json) :
    findRole? name roles =
      roles.elements.find? fun role => role.HasMember "name" (.string name) := by
  cases roles with
  | array items =>
    refine congrArg (items.find? ·) (funext fun role => ?_)
    exact decide_eq_decide.mpr Json.member?_eq_some_iff
  | _ => rfl

/-- The role that is found has the name, and none of the roles before it in the list has. So among
several roles with the name the first is the one that counts. -/
theorem findRole?_eq_some_iff {name : String} {roles role : Json} :
    findRole? name roles = some role ↔
      ∃ before after, roles.elements = before ++ role :: after ∧
        role.HasMember "name" (.string name) ∧
        ∀ other ∈ before, ¬ other.HasMember "name" (.string name) := by
  rw [findRole?_eq_find?, List.find?_eq_some_iff_append]
  constructor
  · rintro ⟨hname, before, after, hroles, hbefore⟩
    exact ⟨before, after, hroles, of_decide_eq_true hname, fun other hmem => by
      simpa using hbefore other hmem⟩
  · rintro ⟨before, after, hroles, hname, hbefore⟩
    exact ⟨decide_eq_true hname, before, after, hroles, fun other hmem => by
      simpa using hbefore other hmem⟩

/-- No role is found exactly when none in the list has the name. A role whose name is missing, or
is no string, does not have it. -/
theorem findRole?_eq_none_iff {name : String} {roles : Json} :
    findRole? name roles = none ↔
      ∀ role ∈ roles.elements, ¬ role.HasMember "name" (.string name) := by
  rw [findRole?_eq_find?, List.find?_eq_none]
  exact forall₂_congr fun role _ => by simp

/-! ### Handing out a password -/

/-- A user and the same user as it is handed to the caller. An object has the password in
the place of the one that the server sent, or after all other members. Any other value
stays as it is. -/
inductive HandsOver (password : Json) : Json → Json → Prop where
  /-- There is a password already, and it is replaced. -/
  | replaced {before after old} (h : "password" ∉ before.map Prod.fst) :
      HandsOver password (.object (before ++ ("password", old) :: after))
        (.object (before ++ ("password", password) :: after))
  /-- There is none yet. -/
  | added {members} (h : "password" ∉ members.map Prod.fst) :
      HandsOver password (.object members) (.object (members ++ [("password", password)]))
  /-- The value has no members. -/
  | kept {user} (h : user.isObject = false) : HandsOver password user user

/-- The user that is handed over is the one of the server with the password put in: in
place where the server sent a password, and else as a last member. What is no object is
handed over as it is. -/
theorem withPassword_eq_iff {password user handed : Json} :
    withPassword password user = handed ↔ HandsOver password user handed := by
  constructor
  · rintro rfl
    cases user with
    | object members =>
      rw [withPassword]
      -- Setting a member depends on whether one of the name is there.
      cases hfound : OrderedMap.findEntry "password" members with
      | none =>
        have habsent := OrderedMap.findEntry_eq_none_iff.mp hfound
        rw [OrderedMap.insertEntry_of_not_mem habsent]
        exact .added habsent
      | some old =>
        obtain ⟨before, after, rfl, hbefore⟩ :=
          OrderedMap.findEntry_eq_some_iff_append.mp hfound
        rw [OrderedMap.insertEntry_append_cons hbefore]
        exact .replaced hbefore
    | _ => exact .kept rfl
  · rintro (hbefore | habsent | hnot)
    · rw [withPassword, OrderedMap.insertEntry_append_cons hbefore]
    · rw [withPassword, OrderedMap.insertEntry_of_not_mem habsent]
    · cases user with
      | object members => cases hnot
      | _ => rfl

namespace OwnerUserAsk

/-! ### The role that the answers give -/

variable (ask : OwnerUserAsk) (answers : Answers)

/-- A role with the name that is asked for. -/
def Names (role : Json) : Prop := role.HasMember "name" (.string ask.roleName)

instance : DecidablePred ask.Names := fun role =>
  inferInstanceAs (Decidable (role.HasMember "name" (.string ask.roleName)))

/-- The first answer has roles, or something else in their place, and none of them has the
name. -/
def Missing : Prop :=
  ∃ roles, (answers 0).json? = some roles ∧ ∀ role ∈ roles.elements, ¬ ask.Names role

/-- The role that the user is given. -/
inductive GivenRole (role : Json) : Prop where
  /-- The first of the roles that has the name. -/
  | found {roles before after} (hroles : (answers 0).json? = some roles)
      (hsplit : roles.elements = before ++ role :: after) (hname : ask.Names role)
      (hfirst : ∀ other ∈ before, ¬ ask.Names other)
  /-- The role that is created when none has it. -/
  | created (hmissing : ask.Missing answers) (hrole : (answers 1).json? = some role)

/-- The first of the roles that the server has with the name. -/
def existing? : Option Json :=
  (answers 0).json?.bind fun roles => roles.elements.find? fun role => ask.Names role

/-- The role that the user is given: one that exists, or else the one that is created. -/
def role? : Option Json :=
  (answers 0).json?.bind fun roles =>
    (roles.elements.find? fun role => ask.Names role).or (answers 1).json?

/-- The catalogue searches for the role by the name that is asked for. -/
theorem findRole?_roleName (roles : Json) :
    findRole? ask.roleName roles = roles.elements.find? fun role => ask.Names role :=
  findRole?_eq_find? ask.roleName roles

variable {ask answers}

/-- Searching the roles for the name finds none exactly when none has it. -/
theorem find?_eq_none_iff {roles : Json} :
    (roles.elements.find? fun role => ask.Names role) = none ↔
      ∀ role ∈ roles.elements, ¬ ask.Names role := by
  rw [List.find?_eq_none]
  exact forall₂_congr fun role _ => by simp

/-- Take an answer that has roles. The search of the code finds none of them exactly when the role
is missing among them. -/
theorem existing?_eq_none_iff {roles : Json} (hroles : (answers 0).json? = some roles) :
    ask.existing? answers = none ↔ ask.Missing answers := by
  rw [existing?, hroles, Option.bind_some, find?_eq_none_iff]
  constructor
  · exact fun hnone => ⟨roles, hroles, hnone⟩
  · rintro ⟨roles', hroles', hnone⟩
    obtain rfl := Option.some.inj (hroles.symm.trans hroles')
    exact hnone

/-- The role that the call goes on with is the one that `GivenRole` describes by the answers: the
first with the name, and if none has the name the one that was created. -/
theorem role?_eq_some_iff {role : Json} :
    ask.role? answers = some role ↔ ask.GivenRole answers role := by
  rw [role?, Option.bind_eq_some_iff]
  constructor
  · rintro ⟨roles, hroles, hrole⟩
    rcases Option.or_eq_some_iff.mp hrole with hfound | ⟨hnone, hcreated⟩
    · obtain ⟨hname, before, after, hsplit, hfirst⟩ := List.find?_eq_some_iff_append.mp hfound
      exact .found hroles hsplit (of_decide_eq_true hname) fun other hmem => by
        simpa using hfirst other hmem
    · exact .created ⟨roles, hroles, find?_eq_none_iff.mp hnone⟩ hcreated
  · rintro (⟨hroles, hsplit, hname, hfirst⟩ | ⟨⟨roles, hroles, hnone⟩, hcreated⟩)
    · refine ⟨_, hroles, Option.or_eq_some_iff.mpr (Or.inl ?_)⟩
      exact List.find?_eq_some_iff_append.mpr ⟨decide_eq_true hname, _, _, hsplit,
        fun other hmem => by simpa using hfirst other hmem⟩
    · exact ⟨roles, hroles, Option.or_eq_some_iff.mpr
        (Or.inr ⟨find?_eq_none_iff.mpr hnone, hcreated⟩)⟩

end OwnerUserAsk

end Access

end EntitlementClient
