import EntitlementClient.Proofs.Catalogue.Made

/-!
# `EntitlementClient.Proofs.Catalogue.NullMembers`: which bodies hold a member that is null

A body that is made of parts is compacted when it is complete, so null options leave no
member behind. Three operations send their parts as they are (`Operation.verbatim_all`).
One of them requires the only option that it sends. The other two do not look at one of
theirs: creating a role at its name, and updating an entitlement at its quantity
(`Operation.SendsNull`).

`Entry.null_members_iff` is the exact condition over the whole catalogue. A body made of
parts holds a member that is null when the operation is one of the two and that option is
null, and at no other time. Creating a user under an owner always names the role that it
creates, so none of its bodies does.
-/

set_option autoImplicit false

namespace EntitlementClient

open Access (createRole)
open Entitlements (updateEntitlement)
open Consumers (updateGuestId)

deriving instance DecidableEq for Operation

namespace Operation

/-- The operation makes an object of parts for its body. -/
inductive BuildsBody (op : Operation) : Prop
  | compacted {parts} (h : op.body = some (.compacted parts)) : BuildsBody op
  | verbatim {parts} (h : op.body = some (.verbatim parts)) : BuildsBody op

/-- The operation sends the member as null when the option of that name is null. -/
def SendsNull (op : Operation) (member : String) : Prop :=
  (op = createRole ∧ member = "name") ∨ (op = updateEntitlement ∧ member = "quantity")

/-- The parts of a body that is sent as it is. -/
def verbatimParts? (op : Operation) : Option (List BodyPart) :=
  match op.body with
  | some (.verbatim parts) => some parts
  | _ => none

/-- Three operations send a body that is made of parts without compacting it. The catalogue is
finite, so this is computed. -/
theorem verbatim_all : ∀ entry ∈ all, entry.2.verbatimParts? ≠ none →
    entry.2 = createRole ∨ entry.2 = updateEntitlement ∨ entry.2 = updateGuestId := by
  decide +kernel

/-! ### The bodies that are not compacted -/

variable {op : Operation} {context : Context} {supplied merged : OptionSet} {request : Request}

/-- A role is created with its name and its permissions. Neither is left out when it is null, and
the permissions become a list in any case. -/
theorem Makes.body_createRole (h : createRole.Makes context supplied merged request) :
    request.body = some (.object
      [("name", merged.value "name"),
        ("permissions", .array (merged.value "permissions").asList)]) :=
  h.body_verbatim rfl (by simp [BodyPart.members])

/-- An entitlement is updated with its id and its quantity. -/
theorem Makes.body_updateEntitlement
    (h : updateEntitlement.Makes context supplied merged request) :
    request.body = some (.object
      [("id", merged.value "id"), ("quantity", merged.value "quantity")]) := by
  have hmembers : [BodyPart.fields ["id", "quantity"]].flatMap (BodyPart.members merged) =
      [("id", merged.value "id"), ("quantity", merged.value "quantity")] := by
    rw [List.flatMap_singleton]
    exact h.wireFields (by decide)
  rw [← hmembers]
  exact h.body_verbatim rfl (by simp [hmembers])

/-- A guest is updated with its id. -/
theorem Makes.body_updateGuestId (h : updateGuestId.Makes context supplied merged request) :
    request.body = some (.object [("guestId", merged.value "guest_id")]) := by
  have hmembers : [BodyPart.fields ["guest_id"]].flatMap (BodyPart.members merged) =
      [("guestId", merged.value "guest_id")] := by
    rw [List.flatMap_singleton]
    exact h.wireFields (by decide)
  rw [← hmembers]
  exact h.body_verbatim rfl (by simp [hmembers])

/-! ### Members that are null -/

/-- A body is an object, and its members that are null are those that the operation sends
as null and whose option is null. -/
def NullMembers (op : Operation) (merged : OptionSet) (body : Option Json) : Prop :=
  ∃ members, body = some (.object members) ∧
    ∀ member, (member, .null) ∈ members ↔ op.SendsNull member ∧ merged.value member = .null

/-- A new role is sent with its name even if that is null. Nothing else in the body can be
null. -/
theorem Makes.nullMembers_createRole (h : createRole.Makes context supplied merged request) :
    createRole.NullMembers merged request.body := by
  have hne : createRole ≠ updateEntitlement := by decide
  refine ⟨_, h.body_createRole, fun member => ?_⟩
  simp only [SendsNull, hne, true_and, false_and, or_false, List.mem_cons, Prod.mk.injEq,
    List.not_mem_nil, reduceCtorEq, and_false]
  -- The permissions are a list, so only the name can be null.
  constructor
  · rintro ⟨rfl, hname⟩
    exact ⟨rfl, hname.symm⟩
  · rintro ⟨rfl, hname⟩
    exact ⟨rfl, hname.symm⟩

/-- A changed entitlement is sent with its quantity even if that is null. Its id is
required, so that is never null. -/
theorem Makes.nullMembers_updateEntitlement
    (h : updateEntitlement.Makes context supplied merged request) :
    updateEntitlement.NullMembers merged request.body := by
  have hne : updateEntitlement ≠ createRole := by decide
  have hrequired : .present ["id"] ∈ updateEntitlement.requirements := List.mem_singleton_self _
  have hid : merged.value "id" ≠ .null := h.value_ne_null hrequired (List.mem_singleton_self _)
  refine ⟨_, h.body_updateEntitlement, fun member => ?_⟩
  simp only [SendsNull, hne, true_and, false_and, false_or, List.mem_cons, Prod.mk.injEq,
    List.not_mem_nil, or_false]
  constructor
  · rintro (⟨rfl, hnull⟩ | ⟨rfl, hquantity⟩)
    · exact absurd hnull.symm hid
    · exact ⟨rfl, hquantity.symm⟩
  · rintro ⟨rfl, hquantity⟩
    exact Or.inr ⟨rfl, hquantity.symm⟩

/-- A changed guest is sent without nulls, although nothing drops them. The id of the
guest is all that the body has, and it is required. -/
theorem Makes.nullMembers_updateGuestId
    (h : updateGuestId.Makes context supplied merged request) :
    updateGuestId.NullMembers merged request.body := by
  have hne : updateGuestId ≠ createRole := by decide
  have hne' : updateGuestId ≠ updateEntitlement := by decide
  have hrequired : .present ["uuid", "guest_id"] ∈ updateGuestId.requirements :=
    List.mem_singleton_self _
  have hguest : merged.value "guest_id" ≠ .null := h.value_ne_null hrequired (by decide)
  refine ⟨_, h.body_updateGuestId, fun member => ?_⟩
  simp only [SendsNull, hne, hne', false_and, or_self, iff_false, List.mem_singleton,
    Prod.mk.injEq]
  rintro ⟨-, hnull⟩
  exact hguest hnull.symm

/-- A body that is compacted holds no member that is null, and the two operations that
send null do not compact theirs. -/
theorem Makes.nullMembers_compacted (h : op.Makes context supplied merged request)
    {parts : List BodyPart} (hbody : op.body = some (.compacted parts)) :
    op.NullMembers merged request.body := by
  refine ⟨_, h.body_compacted hbody, fun member => ⟨fun hnull => ?_, ?_⟩⟩
  · exact absurd rfl (Body.mem_compact.mp hnull).2
  · rintro ⟨⟨rfl, -⟩ | ⟨rfl, -⟩, -⟩
    · cases hbody
    · cases hbody

/-- In the bodies of the catalogue that are made of parts, the members that are null are those of
`SendsNull`. A body is compacted, and then it has none, or it is one of the three that are not. -/
theorem Makes.nullMembers {name : String} (hmem : (name, op) ∈ all)
    (h : op.Makes context supplied merged request) (hbuilds : op.BuildsBody) :
    op.NullMembers merged request.body := by
  cases hbuilds with
  | compacted hbody => exact h.nullMembers_compacted hbody
  | verbatim hbody =>
    have hparts : op.verbatimParts? ≠ none := by simp [verbatimParts?, hbody]
    have hop : op = createRole ∨ op = updateEntitlement ∨ op = updateGuestId :=
      verbatim_all _ hmem hparts
    rcases hop with rfl | rfl | rfl
    · exact h.nullMembers_createRole
    · exact h.nullMembers_updateEntitlement
    · exact h.nullMembers_updateGuestId

end Operation

namespace Entry

variable {context : Context} {supplied options merged : OptionSet} {op : Operation}
  {request : Request}

/-- Of the operations that create a user under an owner, one makes its body of parts and
does not compact it: the role is created, with a name. -/
theorem Part.cases_ownerUser (hpart : ownerUser.Part supplied op options) :
    (op = Access.createRole ∧ ∃ name, options.get? "name" = some (.string name)) ∨
      op ∈ [Access.getAllRoles, Access.createUser, Access.addRoleUser] := by
  cases hpart with
  | getRoles => exact Or.inr (by decide)
  | createRole hmerge => exact Or.inl ⟨rfl, _, rfl⟩
  | createUser hmerge => exact Or.inr (by decide)
  | joinRole hmerge id => exact Or.inr (by decide)

/-- No request that creates a user under an owner sends null. The role that is created there has a
name, which is made of the key. -/
theorem Part.not_sendsNull (hpart : ownerUser.Part supplied op options)
    (h : op.Makes context options merged request) {member : String}
    (hsends : op.SendsNull member) : merged.value member ≠ .null := by
  rcases hsends with ⟨rfl, rfl⟩ | ⟨rfl, -⟩
  · rcases hpart.cases_ownerUser with ⟨-, name, hname⟩ | hmem
    · rw [Defaults.value_of_merge h.merge, hname]
      exact fun hnull => nomatch hnull
    · exact absurd hmem (by decide)
  · rcases hpart.cases_ownerUser with ⟨hop, -⟩ | hmem
    · exact absurd hop (by decide)
    · exact absurd hmem (by decide)

/-- Take a call of the catalogue and a request that it sends, whatever the server answers.
If the body of the request is made of parts, it is an object, and a member of it is null
exactly when the request creates a role, the member is `name` and that option is null, or
when it updates an entitlement, the member is `quantity` and that option is null. No body
that is made of parts holds a null when a user is created under an owner. -/
theorem null_members_iff {name : String} {entry : Entry} (hlisted : Listed name entry)
    (context : Context) (supplied : OptionSet) {σ : Type} (serve : Call.Server σ) (s : σ) :
    ∀ request ∈ ((entry.call context supplied).run serve s).sent,
      ∃ op options merged, entry.Part supplied op options ∧
        op.Makes context options merged request ∧
        (op.BuildsBody → ∃ members, request.body = some (.object members) ∧
          (∀ member, (member, .null) ∈ members ↔
            (op = createRole ∧ member = "name" ∨
              op = updateEntitlement ∧ member = "quantity") ∧ merged.value member = .null) ∧
          (entry = .ownerUser → ∀ member, (member, .null) ∉ members)) := by
  intro request hsent
  obtain ⟨op, options, hpart, hrequest⟩ := request_of_mem_sent hsent
  obtain ⟨merged, hmakes⟩ := Operation.exists_makes hrequest
  refine ⟨op, options, merged, hpart, hmakes, fun hbuilds => ?_⟩
  obtain ⟨name', hmem⟩ := hpart.named hlisted
  obtain ⟨members, hbody, hnull⟩ := hmakes.nullMembers hmem hbuilds
  refine ⟨members, hbody, hnull, ?_⟩
  rintro rfl member hmember
  obtain ⟨hsends, hvalue⟩ := (hnull member).mp hmember
  exact hpart.not_sendsNull hmakes hsends hvalue

/-- A role is updated without a name, which is left out. -/
theorem null_members_update_role :
    let entry := Entry.single Access.updateRole
    let context : Context := ⟨none, ⟨2026, 1, 31⟩⟩
    let supplied : OptionSet := .ofList [("role_id", .string "r1"), ("users", .null)]
    let request : Request := ⟨.put, "/roles/r1", .empty,
      some (.object [("id", .string "r1"), ("users", .array []), ("permissions", .array [])]), none⟩
    Listed "update_role" entry ∧
      request ∈ ((entry.call context supplied).run replay []).sent ∧
      ∃ op options merged, entry.Part supplied op options ∧
        op.Makes context options merged request ∧
        (op.BuildsBody → ∃ members, request.body = some (.object members) ∧
          (∀ member, (member, .null) ∈ members ↔
            (op = createRole ∧ member = "name" ∨
              op = updateEntitlement ∧ member = "quantity") ∧ merged.value member = .null) ∧
          (entry = .ownerUser → ∀ member, (member, .null) ∉ members)) := by
  intro entry context supplied request
  have hlisted : Listed "update_role" entry := .single (by simp [Operation.all, Access.catalogue])
  have hsent : request ∈ ((entry.call context supplied).run replay []).sent := by decide +kernel
  exact ⟨hlisted, hsent, null_members_iff hlisted context supplied replay [] request hsent⟩

/-- A role is created without a name, which is sent as null. -/
theorem null_member_create_role :
    let entry := Entry.single Access.createRole
    Listed "create_role" entry ∧ Access.createRole.BuildsBody ∧
      ∃ request ∈ ((entry.call ⟨none, ⟨2026, 1, 31⟩⟩ .empty).run replay []).sent,
        request.body = some (.object [("name", .null), ("permissions", .array [])]) := by
  intro entry
  have hlisted : Listed "create_role" entry := .single (by simp [Operation.all, Access.catalogue])
  exact ⟨hlisted, .verbatim rfl,
    ⟨.post, "/roles", .empty, some (.object [("name", .null), ("permissions", .array [])]), none⟩,
    by decide +kernel, rfl⟩

end Entry

end EntitlementClient
