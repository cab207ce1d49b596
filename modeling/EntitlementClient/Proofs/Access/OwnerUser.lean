import EntitlementClient.Proofs.Access.OwnerRole

/-!
# `EntitlementClient.Proofs.Access.OwnerUser`: how creating a user under an owner ends

The call asks for all roles, creates the role of the owner if it is not among them,
creates the user, and gives it the role. What it sends next depends on what came back. So
with the role that the user is given (`role?`), its id (`roleId?`), the requests up to the
role (`roleRequests`) and all of them (`protocol`) are functions of the ask and the
answers.

`Ending` lists the ways in which a call with accepted options can end, each with what was
sent, the result, and what the answers must have been. `ending_of_accepted` proves that
there is no other way. It follows the call in its two halves, `run_provideRole` and
`ending_createMember`. A call with options that are not accepted sends nothing
(`runWith_of_not_accepted`).
-/

set_option autoImplicit false

namespace EntitlementClient.Access

namespace OwnerUserAsk

/-! ### What the answers determine -/

section

variable (ask : OwnerUserAsk) (answers : Answers)

/-- The id of the role that the user is given. -/
def roleId? : Option Json := (ask.role? answers).bind (Json.member? "id")

/-- The requests up to the role: it is created unless it exists. -/
def roleRequests : List Request :=
  if ask.existing? answers = none then [getRoles, ask.createRole] else [getRoles]

/-- The requests after the role: the user is created and given the role. -/
def memberRequests (id : Json) : List Request :=
  ask.createUser ::
    match OptionSet.segmentText? id, OptionSet.segmentText? ask.username with
    | some idText, some username => [joinRole idText username]
    | _, _ => []

/-- All requests in their order. Those after the role take its id. -/
def protocol : List Request :=
  ask.roleRequests answers ++
    match ask.roleId? answers with
    | some id => ask.memberRequests id
    | none => []

end

/-! ### How a call can end -/

/-- The ways in which a call with accepted options ends. -/
inductive Ending (ask : OwnerUserAsk) (answers : Answers) : Call.Run Nat Json → Prop where
  /-- The roles are refused. -/
  | rolesRefused {e} (hroles : (answers 0).RefusedAsJson e) :
      Ending ask answers ⟨[getRoles], .error e, 1⟩
  /-- The role is not there, and creating it is refused. -/
  | roleRefused {e} (hmissing : ask.Missing answers) (hrole : (answers 1).RefusedAsJson e) :
      Ending ask answers ⟨[getRoles, ask.createRole], .error e, 2⟩
  /-- The role has no id. -/
  | roleWithoutId {role} (hrole : ask.role? answers = some role)
      (hid : role.member? "id" = none) :
      Ending ask answers ⟨ask.roleRequests answers,
        .error (.decode (.roleWithoutId ask.roleName)), (ask.roleRequests answers).length⟩
  /-- Creating the user is refused. -/
  | userRefused {id e} (hid : ask.roleId? answers = some id)
      (huser : (answers (ask.roleRequests answers).length).RefusedAsJson e) :
      Ending ask answers ⟨ask.roleRequests answers ++ [ask.createUser], .error e,
        (ask.roleRequests answers).length + 1⟩
  /-- The user is created, and then its name or the id of the role is no path segment. -/
  | notJoinable {id user e} (hid : ask.roleId? answers = some id)
      (huser : (answers (ask.roleRequests answers).length).json? = some user)
      (htext : OptionSet.segmentText? id = none ∨ OptionSet.segmentText? ask.username = none)
      (hvalues : e.RejectsValues) :
      Ending ask answers ⟨ask.roleRequests answers ++ [ask.createUser], .error e,
        (ask.roleRequests answers).length + 1⟩
  /-- Giving the role to the user is refused. -/
  | joinRefused {id user idText username e} (hid : ask.roleId? answers = some id)
      (huser : (answers (ask.roleRequests answers).length).json? = some user)
      (hidText : OptionSet.segmentText? id = some idText)
      (husername : OptionSet.segmentText? ask.username = some username)
      (hjoin : (answers ((ask.roleRequests answers).length + 1)).RefusedAsContent e) :
      Ending ask answers ⟨ask.roleRequests answers ++ [ask.createUser, joinRole idText username],
        .error e, (ask.roleRequests answers).length + 2⟩
  /-- The user has the role. -/
  | joined {id user idText username} (hid : ask.roleId? answers = some id)
      (huser : (answers (ask.roleRequests answers).length).json? = some user)
      (hidText : OptionSet.segmentText? id = some idText)
      (husername : OptionSet.segmentText? ask.username = some username)
      (hjoin : (answers ((ask.roleRequests answers).length + 1)).IsContent) :
      Ending ask answers ⟨ask.roleRequests answers ++ [ask.createUser, joinRole idText username],
        .ok (withPassword ask.password user), (ask.roleRequests answers).length + 2⟩

variable (context : Context) (options : OptionSet) (answers : Answers)

/-- The first half of the call goes in one of three ways. All roles are refused, or creating the
role is refused after none of them had the name, or there is a role to go on with. -/
theorem run_provideRole :
    (∃ e, (answers 0).RefusedAsJson e ∧
      (provideRole context options).run answers.server 0 = ⟨[getRoles], .error e, 1⟩) ∨
    (∃ e, (read options).Missing answers ∧ (answers 1).RefusedAsJson e ∧
      (provideRole context options).run answers.server 0 =
        ⟨[getRoles, (read options).createRole], .error e, 2⟩) ∨
    ∃ role, (read options).role? answers = some role ∧
      (provideRole context options).run answers.server 0 =
        ⟨(read options).roleRequests answers, .ok role,
          ((read options).roleRequests answers).length⟩ := by
  unfold provideRole
  -- Both operations are known requests, and each is one step against the answers.
  rw [Operation.call_eq_execute (getAllRoles_request context),
    Operation.call_eq_execute (createRole_request context options), Answers.run_execute_read,
    ownerRole_eq]
  rcases (answers 0).json?_or_refused with ⟨roles, hroles⟩ | ⟨e, he⟩
  · rw [Answer.read_okJson_of_json? hroles]
    dsimp only
    have hsearch := findRole?_roleName (read options) roles
    cases hfound : findRole? (read options).roleName roles with
    | some role =>
      rw [hfound] at hsearch
      have hrequests : (read options).roleRequests answers = [getRoles] := by
        simp [roleRequests, existing?, hroles, ← hsearch]
      have hrole : (read options).role? answers = some role := by
        simp [role?, hroles, ← hsearch]
      refine Or.inr (Or.inr ⟨role, hrole, ?_⟩)
      rw [hrequests]
      rfl
    | none =>
      rw [hfound] at hsearch
      dsimp only
      rw [Answers.run_execute_done]
      have hrequests : (read options).roleRequests answers =
          [getRoles, (read options).createRole] := by
        simp [roleRequests, existing?, hroles, ← hsearch]
      rcases (answers 1).json?_or_refused with ⟨role, hrole⟩ | ⟨e, he⟩
      · have hprovided : (read options).role? answers = some role := by
          simp [role?, hroles, ← hsearch, hrole]
        refine Or.inr (Or.inr ⟨role, hprovided, ?_⟩)
        rw [hrequests, Answer.read_okJson_of_json? hrole]
        rfl
      · refine Or.inr (Or.inl ⟨e, ⟨roles, hroles, find?_eq_none_iff.mp hsearch.symm⟩, he, ?_⟩)
        rw [he.read_okJson]
        rfl
  · refine Or.inl ⟨e, he, ?_⟩
    rw [he.read_okJson]

/-- The second half goes on from the id of the role: the user is created, and then given the role.
What the first half sent comes before it. -/
theorem ending_createMember {id : Json} (hid : (read options).roleId? answers = some id) :
    Ending (read options) answers
      (((createMember context options id).run answers.server
        ((read options).roleRequests answers).length).after
          ((read options).roleRequests answers)) := by
  unfold createMember
  rw [Operation.call_eq_execute (createUser_request context options), Answers.run_execute_read]
  rcases (answers ((read options).roleRequests answers).length).json?_or_refused with
    ⟨user, huser⟩ | ⟨e, huser⟩
  · rw [Answer.read_okJson_of_json? huser]
    dsimp only
    -- The user is there now. The next request can still be refused before it is sent.
    cases hrequest : addRoleUser.request context (membershipOptions id options) with
    | error e =>
      obtain ⟨htext, hvalues⟩ := joinRole_request_error context options hrequest
      rw [Operation.call_eq_error hrequest]
      exact .notJoinable hid huser htext hvalues
    | ok request =>
      obtain ⟨idText, username, hidText, husername, rfl⟩ :=
        (joinRole_request_eq_ok_iff context options).mp hrequest
      rw [Operation.call_eq_execute hrequest, Answers.run_execute_read]
      rcases Answer.serves_or_refused Response.contentProblem?
          (answers (((read options).roleRequests answers).length + 1)) with hjoin | ⟨e, hjoin⟩
      · obtain ⟨v, hread⟩ := hjoin.read_okContent
        rw [hread]
        exact .joined hid huser hidText husername hjoin
      · rw [hjoin.read_okContent]
        exact .joinRefused hid huser hidText husername hjoin
  · rw [huser.read_okJson]
    exact .userRefused hid huser

/-- The run of the call against the answers, from the first. -/
def runWith (supplied : OptionSet) : Call.Run Nat Json :=
  (createUserUnderOwner context supplied).run answers.server 0

/-- A call with options that are not accepted sends nothing. The error is one about options. -/
theorem runWith_of_not_accepted {supplied : OptionSet} (h : ¬ Accepted supplied) :
    ∃ e, e.IsLocal ∧ runWith context answers supplied = ⟨[], .error e, 0⟩ := by
  unfold runWith createUserUnderOwner
  cases hmerge : ownerUserDefaults.merge supplied with
  | error e =>
    obtain ⟨-, rfl⟩ := Defaults.merge_eq_error_iff.mp hmerge
    exact ⟨.unknownParameter _, trivial, rfl⟩
  | ok options =>
    obtain ⟨hdeclared, -⟩ := Defaults.merge_eq_ok_iff.mp hmerge
    have hkey : options.value "key" = .null := by
      have hvalue : options.value "key" = supplied.value "key" :=
        Defaults.value_of_merge hmerge "key"
      rw [hvalue]
      exact Decidable.byContradiction fun hnull => h ⟨hdeclared, hnull⟩
    have hrequire : options.require ["key"] = .error (.missingRequiredParameter ["key"]) := by
      simp [OptionSet.require, OptionSet.requireThat, OptionSet.failing, hkey, Json.isNull]
    show ∃ e, _ ∧ (Call.done (options.require ["key"]) >>= fun _ => _).run _ _ = _
    rw [hrequire]
    exact ⟨.missingRequiredParameter _, trivial, rfl⟩

/-- A call with accepted options has one of the endings. This is the two halves put together, with
the decoding of the role's id in between. -/
theorem ending_of_accepted {supplied : OptionSet} (h : Accepted supplied) :
    Ending (of supplied) answers (runWith context answers supplied) := by
  obtain ⟨hdeclared, hkey⟩ := h
  -- Accepted options pass the two checks at the beginning of the call.
  obtain ⟨options, hmerge⟩ : ∃ options, ownerUserDefaults.merge supplied = .ok options :=
    ⟨_, Defaults.merge_eq_ok_iff.mpr ⟨hdeclared, rfl⟩⟩
  have hrequire : options.require ["key"] = .ok () := by
    have hvalue : options.value "key" = supplied.value "key" := Defaults.value_of_merge hmerge "key"
    exact OptionSet.require_of_ne_null (hvalue ▸ hkey)
  unfold runWith createUserUnderOwner
  rw [hmerge]
  show Ending _ _ ((Call.done (options.require ["key"]) >>= fun _ => _).run _ _)
  rw [hrequire, ← read_of_merge hmerge]
  show Ending _ _ ((provideRole context options >>= fun role =>
    .done (roleId (ownerRole (keyText options)) role) >>= createMember context options).run _ _)
  -- The run is the one of the first half, then the one of the second with the role.
  rw [Call.run_bind, ownerRole_eq]
  rcases run_provideRole context options answers with
    ⟨e, hroles, hrun⟩ | ⟨e, hmissing, hrole, hrun⟩ | ⟨role, hrole, hrun⟩
  · rw [hrun]
    exact .rolesRefused hroles
  · rw [hrun]
    exact .roleRefused hmissing hrole
  · rw [hrun]
    dsimp only
    unfold roleId
    cases hid : role.member? "id" with
    | none =>
      show Ending _ _ ⟨(read options).roleRequests answers ++ [], _, _⟩
      rw [List.append_nil]
      exact .roleWithoutId hrole hid
    | some id =>
      have hroleId : (read options).roleId? answers = some id := by
        rw [roleId?, hrole]
        exact hid
      exact ending_createMember context options answers hroleId

end OwnerUserAsk

end EntitlementClient.Access
