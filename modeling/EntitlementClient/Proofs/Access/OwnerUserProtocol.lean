import EntitlementClient.Proofs.Access.OwnerUser

/-!
# `EntitlementClient.Proofs.Access.OwnerUserProtocol`: the protocol of a user under an owner

`Follows` states what it means that a run follows the protocol of an ask. It sends the
requests of the protocol in order, and each exactly when every answer before was a success
with JSON. It creates the user for a role with an id only. The first answer that does not
serve ends it with the error of that answer. A success means that all requests were sent
and answered with successes, and the result is the created user with the password of the
ask. `createUserUnderOwner_follows` proves this for every option set and all answers. Each
clause is one lemma about the endings of a call.

The user name and the id of the role become parts of a path, and whether they can is
checked only when the last request is made. So the call can fail with an error about
options after the user was created. `isLocal_after_request_iff` gives the exact condition,
and `isLocal_after_request_without_username` is a call for which it holds.
-/

set_option autoImplicit false

namespace EntitlementClient.Access.OwnerUserAsk

/-! ### What the answers determine -/

section

variable {ask : OwnerUserAsk} {answers : Answers}

/-- The first request is the one for all roles. -/
theorem getRoles_prefix_roleRequests : [getRoles] <+: ask.roleRequests answers := by
  unfold roleRequests
  split
  · exact ⟨[ask.createRole], rfl⟩
  · exact List.prefix_rfl

/-- The requests up to the role are the first of the protocol. The others depend on the id of that
role. -/
theorem roleRequests_prefix_protocol : ask.roleRequests answers <+: ask.protocol answers :=
  List.prefix_append _ _

/-- When no role has the name, all roles are asked for and then the role is created. -/
theorem roleRequests_of_missing (h : ask.Missing answers) :
    ask.roleRequests answers = [getRoles, ask.createRole] := by
  obtain ⟨roles, hroles, -⟩ := id h
  rw [roleRequests, if_pos ((existing?_eq_none_iff hroles).mpr h)]

/-- When one of the roles has the name, all roles are all that is asked for. -/
theorem roleRequests_of_not_missing {roles : Json} (hroles : (answers 0).json? = some roles)
    (h : ¬ ask.Missing answers) : ask.roleRequests answers = [getRoles] := by
  rw [roleRequests, if_neg fun hnone => h ((existing?_eq_none_iff hroles).mp hnone)]

/-- There is no role when the roles are refused. -/
theorem role?_of_roles_refused {e : ClientError} (h : (answers 0).RefusedAsJson e) :
    ask.role? answers = none := by
  rw [role?, h.json?_eq_none]
  rfl

/-- There is no role when none has the name and creating it is refused. -/
theorem role?_of_role_refused {e : ClientError} (hmissing : ask.Missing answers)
    (h : (answers 1).RefusedAsJson e) : ask.role? answers = none := by
  obtain ⟨roles, hroles, hnone⟩ := hmissing
  rw [role?, hroles, h.json?_eq_none, Option.bind_some, find?_eq_none_iff.mpr hnone]
  rfl

/-- The role that is given was found by the first request or created by the second. In either case
the answer to the last request up to the role is JSON. -/
theorem GivenRole.cases {role : Json} (h : ask.GivenRole answers role) :
    (¬ ask.Missing answers ∧ ask.roleRequests answers = [getRoles] ∧
      ∃ roles, (answers 0).json? = some roles) ∨
    (ask.Missing answers ∧ ask.roleRequests answers = [getRoles, ask.createRole] ∧
      (answers 1).json? = some role) := by
  cases h with
  | @found roles before after hroles hsplit hname hfirst =>
    have hnot : ¬ ask.Missing answers := by
      rintro ⟨roles', hroles', hnone⟩
      obtain rfl := Option.some.inj (hroles.symm.trans hroles')
      exact hnone role (hsplit ▸ List.mem_append_right before List.mem_cons_self) hname
    exact Or.inl ⟨hnot, roleRequests_of_not_missing hroles hnot, roles, hroles⟩
  | created hmissing hrole => exact Or.inr ⟨hmissing, roleRequests_of_missing hmissing, hrole⟩

/-- When the role is known, all requests up to it have come back with JSON. -/
theorem json?_of_role? {role : Json} (h : ask.role? answers = some role) {n : Nat}
    (hn : n < (ask.roleRequests answers).length) : ∃ v, (answers n).json? = some v := by
  rcases (role?_eq_some_iff.mp h).cases with
    ⟨-, hrequests, roles, hroles⟩ | ⟨⟨roles, hroles, -⟩, hrequests, hrole⟩
  · rw [hrequests, List.length_singleton] at hn
    have hzero : n = 0 := by omega
    rw [hzero]
    exact ⟨roles, hroles⟩
  · rw [hrequests] at hn
    have hcases : n = 0 ∨ n = 1 := by
      simp only [List.length_cons, List.length_nil] at hn
      omega
    rcases hcases with rfl | rfl
    · exact ⟨roles, hroles⟩
    · exact ⟨role, hrole⟩

/-- A known id is the one of a known role. -/
theorem role?_of_roleId? {id : Json} (h : ask.roleId? answers = some id) :
    ∃ role, ask.role? answers = some role ∧ role.member? "id" = some id :=
  Option.bind_eq_some_iff.mp h

/-- With a known id the protocol goes on after the role. -/
theorem protocol_of_roleId? {id : Json} (h : ask.roleId? answers = some id) :
    ask.protocol answers = ask.roleRequests answers ++ ask.memberRequests id := by
  rw [protocol, h]

/-- Creating the user is not among the requests up to the role. -/
theorem createUser_not_mem_roleRequests : ask.createUser ∉ ask.roleRequests answers := by
  have hpath : ∀ request ∈ ask.roleRequests answers, request.path = "/roles" := by
    intro request hrequest
    unfold roleRequests at hrequest
    split at hrequest
    · simp only [List.mem_cons, List.not_mem_nil, or_false] at hrequest
      rcases hrequest with rfl | rfl
      · rfl
      · rfl
    · rw [List.mem_singleton] at hrequest
      rw [hrequest]
      rfl
  -- The two kinds of requests differ in their paths.
  intro hmem
  have husers : "/users" = "/roles" := hpath _ hmem
  exact absurd husers (by decide)

/-- When the id of the role and the user name both are path segments, the protocol ends with
giving the role to the user. -/
theorem protocol_of_texts {id : Json} {idText username : String}
    (hid : ask.roleId? answers = some id) (hidText : OptionSet.segmentText? id = some idText)
    (husername : OptionSet.segmentText? ask.username = some username) :
    ask.protocol answers =
      ask.roleRequests answers ++ [ask.createUser, joinRole idText username] := by
  rw [protocol_of_roleId? hid, memberRequests, hidText, husername]

/-- When one of them is no path segment, the protocol ends with creating the user. The request
that would give the role cannot be made. -/
theorem protocol_of_no_text {id : Json} (hid : ask.roleId? answers = some id)
    (h : OptionSet.segmentText? id = none ∨ OptionSet.segmentText? ask.username = none) :
    ask.protocol answers = ask.roleRequests answers ++ [ask.createUser] := by
  have hrequests : ask.memberRequests id = [ask.createUser] := by
    unfold memberRequests
    rcases h with h | h
    · rw [h]
    · rw [h]
      cases OptionSet.segmentText? id with
      | none => rfl
      | some idText => rfl
  rw [protocol_of_roleId? hid, hrequests]

end

/-! ### What every ending has in common -/

section

variable {ask : OwnerUserAsk} {answers : Answers} {run : Call.Run Nat Json}

/-- Every ending has sent the whole protocol, or stopped at an answer that was no success
with JSON. -/
theorem Ending.complete_or_stopped (h : Ending ask answers run) :
    run.sent = ask.protocol answers ∨
      ∃ n, run.sent.length = n + 1 ∧ (answers n).json? = none := by
  cases h with
  | rolesRefused hroles => exact Or.inr ⟨0, rfl, hroles.json?_eq_none⟩
  | roleRefused hmissing hrole => exact Or.inr ⟨1, rfl, hrole.json?_eq_none⟩
  | roleWithoutId hrole hid =>
    have hunknown : ask.roleId? answers = none := by
      rw [roleId?, hrole]
      exact hid
    have hprotocol : ask.protocol answers = ask.roleRequests answers := by
      rw [protocol, hunknown, List.append_nil]
    exact Or.inl hprotocol.symm
  | userRefused hid huser =>
    refine Or.inr ⟨(ask.roleRequests answers).length, ?_, huser.json?_eq_none⟩
    simp only [List.length_append, List.length_singleton]
  | notJoinable hid huser htext hvalues => exact Or.inl (protocol_of_no_text hid htext).symm
  | joinRefused hid huser hidText husername hjoin =>
    exact Or.inl (protocol_of_texts hid hidText husername).symm
  | joined hid huser hidText husername hjoin =>
    exact Or.inl (protocol_of_texts hid hidText husername).symm

/-- Every ending has sent the first requests of the protocol, in its order and no others. -/
theorem Ending.sent_prefix (h : Ending ask answers run) : run.sent <+: ask.protocol answers := by
  have hall : run.sent = ask.protocol answers → run.sent <+: ask.protocol answers := fun hsent =>
    ⟨[], (List.append_nil _).trans hsent⟩
  -- The endings that stop early are the three in which an answer is refused.
  cases h with
  | rolesRefused hroles =>
    exact getRoles_prefix_roleRequests.trans roleRequests_prefix_protocol
  | roleRefused hmissing hrole =>
    have hrequests := roleRequests_of_missing hmissing
    exact hrequests ▸ roleRequests_prefix_protocol
  | roleWithoutId hrole hid => exact roleRequests_prefix_protocol
  | userRefused hid huser =>
    rw [protocol_of_roleId? hid]
    exact (List.prefix_append_right_inj _).mpr ⟨_, rfl⟩
  | notJoinable hid huser htext hvalues => exact hall (protocol_of_no_text hid htext).symm
  | joinRefused hid huser hidText husername hjoin =>
    exact hall (protocol_of_texts hid hidText husername).symm
  | joined hid huser hidText husername hjoin =>
    exact hall (protocol_of_texts hid hidText husername).symm

/-- Every answer but the last was a success with JSON. Any other answer would have ended
the call. -/
theorem Ending.json?_of_lt (h : Ending ask answers run) {n : Nat} (hn : n + 1 < run.sent.length) :
    ∃ v, (answers n).json? = some v := by
  -- After the role, the answers are those up to the role and the one about the user.
  have hlater : ∀ {id user}, ask.roleId? answers = some id →
      (answers (ask.roleRequests answers).length).json? = some user →
      n ≤ (ask.roleRequests answers).length → ∃ v, (answers n).json? = some v := by
    intro id user hid huser hle
    rcases Nat.lt_or_eq_of_le hle with hlt | rfl
    · obtain ⟨role, hrole, -⟩ := role?_of_roleId? hid
      exact json?_of_role? hrole hlt
    · exact ⟨user, huser⟩
  cases h with
  | rolesRefused hroles =>
    simp only [List.length_singleton] at hn
    omega
  | roleRefused hmissing hrole =>
    obtain ⟨roles, hroles, -⟩ := hmissing
    simp only [List.length_cons, List.length_nil] at hn
    have hzero : n = 0 := by omega
    rw [hzero]
    exact ⟨roles, hroles⟩
  | roleWithoutId hrole hid =>
    dsimp only at hn
    exact json?_of_role? hrole (by omega)
  | userRefused hid huser =>
    simp only [List.length_append, List.length_singleton] at hn
    obtain ⟨role, hrole, -⟩ := role?_of_roleId? hid
    exact json?_of_role? hrole (by omega)
  | notJoinable hid huser htext hvalues =>
    simp only [List.length_append, List.length_singleton] at hn
    exact hlater hid huser (by omega)
  | joinRefused hid huser hidText husername hjoin =>
    simp only [List.length_append, List.length_cons, List.length_nil] at hn
    exact hlater hid huser (by omega)
  | joined hid huser hidText husername hjoin =>
    simp only [List.length_append, List.length_cons, List.length_nil] at hn
    exact hlater hid huser (by omega)

/-- A request of the protocol is sent exactly when every answer before it was a success with JSON.
So what is sent is decided by the answers alone. -/
theorem Ending.sent_iff (h : Ending ask answers run) {n : Nat}
    (hn : n < (ask.protocol answers).length) :
    n < run.sent.length ↔ ∀ m < n, ∃ v, (answers m).json? = some v := by
  constructor
  · intro hsent m hm
    exact h.json?_of_lt (by omega)
  · intro hjson
    rcases h.complete_or_stopped with hall | ⟨m, hlength, hstopped⟩
    · rw [hall]
      exact hn
    · rw [hlength]
      refine Nat.lt_of_not_le fun hlater => ?_
      obtain ⟨v, hv⟩ := hjson m (by omega)
      rw [hstopped] at hv
      cases hv

/-- The role is created exactly when none of the roles that came back has the name. Without roles,
for the request for them was refused, nothing is created. -/
theorem Ending.creates_iff (h : Ending ask answers run) :
    ask.createRole ∈ run.sent ↔ ask.Missing answers := by
  have hroles : ask.createRole ≠ getRoles := fun heq => nomatch congrArg Request.method heq
  -- After a known role, what is sent beside the requests up to it does not create a role.
  have hlater : ∀ {role rest}, ask.role? answers = some role → ask.createRole ∉ rest →
      (ask.createRole ∈ ask.roleRequests answers ++ rest ↔ ask.Missing answers) := by
    intro role rest hrole hrest
    rw [List.mem_append, or_iff_left hrest]
    rcases (role?_eq_some_iff.mp hrole).cases with
      ⟨hnot, hrequests, -⟩ | ⟨hmissing, hrequests, -⟩
    · rw [hrequests, List.mem_singleton]
      exact ⟨fun heq => absurd heq hroles, fun hmissing => absurd hmissing hnot⟩
    · rw [hrequests]
      exact ⟨fun _ => hmissing, fun _ => List.mem_cons_of_mem _ List.mem_cons_self⟩
  have huser : ask.createRole ≠ ask.createUser := by
    intro heq
    have hpath : "/roles" = "/users" := congrArg Request.path heq
    exact absurd hpath (by decide)
  have hjoin : ∀ idText username, ask.createRole ≠ joinRole idText username :=
    fun _ _ heq => nomatch congrArg Request.body heq
  have hknown : ∀ {id}, ask.roleId? answers = some id → ∃ role, ask.role? answers = some role := by
    intro id hid
    obtain ⟨role, hrole, -⟩ := role?_of_roleId? hid
    exact ⟨role, hrole⟩
  cases h with
  | rolesRefused hrefused =>
    rw [List.mem_singleton]
    refine ⟨fun heq => absurd heq hroles, fun ⟨roles, hjson, _⟩ => ?_⟩
    rw [hrefused.json?_eq_none] at hjson
    cases hjson
  | roleRefused hmissing hrefused =>
    exact ⟨fun _ => hmissing, fun _ => List.mem_cons_of_mem _ List.mem_cons_self⟩
  | roleWithoutId hrole hid =>
    have hiff := hlater hrole (List.not_mem_nil (a := ask.createRole))
    rwa [List.append_nil] at hiff
  | userRefused hid hrefused =>
    obtain ⟨role, hrole⟩ := hknown hid
    exact hlater hrole (by simp [huser])
  | notJoinable hid hjson htext hvalues =>
    obtain ⟨role, hrole⟩ := hknown hid
    exact hlater hrole (by simp [huser])
  | joinRefused hid hjson hidText husername hrefused =>
    obtain ⟨role, hrole⟩ := hknown hid
    exact hlater hrole (by simp [huser, hjoin])
  | joined hid hjson hidText husername hcontent =>
    obtain ⟨role, hrole⟩ := hknown hid
    exact hlater hrole (by simp [huser, hjoin])

/-- The user is created for a role with an id only, and what is sent from there on is for
that id. -/
theorem Ending.role_has_id (h : Ending ask answers run) (hmem : ask.createUser ∈ run.sent) :
    ∃ role id, ask.GivenRole answers role ∧ role.HasMember "id" id ∧
      run.sent <+: ask.roleRequests answers ++ ask.memberRequests id := by
  have hprefix := h.sent_prefix
  -- The user is created only in the endings in which the id of the role is known.
  have hknown : ∀ {id}, ask.roleId? answers = some id →
      ∃ role id, ask.GivenRole answers role ∧ role.HasMember "id" id ∧
        run.sent <+: ask.roleRequests answers ++ ask.memberRequests id := by
    intro id hid
    obtain ⟨role, hrole, hmember⟩ := role?_of_roleId? hid
    rw [protocol_of_roleId? hid] at hprefix
    exact ⟨role, id, role?_eq_some_iff.mp hrole, Json.member?_eq_some_iff.mp hmember, hprefix⟩
  cases h with
  | rolesRefused hroles =>
    have hmem' : ask.createUser ∈ ask.roleRequests answers :=
      getRoles_prefix_roleRequests.subset hmem
    exact absurd hmem' createUser_not_mem_roleRequests
  | roleRefused hmissing hrole =>
    rw [← roleRequests_of_missing hmissing] at hmem
    exact absurd hmem createUser_not_mem_roleRequests
  | roleWithoutId hrole hid => exact absurd hmem createUser_not_mem_roleRequests
  | userRefused hid huser => exact hknown hid
  | notJoinable hid huser htext hvalues => exact hknown hid
  | joinRefused hid huser hidText username hjoin => exact hknown hid
  | joined hid huser hidText username hjoin => exact hknown hid

/-- A role without an id ends the call. The error says for which role, and the user is not
created. -/
theorem Ending.no_id (h : Ending ask answers run) {role : Json}
    (hrole : ask.role? answers = some role) (hid : role.member? "id" = none) :
    run.sent = ask.roleRequests answers ∧
      run.result = .error (.decode (.roleWithoutId ask.roleName)) := by
  have hunknown : ask.roleId? answers = none := by
    rw [roleId?, hrole]
    exact hid
  -- Before this ending there is no role yet, and after it the role has an id.
  cases h with
  | rolesRefused hroles =>
    rw [role?_of_roles_refused hroles] at hrole
    cases hrole
  | roleRefused hmissing hrefused =>
    rw [role?_of_role_refused hmissing hrefused] at hrole
    cases hrole
  | roleWithoutId hrole' hid' => exact ⟨rfl, rfl⟩
  | userRefused hid' huser => simp [hunknown] at hid'
  | notJoinable hid' huser htext hvalues => simp [hunknown] at hid'
  | joinRefused hid' huser hidText husername hjoin => simp [hunknown] at hid'
  | joined hid' huser hidText husername hjoin => simp [hunknown] at hid'

/-- The first answer that is refused, up to the one about the user, ends the call with its error.
Nothing is sent after it. -/
theorem Ending.refused (h : Ending ask answers run) {n : Nat} {e : ClientError}
    (hn : n < run.sent.length) (huser : n ≤ (ask.roleRequests answers).length)
    (hrefused : (answers n).RefusedAsJson e) :
    run.sent.length = n + 1 ∧ run.result = .error e := by
  -- Nothing is sent after an answer without JSON, so the refused one is the last.
  have hnone := hrefused.json?_eq_none
  have hlast : run.sent.length = n + 1 := by
    refine Nat.le_antisymm (Nat.le_of_not_lt fun hlater => ?_) hn
    obtain ⟨v, hv⟩ := h.json?_of_lt hlater
    rw [hnone] at hv
    cases hv
  refine ⟨hlast, ?_⟩
  -- The ending is then the one with a refusal at this place, and that has one error.
  cases h with
  | @rolesRefused e' hroles =>
    have hzero : n = 0 := by simpa using hlast.symm
    subst hzero
    rw [hroles.unique hrefused]
  | roleRefused hmissing hrole =>
    have hone : n = 1 := by simpa using hlast.symm
    subst hone
    rw [hrole.unique hrefused]
  | roleWithoutId hrole hid =>
    obtain ⟨v, hv⟩ := json?_of_role? hrole hn
    rw [hnone] at hv
    cases hv
  | @userRefused id e' hid huserRefused =>
    have hn' : n = (ask.roleRequests answers).length := by simpa using hlast.symm
    subst hn'
    rw [huserRefused.unique hrefused]
  | notJoinable hid huserJson htext hvalues =>
    have hn' : n = (ask.roleRequests answers).length := by simpa using hlast.symm
    subst hn'
    rw [hnone] at huserJson
    cases huserJson
  | joinRefused hid huserJson hidText husername hjoin =>
    simp only [List.length_append, List.length_cons, List.length_nil] at hlast
    omega
  | joined hid huserJson hidText husername hjoin =>
    simp only [List.length_append, List.length_cons, List.length_nil] at hlast
    omega

/-- A call that sent a request after the one about the user has asked to give it the role. That
answer is judged by its status alone, so it need not be JSON. -/
theorem Ending.join_sent (h : Ending ask answers run)
    (hn : (ask.roleRequests answers).length + 1 < run.sent.length) :
    (∃ e, (answers ((ask.roleRequests answers).length + 1)).RefusedAsContent e ∧
      run.result = .error e) ∨
    (answers ((ask.roleRequests answers).length + 1)).IsContent ∧
      ∃ user, run.result = .ok user := by
  -- Two requests up to the role and one after it are more than the early endings have sent.
  have hpositive : 0 < (ask.roleRequests answers).length :=
    getRoles_prefix_roleRequests.length_le
  cases h with
  | rolesRefused hroles =>
    simp only [List.length_singleton] at hn
    omega
  | roleRefused hmissing hrole =>
    simp only [List.length_cons, List.length_nil] at hn
    omega
  | roleWithoutId hrole hid =>
    dsimp only at hn
    omega
  | userRefused hid huser => simp at hn
  | notJoinable hid huser htext hvalues => simp at hn
  | joinRefused hid huser hidText husername hjoin => exact Or.inl ⟨_, hjoin, rfl⟩
  | joined hid huser hidText husername hjoin => exact Or.inr ⟨hjoin, _, rfl⟩

/-- A call that succeeds has run the whole protocol, and each answer was a success. The result is
the user of the answer to its creation, with the password put in. -/
theorem Ending.of_ok (h : Ending ask answers run) {user : Json} (hok : run.result = .ok user) :
    run.sent = ask.protocol answers ∧
      run.sent.length = (ask.roleRequests answers).length + 2 ∧
      (∀ n < run.sent.length, (answers n).IsSuccess) ∧
      ∃ created, (answers (ask.roleRequests answers).length).json? = some created ∧
        HandsOver ask.password created user := by
  have hbefore : ∀ n, n + 1 < run.sent.length → (answers n).IsSuccess := by
    intro n hn
    obtain ⟨v, hv⟩ := h.json?_of_lt hn
    exact Answer.isSuccess_of_json? hv
  cases h with
  | @joined id created idText username hid huser hidText husername hjoin =>
    simp only [List.length_append, List.length_cons, List.length_nil] at hbefore
    cases hok
    refine ⟨(protocol_of_texts hid hidText husername).symm, by simp, ?_, created, huser,
      withPassword_eq_iff.mp rfl⟩
    intro n hn
    simp only [List.length_append, List.length_cons, List.length_nil] at hn
    -- The last answer need not be JSON.
    rcases Nat.lt_or_eq_of_le (Nat.le_of_lt_succ hn) with hlt | rfl
    · exact hbefore n (by omega)
    · exact hjoin.isSuccess
  | _ => cases hok

end

/-! ### The protocol -/

/-- A run follows the protocol of an ask, as far as the answers allow. -/
structure Follows (ask : OwnerUserAsk) (answers : Answers) (run : Call.Run Nat Json) : Prop where
  /-- The requests sent are those of the protocol, from the first. -/
  sent_prefix : run.sent <+: ask.protocol answers
  /-- A request of the protocol is sent exactly when every answer before was a success
  with JSON. -/
  sent_iff : ∀ n < (ask.protocol answers).length,
    (n < run.sent.length ↔ ∀ m < n, ∃ v, (answers m).json? = some v)
  /-- The role is created exactly when the roles are known and none of them has the name. -/
  creates_iff : ask.createRole ∈ run.sent ↔ ask.Missing answers
  /-- The user is created for a role with an id only: the first that has the name, or else
  the one that is created. Everything that is sent from there on is for the id of that
  role. -/
  role_has_id : ask.createUser ∈ run.sent → ∃ role id, ask.GivenRole answers role ∧
    role.HasMember "id" id ∧ run.sent <+: ask.roleRequests answers ++ ask.memberRequests id
  /-- Such a role without id ends the call. -/
  no_id : ∀ role, ask.GivenRole answers role → (∀ id, ¬ role.HasMember "id" id) →
    run.sent = ask.roleRequests answers ∧
      run.result = .error (.decode (.roleWithoutId ask.roleName))
  /-- The first answer that is refused, up to the one about the user, ends the call. -/
  refused : ∀ n e, n < run.sent.length → n ≤ (ask.roleRequests answers).length →
    (answers n).RefusedAsJson e → run.sent.length = n + 1 ∧ run.result = .error e
  /-- A refusal to give the role to the user ends the call. -/
  join_refused : ∀ e, (ask.roleRequests answers).length + 1 < run.sent.length →
    (answers ((ask.roleRequests answers).length + 1)).RefusedAsContent e → run.result = .error e
  /-- A success means that the whole protocol was run and each answer was a success, and
  the result is the user as the server described it, with the password that was asked
  for. -/
  ok : ∀ user, run.result = .ok user →
    run.sent = ask.protocol answers ∧
      run.sent.length = (ask.roleRequests answers).length + 2 ∧
      (∀ n < run.sent.length, (answers n).IsSuccess) ∧
      ∃ created, (answers (ask.roleRequests answers).length).json? = some created ∧
        HandsOver ask.password created user
  /-- A call that gets as far as giving the role to the user succeeds unless that is refused. -/
  joined : (ask.roleRequests answers).length + 1 < run.sent.length →
    (answers ((ask.roleRequests answers).length + 1)).IsContent → ∃ user, run.result = .ok user

/-- A call with accepted options follows the protocol: each ending has all that `Follows` says. -/
theorem Ending.follows {ask : OwnerUserAsk} {answers : Answers} {run : Call.Run Nat Json}
    (h : Ending ask answers run) : ask.Follows answers run where
  sent_prefix := h.sent_prefix
  sent_iff n hn := h.sent_iff hn
  creates_iff := h.creates_iff
  role_has_id hmem := h.role_has_id hmem
  no_id role hrole hid := h.no_id (role?_eq_some_iff.mpr hrole) (Json.member?_eq_none_iff.mpr hid)
  refused n e hn huser hrefused := h.refused hn huser hrefused
  join_refused e hn hrefused := by
    rcases h.join_sent hn with ⟨e', hrefused', hresult⟩ | ⟨hjoin, -⟩
    · rw [hresult, hrefused.unique hrefused']
    · exact absurd hrefused hjoin.not_refused
  ok user hok := h.of_ok hok
  joined hn hjoin := by
    rcases h.join_sent hn with ⟨e, hrefused, -⟩ | ⟨-, hresult⟩
    · exact absurd hrefused hjoin.not_refused
    · exact hresult

/-- Take any context, any options and any answers. When the options are not accepted,
nothing is sent and the error is one about options. When they are, the call follows the
protocol of what they ask for. -/
theorem createUserUnderOwner_follows (context : Context) (supplied : OptionSet)
    (answers : Answers) :
    (¬ Accepted supplied → (runWith context answers supplied).sent = [] ∧
      ∃ e, e.IsLocal ∧ (runWith context answers supplied).result = .error e) ∧
    (Accepted supplied → (of supplied).Follows answers (runWith context answers supplied)) := by
  constructor
  · intro hrejected
    obtain ⟨e, hlocal, hrun⟩ := runWith_of_not_accepted context answers hrejected
    rw [hrun]
    exact ⟨rfl, e, hlocal, rfl⟩
  · intro haccepted
    exact (ending_of_accepted context answers haccepted).follows

/-- Two of the roles have the name, and the user comes back with a password. The first of
the roles is given, and the password in the answer gives way to the one that was asked
for. A call without a key sends nothing. -/
theorem createUserUnderOwner_follows_two_roles :
    let supplied : OptionSet := .ofList
      [("username", .string "ada"), ("password", .string "pw"), ("key", .string "acme")]
    let role (id name : String) : Json := .object [("id", .string id), ("name", .string name)]
    let reply (v : Json) : Answer := .ok ⟨⟨200⟩, some "application/json", .json v⟩
    let answers : Answers := fun n => reply (
      if n = 0 then .array [role "r0" "ops", role "r1" "acme-ALL", role "r2" "acme-ALL"]
      else .object [("password", .null), ("n", .ofNat n)])
    let run := runWith ⟨none, ⟨2026, 1, 31⟩⟩ answers supplied
    Accepted supplied ∧ (of supplied).Follows answers run ∧
      run.sent = [getRoles, (of supplied).createUser, joinRole "r1" "ada"] ∧
      run.result = .ok (.object [("password", .string "pw"), ("n", .ofNat 1)]) ∧
      ¬ Accepted .empty ∧ (runWith ⟨none, ⟨2026, 1, 31⟩⟩ answers .empty).sent = [] := by
  dsimp only
  have haccepted : Accepted (.ofList
      [("username", .string "ada"), ("password", .string "pw"), ("key", .string "acme")]) :=
    ⟨rfl, by decide +kernel⟩
  have hrejected : ¬ Accepted .empty := fun h => h.2 rfl
  exact ⟨haccepted, (createUserUnderOwner_follows _ _ _).2 haccepted, rfl, rfl, hrejected,
    ((createUserUnderOwner_follows _ _ _).1 hrejected).1⟩

/-- No role has the name, so the role is created before the user. -/
example :
    let supplied : OptionSet :=
      .ofList [("username", .string "ada"), ("super_admin", .bool true), ("key", .string "acme")]
    let reply (v : Json) : Answer := .ok ⟨⟨200⟩, some "application/json", .json v⟩
    let answers : Answers := fun n =>
      reply (if n = 1 then .object [("id", .string "r1")] else .object [("n", .ofNat n)])
    runWith ⟨none, ⟨2026, 1, 31⟩⟩ answers supplied =
      ⟨[getRoles, (of supplied).createRole, (of supplied).createUser, joinRole "r1" "ada"],
        .ok (.object [("n", .ofNat 2), ("password", .null)]), 4⟩ := rfl

/-! ### Errors about options after requests -/

/-- The user is created, and then cannot be given the role: the id of the role or the name
of the user is no path segment. -/
def Unjoinable (ask : OwnerUserAsk) (answers : Answers) : Prop :=
  (∃ id, ask.roleId? answers = some id ∧
    (OptionSet.segmentText? id = none ∨ OptionSet.segmentText? ask.username = none)) ∧
  ∃ user, (answers (ask.roleRequests answers).length).json? = some user

/-- An error about options after the first request means that the user cannot be given the
role. -/
theorem Ending.unjoinable_of_isLocal {ask : OwnerUserAsk} {answers : Answers}
    {run : Call.Run Nat Json} (h : Ending ask answers run) {e : ClientError} (hlocal : e.IsLocal)
    (hresult : run.result = .error e) :
    ask.Unjoinable answers ∧ run.sent = ask.roleRequests answers ++ [ask.createUser] := by
  -- A refusal is no error about options, and a role without an id is one of decoding.
  cases h with
  | rolesRefused hroles =>
    cases hresult
    exact absurd hlocal hroles.not_isLocal
  | roleRefused hmissing hrole =>
    cases hresult
    exact absurd hlocal hrole.not_isLocal
  | roleWithoutId hrole hid =>
    cases hresult
    exact hlocal.elim
  | userRefused hid huser =>
    cases hresult
    exact absurd hlocal huser.not_isLocal
  | @notJoinable id user e' hid huser htext hvalues => exact ⟨⟨⟨id, hid, htext⟩, user, huser⟩, rfl⟩
  | joinRefused hid huser hidText husername hjoin =>
    cases hresult
    exact absurd hlocal hjoin.not_isLocal
  | joined hid huser hidText husername hjoin => cases hresult

/-- When the user cannot be given the role, the call ends with an error about options, although it
has sent requests by then. -/
theorem Ending.isLocal_of_unjoinable {ask : OwnerUserAsk} {answers : Answers}
    {run : Call.Run Nat Json} (h : Ending ask answers run) (hunjoinable : ask.Unjoinable answers) :
    ∃ e, e.IsLocal ∧ run.result = .error e := by
  obtain ⟨⟨id, hid, htext⟩, user, huser⟩ := hunjoinable
  obtain ⟨role, hrole, hmember⟩ := role?_of_roleId? hid
  -- The role has an id and the user came back, so of the endings only one is left.
  cases h with
  | rolesRefused hroles =>
    rw [role?_of_roles_refused hroles] at hrole
    cases hrole
  | roleRefused hmissing hrefused =>
    rw [role?_of_role_refused hmissing hrefused] at hrole
    cases hrole
  | roleWithoutId hrole' hid' =>
    rw [hrole'] at hrole
    cases hrole
    rw [hid'] at hmember
    cases hmember
  | userRefused hid' hrefused =>
    rw [hrefused.json?_eq_none] at huser
    cases huser
  | notJoinable hid' huser' htext' hvalues => exact ⟨_, hvalues.isLocal, rfl⟩
  | joinRefused hid' huser' hidText husername hjoin =>
    -- Both values are path segments here, which is what cannot be.
    rw [hid] at hid'
    cases hid'
    simp [hidText, husername] at htext
  | joined hid' huser' hidText husername hjoin =>
    rw [hid] at hid'
    cases hid'
    simp [hidText, husername] at htext

/-- Take any context, any options and any answers. The call ends with an error about
options after it has sent a request exactly when the options are accepted and the user
cannot be given the role. The user has been created then. -/
theorem isLocal_after_request_iff (context : Context) (supplied : OptionSet) (answers : Answers) :
    (((runWith context answers supplied).sent ≠ [] ∧
        ∃ e, e.IsLocal ∧ (runWith context answers supplied).result = .error e) ↔
      Accepted supplied ∧ (of supplied).Unjoinable answers) ∧
    (Accepted supplied ∧ (of supplied).Unjoinable answers →
      (runWith context answers supplied).sent =
        (of supplied).roleRequests answers ++ [(of supplied).createUser]) := by
  -- When the user cannot be given the role, both the error and the requests follow.
  have hlate : Accepted supplied ∧ (of supplied).Unjoinable answers →
      (∃ e, e.IsLocal ∧ (runWith context answers supplied).result = .error e) ∧
      (runWith context answers supplied).sent =
        (of supplied).roleRequests answers ++ [(of supplied).createUser] := by
    rintro ⟨haccepted, hunjoinable⟩
    have hending := ending_of_accepted context answers haccepted
    obtain ⟨e, hlocal, hresult⟩ := hending.isLocal_of_unjoinable hunjoinable
    exact ⟨⟨e, hlocal, hresult⟩, (hending.unjoinable_of_isLocal hlocal hresult).2⟩
  refine ⟨⟨?_, fun h => ?_⟩, fun h => (hlate h).2⟩
  · rintro ⟨hsent, e, hlocal, hresult⟩
    by_cases haccepted : Accepted supplied
    · have hending := ending_of_accepted context answers haccepted
      exact ⟨haccepted, (hending.unjoinable_of_isLocal hlocal hresult).1⟩
    · -- Options that are not accepted send nothing, but something was sent.
      obtain ⟨e', -, hrun⟩ := runWith_of_not_accepted context answers haccepted
      rw [hrun] at hsent
      exact absurd rfl hsent
  · obtain ⟨hlocal, hsent⟩ := hlate h
    refine ⟨?_, hlocal⟩
    rw [hsent]
    simp

/-- A caller who leaves out the user name is told so after the user has been created. -/
theorem isLocal_after_request_without_username :
    let supplied : OptionSet := .ofList [("key", .string "admin"), ("password", .string "pw")]
    let role : Json := .object [("id", .string "r1"), ("name", .string "admin-ALL")]
    let reply (v : Json) : Answer := .ok ⟨⟨200⟩, some "application/json", .json v⟩
    let answers : Answers := fun n => reply (if n = 0 then .array [role] else .object [])
    let run := runWith ⟨none, ⟨2026, 1, 31⟩⟩ answers supplied
    run.result = .error (.missingRequiredParameter ["username"]) ∧
      run.sent = [getRoles, (of supplied).createUser] ∧
      ¬ ((∃ e, e.IsLocal ∧ run.result = .error e) → run.sent = []) := by
  dsimp only
  refine ⟨rfl, rfl, fun hvalidated => ?_⟩
  have hnothing := hvalidated ⟨.missingRequiredParameter ["username"], trivial, rfl⟩
  have hlength : 2 = 0 := congrArg List.length hnothing
  cases hlength

end EntitlementClient.Access.OwnerUserAsk
