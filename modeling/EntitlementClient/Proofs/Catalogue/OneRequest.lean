import EntitlementClient.Catalogue
import EntitlementClient.Proofs.Operation.Call
import EntitlementClient.Proofs.Operation.Validation

/-!
# `EntitlementClient.Proofs.Catalogue.OneRequest`: operations send one request or none

`Operation.Offered` are the operations that a caller can ask for: those in the catalogue,
and the general ones on an element of any resource and on a path as a media type. All of
them read declared options only (`Operation.Offered.readsDeclared`). For the catalogue
this is a check of its table.

`Operation.Offered.one_request_or_none` follows for every option set and every uuid. A
call sends nothing and fails with an error about the options, or it sends one request and
returns what comes back. Undeclared options are reported exactly when there are some, all
of them and in the order supplied, whatever else is wrong. No call of a client asks an
option set for a key that it does not have.
-/

set_option autoImplicit false

namespace EntitlementClient

/-! ### Errors of an exchange -/

/-- An exchange fails with an error of the transport only, so no error about options comes out of
it. -/
theorem Client.exchange_error {σ : Type} {client : Client} {peer : Peer σ} {s : σ}
    {request : Request} {e : ClientError} (h : (client.exchange peer s request).1 = .error e) :
    ∃ problem, e = .ofTransport problem := by
  unfold exchange at h
  split at h
  · cases h
    exact ⟨_, rfl⟩
  · rename_i reply s' _
    cases hreceived : client.receive request reply with
    | ok response =>
      simp only [hreceived] at h
      cases h
    | error problem =>
      simp only [hreceived] at h
      cases h
      exact ⟨problem, rfl⟩

namespace Operation

/-! ### What a caller can ask for -/

/-- The operations that a caller can ask for and that are one request. -/
inductive Offered : Operation → Prop where
  /-- An operation of the catalogue. -/
  | named {name op} (h : (name, op) ∈ all) : Offered op
  /-- Any resource, by id. -/
  | getById (resource key : String) : Offered (getById resource key)
  | deleteById (resource key : String) : Offered (deleteById resource key)
  /-- Any path, as any media type. -/
  | getAs (mediaType path : String) : Offered (getAs mediaType path)

/-- No operation of the catalogue reads an option that it does not declare. The catalogue is
finite, so this is computed. -/
theorem readsDeclared_all : ∀ entry ∈ all, entry.2.ReadsDeclared := by decide +kernel

/-- An operation on the element with an id reads the id. -/
theorem readsDeclared_byId (method : Method) (resource key : String) :
    (byId method resource key).ReadsDeclared := by
  intro read hread
  have hreads : (byId method resource key).reads = [key] := rfl
  rw [hreads] at hread
  exact hread

/-- Getting a path reads nothing. -/
theorem readsDeclared_getAs (mediaType path : String) :
    (getAs mediaType path).ReadsDeclared := by
  intro key hkey
  have hreads : (getAs mediaType path).reads = [] := rfl
  rw [hreads] at hkey
  cases hkey

/-- No operation that is offered reads an option that it does not declare. Beside those of the
catalogue there are operations that are made from a resource or a path, and they read an id at
most. -/
theorem Offered.readsDeclared {op : Operation} (h : op.Offered) : op.ReadsDeclared := by
  cases h with
  | named h => exact readsDeclared_all _ h
  | getById resource key => exact readsDeclared_byId .get resource key
  | deleteById resource key => exact readsDeclared_byId .delete resource key
  | getAs mediaType path => exact readsDeclared_getAs mediaType path

/-! ### Calls -/

variable {op : Operation}

/-- A call fails with an error about the options and sends nothing, or sends one request
and returns what comes back. The options decide which. -/
theorem ReadsDeclared.run_call_cases (hreads : op.ReadsDeclared) (context : Context)
    (supplied : OptionSet) {σ : Type} (serve : Call.Server σ) (s : σ) :
    (¬ op.Sendable context supplied ∧ ∃ e, e.IsLocal ∧ op.request context supplied = .error e ∧
      (op.call context supplied).run serve s = ⟨[], .error e, s⟩) ∨
    (op.Sendable context supplied ∧ ∃ request, op.request context supplied = .ok request ∧
      (op.call context supplied).run serve s =
        ⟨[request], (serve s request).1, (serve s request).2⟩) := by
  rw [run_call, ← hreads.request_ok_iff]
  cases hrequest : op.request context supplied with
  | error e =>
    refine Or.inl ⟨?_, e, hreads.isLocal_of_request_error hrequest, rfl, rfl⟩
    rintro ⟨request, h⟩
    cases h
  | ok request => exact Or.inr ⟨⟨request, rfl⟩, request, rfl, rfl⟩

/-- A call that a client makes reports undeclared options exactly when there are some, and then it
reports all of them. An exchange never fails with that error. -/
theorem ReadsDeclared.result_eq_unknownParameter_iff (hreads : op.ReadsDeclared)
    (context : Context) (supplied : OptionSet) {σ : Type} (client : Client) (peer : Peer σ) (s : σ)
    (keys : List String) :
    ((op.call context supplied).run (client.exchange peer) s).result =
        .error (.unknownParameter keys) ↔
      op.undeclared supplied ≠ [] ∧ keys = op.undeclared supplied := by
  rw [← hreads.request_eq_unknownParameter_iff context]
  rcases hreads.run_call_cases context supplied (client.exchange peer) s with
    ⟨-, e, -, hrequest, hrun⟩ | ⟨-, request, hrequest, hrun⟩
  · rw [hrun, hrequest]
    simp only [Except.error.injEq]
  · rw [hrun, hrequest]
    refine ⟨fun h => ?_, fun h => (nomatch h)⟩
    -- What a client gets back from an exchange is no error about options.
    obtain ⟨problem, hproblem⟩ := Client.exchange_error h
    have hlocal : (ClientError.unknownParameter keys).IsLocal := trivial
    rw [hproblem] at hlocal
    exact absurd hlocal (ClientError.not_isLocal_ofTransport problem)

/-- A call that a client makes never asks for a key that is absent: what it reads is declared, and
what is declared has a value after merging. -/
theorem ReadsDeclared.result_ne_missingKey (hreads : op.ReadsDeclared) (context : Context)
    (supplied : OptionSet) {σ : Type} (client : Client) (peer : Peer σ) (s : σ)
    (keys : List String) :
    ((op.call context supplied).run (client.exchange peer) s).result ≠
      .error (.missingKey keys) := by
  intro h
  rcases hreads.run_call_cases context supplied (client.exchange peer) s with
    ⟨-, e, hlocal, -, hrun⟩ | ⟨-, request, -, hrun⟩
  · rw [hrun] at h
    cases h
    exact hlocal
  · rw [hrun] at h
    obtain ⟨problem, hproblem⟩ := Client.exchange_error h
    exact ClientError.ofTransport_ne_missingKey problem keys hproblem.symm

/-- Take an operation that is offered, any options, any uuid and any date. Against any
server, the call sends nothing and fails with an error about the options, or it sends one
request and its result is what the server gives for it. The second happens exactly when
the request can be made. The call fails with the undeclared options if there are some, and
sends nothing then. When a client makes the call, this is the only way to see that error,
and an absent key is never reported. -/
theorem Offered.one_request_or_none (hoffered : op.Offered) (context : Context)
    (supplied : OptionSet) :
    (∀ {σ : Type} (serve : Call.Server σ) (s : σ),
      (¬ op.Sendable context supplied ∧
        ∃ e, e.IsLocal ∧ (op.call context supplied).run serve s = ⟨[], .error e, s⟩) ∨
      (op.Sendable context supplied ∧ ∃ request, (op.call context supplied).run serve s =
        ⟨[request], (serve s request).1, (serve s request).2⟩)) ∧
    (∀ {σ : Type} (serve : Call.Server σ) (s : σ), op.undeclared supplied ≠ [] →
      (op.call context supplied).run serve s =
        ⟨[], .error (.unknownParameter (op.undeclared supplied)), s⟩) ∧
    ∀ {σ : Type} (client : Client) (peer : Peer σ) (s : σ) (keys : List String),
      (((op.call context supplied).run (client.exchange peer) s).result =
          .error (.unknownParameter keys) ↔
        op.undeclared supplied ≠ [] ∧ keys = op.undeclared supplied) ∧
      ((op.call context supplied).run (client.exchange peer) s).result ≠
        .error (.missingKey keys) := by
  have hreads := hoffered.readsDeclared
  refine ⟨fun serve s => ?_, fun serve s hundeclared => ?_, fun client peer s keys => ?_⟩
  · rcases hreads.run_call_cases context supplied serve s with
      ⟨hnot, e, hlocal, -, hrun⟩ | ⟨hsendable, request, -, hrun⟩
    · exact Or.inl ⟨hnot, e, hlocal, hrun⟩
    · exact Or.inr ⟨hsendable, request, hrun⟩
  · rw [run_call, request_of_undeclared hundeclared]
  · exact ⟨hreads.result_eq_unknownParameter_iff context supplied client peer s keys,
      hreads.result_ne_missingKey context supplied client peer s keys⟩

/-- Getting a user without a user name and with two options that do not exist reports the
two, and sends nothing. -/
theorem Offered.one_request_or_none_get_user :
    let supplied : OptionSet :=
      .ofList [("name", .string "Ada"), ("username", .null), ("mail", .null)]
    Access.getUser.Offered ∧ Access.getUser.undeclared supplied = ["name", "mail"] ∧
      (Access.getUser.call ⟨none, ⟨2026, 1, 31⟩⟩ supplied).run replay [] =
        ⟨[], .error (.unknownParameter ["name", "mail"]), []⟩ := by
  dsimp only
  have hmem : ("get_user", Access.getUser) ∈ all := by simp [all, Access.catalogue]
  have hoffered : Access.getUser.Offered := .named hmem
  refine ⟨hoffered, by decide, ?_⟩
  exact (one_request_or_none hoffered ⟨none, ⟨2026, 1, 31⟩⟩ _).2.1 replay [] (by decide)

end Operation

end EntitlementClient
