import EntitlementClient.Operation.Call

/-!
# `EntitlementClient.Proofs.Operation.Sent`: what a call may send

`Call.OnlySends P` says of a call that each request in its tree has the property `P`,
whatever comes back from the requests before. It is read off the tree, so it needs no
server. Calls in a row have it when both have it (`OnlySends.bind`), and a step without a
request matters by its result only (`onlySends_done_bind`). Every run then sends requests
with the property, against any server (`OnlySends.of_mem_sent`).
-/

set_option autoImplicit false

namespace EntitlementClient

universe u

namespace Call

variable {σ α β : Type u} {P : Request → Prop}

/-- Whatever comes back, the call sends requests with the property only. -/
def OnlySends (P : Request → Prop) : Call α → Prop
  | .done _ => True
  | .send request next => P request ∧ ∀ reply, (next reply).OnlySends P

/-- A call that goes on with another sends only what the two send. -/
theorem OnlySends.bind {call : Call α} {next : α → Call β} (h : call.OnlySends P)
    (hnext : ∀ a, (next a).OnlySends P) : (call >>= next).OnlySends P := by
  induction call with
  | done result =>
    cases result with
    | ok a => exact hnext a
    | error e => exact trivial
  | send request rest ih =>
    obtain ⟨hrequest, hrest⟩ := h
    exact ⟨hrequest, fun reply => ih reply (hrest reply)⟩

/-- A step without a request hands on its result, if it has one. Only the requests after
it count. -/
theorem onlySends_done_bind {result : Except ClientError α} {next : α → Call β}
    (h : ∀ a, result = .ok a → (next a).OnlySends P) :
    ((Call.done result : Call α) >>= next).OnlySends P := by
  cases result with
  | ok a => exact h a rfl
  | error e => exact trivial

/-- What holds of all that a call can send holds of each request in a run of it, against
any server. -/
theorem OnlySends.of_mem_sent {call : Call α} (h : call.OnlySends P) (serve : Server σ) (s : σ)
    {request : Request} (hsent : request ∈ (call.run serve s).sent) : P request := by
  induction call generalizing s with
  | done result => cases hsent
  | send first rest ih =>
    obtain ⟨hfirst, hrest⟩ := h
    -- The first request, or one of the run that goes on with its reply.
    have hcases : request = first ∨
        request ∈ ((rest (serve s first).1).run serve (serve s first).2).sent :=
      List.mem_cons.mp hsent
    rcases hcases with rfl | hlater
    · exact hfirst
    · exact ih _ (hrest _) _ hlater

end Call

end EntitlementClient
