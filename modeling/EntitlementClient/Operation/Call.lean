import EntitlementClient.Operation.Basic
import EntitlementClient.Response

/-!
# `EntitlementClient.Operation.Call`: calls that send requests

A `Call` is a tree: it has a result, or it sends a request and goes on with what comes
back. Nothing else can happen in a call, so what a call sends depends on its replies
alone. `Call.run` plays a call against a server, which is any function from a state and a
request to a reply and the next state, and collects what was sent.

`replay` is the server that hands out prepared replies in order, and after them an empty
JSON object.
-/

set_option autoImplicit false

namespace EntitlementClient

universe u

/-- A computation that may send requests before it has a result. -/
inductive Call (α : Type u) : Type u where
  /-- The result. -/
  | done (result : Except ClientError α)
  /-- A request is sent, and what comes back decides how the call goes on. -/
  | send (request : Request) (next : Except ClientError Response → Call α)

namespace Call

variable {α β : Type u}

/-- The call continued with its result, if it is no error. -/
def bind : Call α → (α → Call β) → Call β
  | .done (.error e), _ => .done (.error e)
  | .done (.ok a), f => f a
  | .send request next, f => .send request fun reply => (next reply).bind f

instance : Monad Call where
  pure a := .done (.ok a)
  bind := Call.bind

/-- The call that sends one request and returns what comes back. -/
def execute (request : Request) : Call Response := .send request .done

/-! ### Running a call -/

/-- What a call sends and what it comes to. -/
structure Run (σ : Type u) (α : Type u) where
  /-- The requests sent, first sent first. -/
  sent : List Request
  /-- The result. -/
  result : Except ClientError α
  /-- The state of the server afterwards. -/
  server : σ

/-- A server: it answers a request and goes into its next state. -/
abbrev Server (σ : Type u) := σ → Request → Except ClientError Response × σ

/-- The call against a server. -/
def run {σ : Type u} (serve : Server σ) : Call α → σ → Run σ α
  | .done result, s => ⟨[], result, s⟩
  | .send request next, s =>
    let (reply, s) := serve s request
    let rest := (next reply).run serve s
    { rest with sent := request :: rest.sent }

end Call

/-- The call of an operation. -/
def Operation.call (op : Operation) (context : Context) (supplied : OptionSet) : Call Response := do
  let request ← .done (op.request context supplied)
  .execute request

/-! ### Prepared replies -/

/-- A success with an empty JSON object. -/
def Response.emptyObject : Response := ⟨⟨200⟩, some "application/json", .json (.object [])⟩

/-- The server that hands out prepared replies. -/
def replay : Call.Server (List Response)
  | [], _ => (.ok .emptyObject, [])
  | reply :: rest, _ => (.ok reply, rest)

end EntitlementClient
