import EntitlementClient.Client.Basic
import EntitlementClient.Proofs.Error
import EntitlementClient.Proofs.Outcome

/-!
# `EntitlementClient.Proofs.Operation.Call`: how calls run

The run of a call and what follows it is the run of the call, and if that has a result,
the run of what follows with the requests of the first before its own (`Call.run_bind`).
The call of an operation sends one request or none (`Operation.run_call`).

An `Answer` is what comes back from one exchange, and `Answers` are those of a whole run
in their order. Whether an answer serves depends on what is asked of its content: JSON
(`Answer.json?`), or anything but raw bytes (`Answer.IsContent`). An answer serves or is
refused (`Answer.serves_or_refused`), and `Answer.Refused` names the one error that a
refused answer ends a call with. It is never an error about options
(`Refused.not_isLocal`). `Answers.run_execute_read` is one step of a call against answers:
a request is sent and its answer is read.
-/

set_option autoImplicit false

namespace EntitlementClient

universe u

namespace Call

variable {σ α β : Type u}

/-! ### Calls in a row -/

/-- The run with requests before its own. -/
def Run.after (before : List Request) (run : Run σ α) : Run σ α :=
  { run with sent := before ++ run.sent }

/-- A call and what follows it run one after the other. If the call fails, nothing follows. -/
theorem run_bind (serve : Server σ) (call : Call α) (next : α → Call β) (s : σ) :
    (call >>= next).run serve s =
      match call.run serve s with
      | ⟨sent, .ok a, s'⟩ => ((next a).run serve s').after sent
      | ⟨sent, .error e, s'⟩ => ⟨sent, .error e, s'⟩ := by
  -- On the tree of the call: what follows it is put at the leaves.
  induction call generalizing s with
  | done result =>
    cases result with
    | ok a => rfl
    | error e => rfl
  | send request rest ih =>
    have hrest := ih (serve s request).1 (serve s request).2
    show Run.after [request]
      ((rest (serve s request).1 >>= next).run serve (serve s request).2) = _
    rw [hrest]
    simp only [run]
    split
    · rename_i hrun
      rw [hrun]
      simp [Run.after]
    · rename_i hrun
      rw [hrun]
      rfl

/-- Results that follow from each other without a request are one result. -/
theorem done_bind_done (x : Except ClientError α) (f : α → Except ClientError β) :
    (done x >>= fun a => done (f a)) = .done (x >>= f) := by
  cases x with
  | ok a => rfl
  | error e => rfl

end Call

/-- The call of an operation sends its request and returns what comes back. If there is no
request it sends nothing. -/
theorem Operation.run_call {σ : Type} (op : Operation) (context : Context) (supplied : OptionSet)
    (serve : Call.Server σ) (s : σ) :
    (op.call context supplied).run serve s =
      match op.request context supplied with
      | .ok request => ⟨[request], (serve s request).1, (serve s request).2⟩
      | .error e => ⟨[], .error e, s⟩ := by
  unfold call
  cases op.request context supplied with
  | ok request => rfl
  | error e => rfl

/-- The call of an operation whose request is known sends that request, and gives the response. -/
theorem Operation.call_eq_execute {op : Operation} {context : Context} {supplied : OptionSet}
    {request : Request} (h : op.request context supplied = .ok request) :
    op.call context supplied = .execute request := by
  unfold call
  rw [h]
  rfl

/-- Calls that are one request each are the same exactly when their requests are. So a statement
about calls says all about their requests. -/
theorem Operation.call_eq_iff {op op' : Operation} {context context' : Context}
    {supplied supplied' : OptionSet} {request request' : Request}
    (h : op.request context supplied = .ok request)
    (h' : op'.request context' supplied' = .ok request') :
    op.call context supplied = op'.call context' supplied' ↔ request = request' := by
  rw [call_eq_execute h, call_eq_execute h']
  constructor
  · intro heq
    injection heq
  · rintro rfl
    rfl

/-- The call of an operation whose request cannot be made fails with the reason, and sends
nothing. -/
theorem Operation.call_eq_error {op : Operation} {context : Context} {supplied : OptionSet}
    {e : ClientError} (h : op.request context supplied = .error e) :
    op.call context supplied = .done (.error e) := by
  unfold call
  rw [h]
  rfl

/-- A request asks for the media type of its operation. -/
theorem Operation.accept_of_request {op : Operation} {context : Context} {supplied : OptionSet}
    {request : Request} (h : op.request context supplied = .ok request) :
    request.accept = op.accept := by
  simp only [Operation.request, plan, bind_eq_ok_iff] at h
  obtain ⟨_, -, _, -, _, -, _, -, hrequest⟩ := h
  cases hrequest
  rfl

/-! ### Answers -/

/-- A success has its content. -/
theorem Response.ok_of_isSuccess {response : Response} (h : response.isSuccess = true) :
    response.ok = .ok response.content := by
  unfold ok
  rw [if_pos h]

/-- Anything else has the error of its status, with the text of the body. -/
theorem Response.ok_of_not_isSuccess {response : Response} (h : response.isSuccess = false) :
    response.ok = .error (.unexpectedStatus response.status (bodyText response.content)) := by
  unfold ok
  rw [h]
  rfl

/-- A response is no success, or it has no JSON, or it gives its JSON. The status is
judged first. -/
theorem Response.okJson_cases (response : Response) :
    (response.isSuccess = false ∧ response.okJson =
        .error (.unexpectedStatus response.status (bodyText response.content))) ∨
      (response.isSuccess = true ∧ (∀ v, response.content ≠ .json v) ∧
        response.okJson = .error (.decode (.notJson response.content))) ∨
      (response.isSuccess = true ∧ ∃ v, response.content = .json v ∧ response.okJson = .ok v) := by
  unfold okJson
  cases hsuccess : response.isSuccess with
  | false =>
    rw [ok_of_not_isSuccess hsuccess]
    exact Or.inl ⟨rfl, rfl⟩
  | true =>
    rw [ok_of_isSuccess hsuccess]
    cases response.content with
    | json v => exact Or.inr (Or.inr ⟨rfl, v, rfl, rfl⟩)
    | text | binary | empty => exact Or.inr (Or.inl ⟨rfl, fun _ h => (nomatch h), rfl⟩)

/-- What comes back from an exchange: a response, or the error that the exchange failed with. -/
abbrev Answer := Except TransportError Response

/-- What keeps the content of a response from being JSON. -/
def Response.jsonProblem? (response : Response) : Option DecodeError :=
  match response.content with
  | .json _ => none
  | content => some (.notJson content)

/-- What keeps the content of a response from being a value: raw bytes are none. -/
def Response.contentProblem? (response : Response) : Option DecodeError :=
  match response.content with
  | .binary bytes => some (.binaryContent bytes.length response.status)
  | _ => none

namespace Answer

/-- A success. -/
def IsSuccess (answer : Answer) : Prop :=
  ∃ response, answer = .ok response ∧ response.isSuccess = true

/-- A success whose content has no problem. -/
def Serves (problem? : Response → Option DecodeError) (answer : Answer) : Prop :=
  ∃ response, answer = .ok response ∧ response.isSuccess = true ∧ problem? response = none

/-- The error of an answer that does not serve. -/
inductive Refused (problem? : Response → Option DecodeError) : Answer → ClientError → Prop where
  /-- The exchange failed. -/
  | exchange {e} : Refused problem? (.error e) (.ofTransport e)
  /-- The response is no success. -/
  | status {response} (h : response.isSuccess = false) :
      Refused problem? (.ok response)
        (.unexpectedStatus response.status (Response.bodyText response.content))
  /-- The content of a success has a problem. -/
  | content {response problem} (h : response.isSuccess = true)
      (hproblem : problem? response = some problem) :
      Refused problem? (.ok response) (.decode problem)

/-- The error of an answer that had to be a success with JSON and is not. -/
abbrev RefusedAsJson : Answer → ClientError → Prop := Refused Response.jsonProblem?

/-- The error of an answer that had to be a success with content and is not. -/
abbrev RefusedAsContent : Answer → ClientError → Prop := Refused Response.contentProblem?

/-- A success whose content is not raw bytes. -/
abbrev IsContent : Answer → Prop := Serves Response.contentProblem?

/-- The JSON value of a success. -/
def json? : Answer → Option Json
  | .ok response => if response.isSuccess then response.json? else none
  | .error _ => none

section

variable {problem? : Response → Option DecodeError} {answer : Answer} {e e' : ClientError}

/-- An answer that serves is a success. -/
theorem Serves.isSuccess (h : answer.Serves problem?) : answer.IsSuccess := by
  obtain ⟨response, hanswer, hsuccess, -⟩ := h
  exact ⟨response, hanswer, hsuccess⟩

/-- An answer serves or is refused, whatever it is asked for. With `Serves.not_refused` it does
one of the two. -/
theorem serves_or_refused (problem? : Response → Option DecodeError) (answer : Answer) :
    answer.Serves problem? ∨ ∃ e, answer.Refused problem? e := by
  cases answer with
  | error e => exact Or.inr ⟨_, .exchange⟩
  | ok response =>
    cases hsuccess : response.isSuccess with
    | false => exact Or.inr ⟨_, .status hsuccess⟩
    | true =>
      cases hproblem : problem? response with
      | none => exact Or.inl ⟨response, rfl, hsuccess, hproblem⟩
      | some problem => exact Or.inr ⟨_, .content hsuccess hproblem⟩

/-- An answer that serves is not refused. -/
theorem Serves.not_refused (h : answer.Serves problem?) : ¬ answer.Refused problem? e := by
  obtain ⟨response, rfl, hsuccess, hnone⟩ := h
  intro hrefused
  cases hrefused with
  | status hfailure => simp [hsuccess] at hfailure
  | content _ hproblem => simp [hnone] at hproblem

/-- An answer is refused with one error only. -/
theorem Refused.unique (h : answer.Refused problem? e) (h' : answer.Refused problem? e') :
    e = e' := by
  cases h with
  | exchange =>
    cases h'
    rfl
  | status hfailure =>
    cases h' with
    | status => rfl
    | content hsuccess => simp [hsuccess] at hfailure
  | content hsuccess hproblem =>
    cases h' with
    | status hfailure => simp [hsuccess] at hfailure
    | content _ hproblem' =>
      rw [hproblem] at hproblem'
      cases hproblem'
      rfl

/-- No refusal is an error about options. So an error about options comes from the client. -/
theorem Refused.not_isLocal (h : answer.Refused problem? e) : ¬ e.IsLocal := by
  cases h with
  | exchange => exact ClientError.not_isLocal_ofTransport _
  | status => exact id
  | content => exact id

/-- An answer serves as JSON exactly when it has a JSON value. -/
theorem serves_json_iff : answer.Serves Response.jsonProblem? ↔ ∃ v, answer.json? = some v := by
  cases answer with
  | error e => simp [Serves, json?]
  | ok response =>
    obtain ⟨status, contentType, content⟩ := response
    cases content <;> simp [Serves, json?, Response.jsonProblem?, Response.json?]

/-- JSON comes with a success. -/
theorem isSuccess_of_json? {v : Json} (h : answer.json? = some v) : answer.IsSuccess :=
  (serves_json_iff.mpr ⟨v, h⟩).isSuccess

/-- An answer has JSON or is refused. -/
theorem json?_or_refused (answer : Answer) :
    (∃ v, answer.json? = some v) ∨ ∃ e, answer.RefusedAsJson e := by
  rw [← serves_json_iff]
  exact serves_or_refused Response.jsonProblem? answer

/-- An answer that is refused as JSON has none. -/
theorem Refused.json?_eq_none (h : answer.RefusedAsJson e) : answer.json? = none := by
  cases hjson : answer.json? with
  | none => rfl
  | some v => exact absurd h (serves_json_iff.mpr ⟨v, hjson⟩).not_refused

/-! ### Reading an answer -/

/-- What a call makes of an answer. -/
def read {α : Type} (answer : Answer) (take : Response → Except ClientError α) :
    Except ClientError α := Client.lift answer >>= take

/-- Reading the JSON of an answer that has some. -/
theorem read_okJson_of_json? {v : Json} (h : answer.json? = some v) :
    answer.read Response.okJson = .ok v := by
  obtain ⟨response, rfl, hsuccess, -⟩ := serves_json_iff.mpr ⟨v, h⟩
  have hjson : response.json? = some v := by
    simpa [json?, hsuccess] using h
  show response.okJson = .ok v
  rw [Response.okJson, Response.ok_of_isSuccess hsuccess]
  cases hcontent : response.content with
  | json w =>
    simp only [Response.json?, hcontent, Option.some.injEq] at hjson
    rw [hjson]
    rfl
  | _ => simp [Response.json?, hcontent] at hjson

/-- Reading the JSON of an answer that is refused. -/
theorem Refused.read_okJson (h : answer.RefusedAsJson e) :
    answer.read Response.okJson = .error e := by
  cases h with
  | exchange => rfl
  | @status response hfailure =>
    show response.okJson = _
    rw [Response.okJson, Response.ok_of_not_isSuccess hfailure]
    rfl
  | @content response problem hsuccess hproblem =>
    show response.okJson = _
    rw [Response.okJson, Response.ok_of_isSuccess hsuccess]
    unfold Response.jsonProblem? at hproblem
    cases hcontent : response.content with
    | json v => simp [hcontent] at hproblem
    | _ =>
      simp only [hcontent, Option.some.injEq] at hproblem
      rw [← hproblem]
      rfl

/-- Reading the content of an answer that has some. -/
theorem Serves.read_okContent (h : answer.IsContent) :
    ∃ v, answer.read Response.okContent = .ok v := by
  obtain ⟨response, rfl, hsuccess, hnone⟩ := h
  show ∃ v, response.okContent = .ok v
  rw [Response.okContent, Response.ok_of_isSuccess hsuccess]
  unfold Response.contentProblem? at hnone
  cases hcontent : response.content with
  | binary bytes => simp [hcontent] at hnone
  | _ => exact ⟨_, rfl⟩

/-- Reading the content of an answer that is refused. -/
theorem Refused.read_okContent (h : answer.RefusedAsContent e) :
    answer.read Response.okContent = .error e := by
  cases h with
  | exchange => rfl
  | @status response hfailure =>
    show response.okContent = _
    rw [Response.okContent, Response.ok_of_not_isSuccess hfailure]
    rfl
  | @content response problem hsuccess hproblem =>
    show response.okContent = _
    rw [Response.okContent, Response.ok_of_isSuccess hsuccess]
    unfold Response.contentProblem? at hproblem
    cases hcontent : response.content with
    | binary bytes =>
      simp only [hcontent, Option.some.injEq] at hproblem
      rw [← hproblem]
      rfl
    | _ => simp [hcontent] at hproblem

end

end Answer

/-- The answers of a run, in the order in which they come. -/
abbrev Answers := Nat → Answer

namespace Answers

/-- The server that gives these answers, whatever it is asked. Its state is how many it
has given. -/
def server (answers : Answers) : Call.Server Nat := fun n _ => (Client.lift (answers n), n + 1)

/-- A request is sent, and the call goes on with the response if there is one. The answers are
numbered by the requests, so the next one has the next number. -/
theorem run_execute_bind {β : Type} (answers : Answers) (n : Nat) (request : Request)
    (next : Response → Call β) :
    (Call.execute request >>= next).run answers.server n =
      match answers n with
      | .ok response => ((next response).run answers.server (n + 1)).after [request]
      | .error e => ⟨[request], .error (.ofTransport e), n + 1⟩ := by
  rw [Call.run_bind]
  cases hanswer : answers n with
  | ok response => simp only [Call.execute, Call.run, server, hanswer, Client.lift]
  | error e => simp only [Call.execute, Call.run, server, hanswer, Client.lift]

/-- A request is sent and its answer is read. The call goes on with what was read, or ends
with the error of the answer. -/
theorem run_execute_read {α β : Type} (answers : Answers) (n : Nat) (request : Request)
    (take : Response → Except ClientError α) (next : α → Call β) :
    (Call.execute request >>= fun response => .done (take response) >>= next).run answers.server n =
      match (answers n).read take with
      | .ok a => ((next a).run answers.server (n + 1)).after [request]
      | .error e => ⟨[request], .error e, n + 1⟩ := by
  rw [run_execute_bind, Answer.read]
  cases answers n with
  | error e => rfl
  | ok response =>
    simp only [Client.lift]
    show _ = match take response with
      | .ok a => ((next a).run answers.server (n + 1)).after [request]
      | .error e => ⟨[request], .error e, n + 1⟩
    cases take response with
    | ok a => rfl
    | error e => rfl

/-- A request is sent, and the call ends with what was read. -/
theorem run_execute_done {α : Type} (answers : Answers) (n : Nat) (request : Request)
    (take : Response → Except ClientError α) :
    (Call.execute request >>= fun response => .done (take response)).run answers.server n =
      ⟨[request], (answers n).read take, n + 1⟩ := by
  rw [run_execute_bind, Answer.read]
  cases answers n with
  | error e => rfl
  | ok response => rfl

end Answers

end EntitlementClient
