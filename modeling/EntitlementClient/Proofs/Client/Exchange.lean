import EntitlementClient.Proofs.Client.History
import EntitlementClient.Proofs.Http.Reply

/-!
# `EntitlementClient.Proofs.Client.Exchange`: what comes of a reply

A reply is read in one of two ways. When the request asks for another media type than
JSON, the body is taken as it is. Else the content type of the reply decides.
`Request.ReadsJson` is the condition under which the body is read as JSON.

`Client.receive_cases` says all that can come of a reply, in the order in which it is
decided: the body is too large, it was to be JSON and is not, or there is a response,
whatever the status. The response is the one that the reply gives (`Reply.Gives`).
`Reply.ComesTo` says of each outcome when it occurs, and `Client.exchange_comesTo` shows
it for the exchanges of a client with any history. Its second part compares the two ways
of reading: a reply that is not JSON comes to the same in both.
-/

set_option autoImplicit false

namespace EntitlementClient

universe u

/-- The body of the reply is read as JSON: the request asks for nothing else, and the
reply says that it is. -/
def Request.ReadsJson (request : Request) (reply : Reply) : Prop :=
  request.accept = none ∧ reply.IsJson

namespace Reply

/-- There is a body, it was to be JSON, and it is not. -/
def IsMalformed (reply : Reply) (asJson : Prop) : Prop :=
  asJson ∧ reply.body ≠ [] ∧ Content.readJson? reply.body = none

/-- The response is the reply with its body read, as JSON if `asJson` holds. What is not
JSON keeps the bytes of the body. -/
structure Gives (reply : Reply) (asJson : Prop) (response : Response) : Prop where
  status : response.status = reply.status
  contentType : ∀ t, response.contentType = some t ↔ reply.HasContentType t
  empty : response.content = .empty ↔ reply.body = []
  json : ∀ v, response.content = .json v ↔
    reply.body ≠ [] ∧ asJson ∧ ∃ w, Content.readJson? reply.body = some w ∧ v = w.keysFromWire
  text : ∀ t, response.content = .text t ↔
    reply.body ≠ [] ∧ ¬ asJson ∧ Text.utf8 t.toList = reply.body
  binary : ∀ bytes, response.content = .binary bytes ↔
    reply.body ≠ [] ∧ ¬ asJson ∧ (∀ cs, Text.utf8 cs ≠ reply.body) ∧ bytes = reply.body
  recovered : ∀ bytes, response.content.bytes? = some bytes → bytes = reply.body

/-- What a reply comes to when its body may have `limit` bytes and is read as JSON if
`asJson` holds. -/
structure ComesTo (reply : Reply) (limit : Nat) (asJson : Prop)
    (result : Except ClientError Response) : Prop where
  tooLarge : (∃ actual, result = .error (.transport (.bodyTooLarge limit actual))) ↔
    limit < reply.body.length
  counted : ∀ actual, result = .error (.transport (.bodyTooLarge limit actual)) →
    limit < actual ∧ actual ≤ reply.body.length
  malformed : result = .error (.transport .json) ↔
    reply.body.length ≤ limit ∧ reply.IsMalformed asJson
  answered : (∃ response, result = .ok response) ↔
    reply.body.length ≤ limit ∧ ¬ reply.IsMalformed asJson
  response : ∀ response, result = .ok response → reply.Gives asJson response

/-- The response with a content that the body has. -/
theorem gives_of_holds {reply : Reply} {asJson : Prop} {content : Content}
    (h : content.Holds asJson reply.body) :
    reply.Gives asJson ⟨reply.status, reply.contentType?, content⟩ where
  status := rfl
  contentType := fun _ => contentType?_eq_some_iff
  empty := h.empty_iff
  json := h.json_iff
  text := h.text_iff
  binary := h.binary_iff
  recovered := fun _ => h.body_eq

end Reply

namespace Client

/-! ### Reading a reply -/

variable {client : Client} {request : Request} {reply : Reply}

/-- A body that is refused for its length is refused whether it is to be read as JSON or not. -/
theorem receive_of_bytes_error {e : TransportError}
    (h : reply.bytes client.connection.maxBodySize = .error e) :
    client.receive request reply = .error e := by
  simp only [receive, contentOf, Reply.negotiate, h]
  split
  · rfl
  · rfl

/-- The two ways of reading are one: a body that is asked for as something else than JSON
is read like one that is announced as something else. -/
theorem receive_of_bytes_ok (h : reply.bytes client.connection.maxBodySize = .ok reply.body) :
    client.receive request reply =
      match (Content.negotiate? (request.accept.isNone && reply.announcesJson)
        reply.body).map Content.keysFromWire with
      | some content => .ok ⟨reply.status, reply.contentType?, content⟩
      | none => .error .json := by
  simp only [receive, contentOf, Reply.negotiate, h]
  cases request.accept with
  | some mediaType =>
    rw [Option.isNone_some, Bool.false_and, Content.negotiate?_false]
    rfl
  | none =>
    rw [Option.isNone_none, Bool.true_and]
    simp only [Option.isSome_none, Bool.false_eq_true, if_false, bind, Except.bind]
    cases Content.negotiate? reply.announcesJson reply.body with
    | some content => rfl
    | none => rfl

/-- The test of the exchange says whether the reply is read as JSON: the request asks for
no media type of its own, and the reply announces JSON. -/
theorem readsJson_iff :
    (request.accept.isNone && reply.announcesJson) = true ↔ request.ReadsJson reply := by
  rw [Bool.and_eq_true, Option.isNone_iff_eq_none, Reply.announcesJson_iff]
  rfl

/-- A reply is too large, or it was to be JSON and is refused as that, or it gives a response with
a content that its body has. -/
theorem receive_cases (client : Client) (request : Request) (reply : Reply) :
    (client.connection.maxBodySize < reply.body.length ∧
        ∃ actual, client.connection.maxBodySize < actual ∧ actual ≤ reply.body.length ∧
          client.receive request reply =
            .error (.bodyTooLarge client.connection.maxBodySize actual)) ∨
      (reply.body.length ≤ client.connection.maxBodySize ∧
        reply.IsMalformed (request.ReadsJson reply) ∧
        client.receive request reply = .error .json) ∨
      (reply.body.length ≤ client.connection.maxBodySize ∧
        ¬ reply.IsMalformed (request.ReadsJson reply) ∧
        ∃ response, reply.Gives (request.ReadsJson reply) response ∧
          client.receive request reply = .ok response) := by
  -- The limit is looked at first; only a body that is within it is read.
  rcases reply.bytes_cases client.connection.maxBodySize with
    ⟨hle, hbytes⟩ | ⟨hlt, actual, hactual, hlength, hbytes⟩
  · have hreceive := @receive_of_bytes_ok client request reply hbytes
    have hnone := @Content.negotiate?_eq_none_iff (request.accept.isNone && reply.announcesJson)
      reply.body
    rw [readsJson_iff] at hnone
    cases hcontent :
        Content.negotiate? (request.accept.isNone && reply.announcesJson) reply.body with
    | none =>
      rw [hcontent] at hreceive
      exact Or.inr (Or.inl ⟨hle, hnone.mp hcontent, hreceive⟩)
    | some content =>
      have hholds := Content.holds_of_negotiate? hcontent
      rw [hcontent] at hreceive
      rw [hcontent] at hnone
      rw [readsJson_iff] at hholds
      refine Or.inr (Or.inr ⟨hle, fun hbad => ?_, _, Reply.gives_of_holds hholds, hreceive⟩)
      exact nomatch hnone.mpr hbad
  · exact Or.inl ⟨hlt, actual, hactual, hlength, receive_of_bytes_error hbytes⟩

/-- What a reply comes to in the hands of a client: an error for its length or its JSON, an error
for its status, or a response. -/
theorem receive_comesTo (client : Client) (request : Request) (reply : Reply) :
    reply.ComesTo client.connection.maxBodySize (request.ReadsJson reply)
      (lift (client.receive request reply)) := by
  -- Each of the three outcomes excludes the other two.
  rcases client.receive_cases request reply with
    ⟨hlt, actual, hactual, hlength, hreceive⟩ | ⟨hle, hbad, hreceive⟩ |
      ⟨hle, hfine, response, hgives, hreceive⟩
  · rw [hreceive]
    have hnot : ¬ reply.body.length ≤ client.connection.maxBodySize := Nat.not_le.mpr hlt
    exact {
      tooLarge := iff_of_true ⟨actual, rfl⟩ hlt
      counted := by
        rintro _ ⟨⟩
        exact ⟨hactual, hlength⟩
      malformed := iff_of_false (fun heq => nomatch heq) fun h => hnot h.1
      answered := iff_of_false (fun ⟨_, heq⟩ => nomatch heq) fun h => hnot h.1
      response := fun _ heq => nomatch heq }
  · rw [hreceive]
    exact {
      tooLarge := iff_of_false (fun ⟨_, heq⟩ => nomatch heq) (Nat.not_lt.mpr hle)
      counted := fun _ heq => nomatch heq
      malformed := iff_of_true rfl ⟨hle, hbad⟩
      answered := iff_of_false (fun ⟨_, heq⟩ => nomatch heq) fun h => h.2 hbad
      response := fun _ heq => nomatch heq }
  · rw [hreceive]
    exact {
      tooLarge := iff_of_false (fun ⟨_, heq⟩ => nomatch heq) (Nat.not_lt.mpr hle)
      counted := fun _ heq => nomatch heq
      malformed := iff_of_false (fun heq => nomatch heq) fun h => hfine h.2
      answered := iff_of_true ⟨response, rfl⟩ ⟨hle, hfine⟩
      response := by
        rintro _ ⟨⟩
        exact hgives }

/-- How a reply is received depends on the limit of the client, and on whether the request asks
for a media type. Nothing else of the two counts. -/
theorem receive_congr {other : Client} {request' : Request} (reply : Reply)
    (hlimit : client.connection.maxBodySize = other.connection.maxBodySize)
    (haccept : request.accept = request'.accept) :
    client.receive request reply = other.receive request' reply := by
  unfold receive contentOf
  rw [hlimit, haccept]

/-- A reply that is not JSON is read in the same way whatever the request asks for, because then
it is taken as text or as bytes in either case. -/
theorem receive_eq_of_not_isJson (client : Client) (request request' : Request)
    (h : ¬ reply.IsJson) : client.receive request reply = client.receive request' reply := by
  have hannounced : reply.announcesJson = false := by
    rw [← Bool.not_eq_true, Reply.announcesJson_iff]
    exact h
  rcases reply.bytes_cases client.connection.maxBodySize with
    ⟨-, hbytes⟩ | ⟨-, actual, -, -, hbytes⟩
  · rw [receive_of_bytes_ok hbytes, receive_of_bytes_ok hbytes, hannounced, Bool.and_false,
      Bool.and_false]
  · rw [receive_of_bytes_error hbytes, receive_of_bytes_error hbytes]

/-! ### Exchanges -/

/-- An exchange whose message is sent is decided by the reply that comes back. -/
theorem exchange_of_send {σ : Type u} {peer : Peer σ} {s s' : σ}
    (h : client.connection.send peer s (client.draft request) = (.ok reply, s')) :
    client.exchange peer s request = (lift (client.receive request reply), s') := by
  unfold exchange
  rw [h]

/-- Take a client from any constructor after any history, and an exchange in which a reply
is received. The reply comes to what it must, with the limit of the settings. And if the
reply is not JSON, every exchange in which it is received comes to the same, whatever is
asked for. -/
theorem exchange_comesTo {built : Client} (hbuilt : Built built) (commands : List Command)
    {σ : Type u} {peer : Peer σ} {s s' : σ} {request : Request} {reply : Reply}
    (h : (built.after commands).connection.send peer s ((built.after commands).draft request) =
      (.ok reply, s')) :
    reply.ComesTo (built.after commands).config.settings.maxBodySize.toNat
        (request.ReadsJson reply) ((built.after commands).exchange peer s request).1 ∧
      (¬ reply.IsJson → ∀ (peer' : Peer σ) (t t' : σ) (request' : Request),
        (built.after commands).connection.send peer' t ((built.after commands).draft request') =
          (.ok reply, t') →
        ((built.after commands).exchange peer' t request').1 =
          ((built.after commands).exchange peer s request).1) := by
  have hdescribes := describes_after commands hbuilt.isMade.describes
  rw [exchange_of_send h, ← hdescribes.maxBodySize]
  refine ⟨receive_comesTo _ request reply, fun hjson peer' t t' request' h' => ?_⟩
  rw [exchange_of_send h']
  exact congrArg lift (receive_eq_of_not_isJson _ request' request hjson)

/-- A failure whose text arrives in two parts, with a character cut in two, is read as
that text, and no less when an archive is asked for. -/
theorem exchange_comesTo_cut_text :
    let client : Client := ⟨⟨.default, .none⟩, .describe ⟨.default, .none⟩ none, some "c1"⟩
    let reply : Reply := ⟨⟨500⟩, [(Header.contentType, Text.utf8 "text/plain".toList)],
      [.data [0xc3], .trailers, .data [0xa9, 0x21]]⟩
    let peer : Peer Nat := fun n _ => (.ok reply, n + 1)
    let request : Request := ⟨.get, "/export", .empty, none, none⟩
    let archive : Request := { request with accept := some Operation.applicationZip }
    ∃ built, Built built ∧ built.after [.setUuid (some "c1")] = client ∧
      client.connection.send peer 0 (client.draft request) = (.ok reply, 1) ∧
      (∃ response, (client.exchange peer 0 request).1 = .ok response ∧
        response.status = ⟨500⟩ ∧ response.content = .text "é!") ∧
      (client.exchange peer 1 archive).1 = (client.exchange peer 0 request).1 := by
  intro client reply peer request archive
  have hmade : noAuth .bare .default =
    .ok ⟨⟨.default, .none⟩, .describe ⟨.default, .none⟩ none, none⟩ := rfl
  have hbuilt := Built.noAuth hmade
  have hsend : client.connection.send peer 0 (client.draft request) = (.ok reply, 1) := by
    dsimp +zetaDelta only
    rfl
  have harchive : client.connection.send peer 1 (client.draft archive) = (.ok reply, 2) := by
    dsimp +zetaDelta only
    rfl
  have hjson : ¬ reply.IsJson := by
    rw [← Reply.announcesJson_iff]
    decide +kernel
  have hnot : ¬ request.ReadsJson reply := fun h => hjson h.2
  obtain ⟨hcomes, hsame⟩ := exchange_comesTo hbuilt [.setUuid (some "c1")] hsend
  obtain ⟨response, hresponse⟩ := hcomes.answered.mpr ⟨by decide +kernel, fun h => hnot h.1⟩
  have hgives := hcomes.response response hresponse
  refine ⟨_, hbuilt, rfl, hsend, ⟨response, hresponse, hgives.status, ?_⟩,
    hsame hjson peer 1 2 archive harchive⟩
  exact (hgives.text "é!").mpr ⟨by decide +kernel, hnot, by decide +kernel⟩

end Client

end EntitlementClient
