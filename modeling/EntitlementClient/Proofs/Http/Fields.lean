import EntitlementClient.Proofs.Client.History
import EntitlementClient.Proofs.Http.Draft
import EntitlementClient.Proofs.Http.Step
import EntitlementClient.Proofs.Text.Base64

/-!
# `EntitlementClient.Proofs.Http.Fields`: the fields with which a request reaches the server

Three parties put fields into a request. The caller gives them in steps (`Draft.given`), a
connection adds two where the caller gave none (`values_withDefaults`), and a user name
and a password go in place of whatever the caller gave under their name
(`values_withAuthorization_basic`).

`TransportConfig.Carries` says for each name which values come of that. A name may repeat,
and the values of a name are listed in the order of the steps. Fields of different names
have no order among each other, so nothing is said of one. `Connection.send_carries` shows
it for every connection that was made: a draft whose steps all succeeded reaches the peer
so, or its URL is refused and nothing reaches the peer.

The credentials are those of the configuration from which the connection was made.
`Carries` says both how they are written and that reading the field gives them back.
-/

set_option autoImplicit false

namespace EntitlementClient

universe u

/-- The fields of a request that was made in the given steps, as they reach the server on
a connection of the configuration. -/
structure TransportConfig.Carries (config : TransportConfig) (steps : List Draft.Step)
    (headers : Headers) : Prop where
  /-- A user name and a password are in one field, whatever the caller gave. -/
  basic : ∀ c, config.credentials = .basic c →
    ∃ letters, headers.values Header.authorization = ["Basic " ++ String.ofList letters] ∧
      letters = Text.Base64.encode (Text.utf8 (c.username ++ ":" ++ c.password.secret).toList) ∧
      Text.Base64.decode (Text.utf8 letters) =
        some (Text.utf8 (c.username ++ ":" ++ c.password.secret).toList)
  /-- Without a user name and a password the field is the caller's. -/
  authorization : (∀ c, config.credentials ≠ .basic c) →
    headers.values Header.authorization = Draft.given Header.authorization steps
  /-- The client names itself where the caller does not say who asks. -/
  userAgent : headers.values Header.userAgent =
    if Draft.given Header.userAgent steps = [] then [config.settings.userAgent]
    else Draft.given Header.userAgent steps
  /-- JSON is asked for where the caller does not ask for a media type. -/
  accept : headers.values Header.accept =
    if Draft.given Header.accept steps = [] then [Header.json]
    else Draft.given Header.accept steps
  /-- A JSON body says what it is if the caller has not said so before it was set. -/
  contentType : headers.values Header.contentType =
    (if Draft.saysJson steps = true then [Header.json] else []) ++
      Draft.given Header.contentType steps
  /-- All other fields are the caller's. -/
  other : ∀ name, name ≠ Header.authorization → name ≠ Header.userAgent → name ≠ Header.accept →
    name ≠ Header.contentType → headers.values name = Draft.given name steps

namespace Connection

variable {c : Connection} {draft : Draft} {headers : Headers} {name : String}

/-! ### What a connection adds -/

/-- The connection adds its own name and the JSON media type where no field has been given
for them. All other fields, and these two where they have been given, stay as they are. -/
theorem values_withDefaults {userAgent : String} :
    (withDefaults userAgent headers).values name =
      if name = Header.userAgent ∧ headers.values name = [] then [userAgent]
      else if name = Header.accept ∧ headers.values name = [] then [Header.json]
      else headers.values name := by
  unfold withDefaults
  rw [Headers.values_setDefault, Headers.values_setDefault]
  show (if Header.accept = name ∧ _ then _ else if Header.userAgent = name ∧ _ then _ else _) = _
  by_cases huser : name = Header.userAgent
  · subst huser
    have haccept : Header.accept ≠ Header.userAgent := by decide
    simp [haccept, Ne.symm haccept]
  · have huser' : Header.userAgent ≠ name := Ne.symm huser
    simp only [huser, huser', false_and, if_false]
    by_cases haccept : name = Header.accept
    · subst haccept
      simp
    · simp [haccept, Ne.symm haccept]

/-- The field of the credentials that a configuration describes. -/
theorem authorization_of_describes {config : TransportConfig} (h : config.Describes c) :
    c.authorization = config.credentials.authorization := by
  have hshown := h.credentials
  cases hc : config.credentials with
  | none =>
    rw [hc] at hshown
    exact hshown.1
  | basic credentials =>
    rw [hc] at hshown
    exact hshown.1
  | certificate identity =>
    rw [hc] at hshown
    exact hshown.1

/-- A user name and a password are the only value of their name. What the caller gave under it is
gone. -/
theorem values_withAuthorization_basic {credentials : BasicCredentials} :
    (withAuthorization (Credentials.basic credentials).authorization headers).values
      Header.authorization = [credentials.headerValue] := by
  show (headers.set credentials.header).values Header.authorization = _
  rw [Headers.values_set]
  exact if_pos rfl

/-- Other credentials leave the fields as they are. A certificate is shown in TLS, and not in a
field. -/
theorem withAuthorization_of_not_basic {credentials : Credentials}
    (h : ∀ c, credentials ≠ .basic c) :
    withAuthorization credentials.authorization headers = headers := by
  cases credentials with
  | none => rfl
  | basic c => exact absurd rfl (h c)
  | certificate identity => rfl

/-- Credentials change the values of their own name only. -/
theorem values_withAuthorization_of_ne {credentials : Credentials}
    (h : name ≠ Header.authorization) :
    (withAuthorization credentials.authorization headers).values name = headers.values name := by
  cases credentials with
  | none => rfl
  | basic c =>
    show (headers.set c.header).values name = _
    rw [Headers.values_set]
    exact if_neg (Ne.symm h)
  | certificate identity => rfl

/-- A draft whose steps succeeded is kept from the peer only for its URL: it is no URL, or one
without TLS on a connection that asks for TLS. -/
theorem message_error_cases {e : TransportError} (hdraft : draft.failure = none)
    (h : c.message draft = .error e) :
    Url.check draft.url = .error e ∨ c.checkScheme draft.url = .error e := by
  have hfinish : draft.finish = (do
      Url.check draft.url
      return { method := draft.method, url := draft.url, headers := draft.headers,
               body := draft.body.getD "" }) := by
    rw [Draft.finish, hdraft]
  unfold message at h
  rw [hfinish] at h
  rcases bind_eq_error_iff.mp h with h | ⟨m, hm, h⟩
  · rcases bind_eq_error_iff.mp h with h | ⟨-, -, h⟩
    · exact Or.inl h
    · cases h
  · obtain ⟨-, -, hm⟩ := bind_eq_ok_iff.mp hm
    cases hm
    rcases bind_eq_error_iff.mp h with h | ⟨-, -, h⟩
    · exact Or.inr h
    · cases h

/-! ### What reaches the server -/

/-- The fields of a draft that was made in steps on a connection are those that the steps give, in
their order, with the one that a JSON body may add. -/
theorem values_draft {method : Method} {path : String} {steps : List Draft.Step}
    (h : ((c.draft method path).takeAll steps).failure = none) :
    ((c.draft method path).takeAll steps).headers.values name =
      Draft.jsonValues name [] steps ++ Draft.given name steps :=
  Draft.values_takeAll h

/-- The fields of a draft that was made in steps, as the connection that the configuration
describes sends them. -/
theorem carries_of_message {config : TransportConfig} {method : Method} {path : String}
    {steps : List Draft.Step} {m : Message} (hdescribes : config.Describes c)
    (hsteps : ((c.draft method path).takeAll steps).failure = none)
    (h : c.message ((c.draft method path).takeAll steps) = .ok m) :
    config.Carries steps m.headers := by
  rw [headers_of_message h, hdescribes.userAgent, authorization_of_describes hdescribes]
  -- Under the name of the credentials a connection adds nothing of its own.
  have hdefaults : ∀ userAgent, (withDefaults userAgent
      ((c.draft method path).takeAll steps).headers).values Header.authorization =
        Draft.given Header.authorization steps := by
    intro userAgent
    rw [values_withDefaults, if_neg fun h => absurd h.1 (by decide),
      if_neg fun h => absurd h.1 (by decide), values_draft hsteps,
      Draft.jsonValues_of_ne (by decide), List.nil_append]
  refine
    { basic := ?_, authorization := ?_, userAgent := ?_, accept := ?_, contentType := ?_,
      other := ?_ }
  · intro credentials hbasic
    refine ⟨_, ?_, rfl, Text.Base64.decode_encode⟩
    rw [hbasic, values_withAuthorization_basic]
    rfl
  · intro hbasic
    rw [withAuthorization_of_not_basic hbasic, hdefaults]
  · rw [values_withAuthorization_of_ne (by decide), values_withDefaults, values_draft hsteps,
      Draft.jsonValues_of_ne (by decide), List.nil_append]
    by_cases hgiven : Draft.given Header.userAgent steps = []
    · simp [hgiven]
    · simp [hgiven]
  · rw [values_withAuthorization_of_ne (by decide), values_withDefaults, values_draft hsteps,
      Draft.jsonValues_of_ne (by decide), List.nil_append]
    by_cases hgiven : Draft.given Header.accept steps = []
    · simp [hgiven, (by decide : Header.accept ≠ Header.userAgent)]
    · simp [hgiven]
  · rw [values_withAuthorization_of_ne (by decide), values_withDefaults, values_draft hsteps]
    simp [Header.userAgent, Header.accept, Header.contentType, Draft.jsonValues]
  · intro name hauthorization huser haccept hcontent
    rw [values_withAuthorization_of_ne hauthorization, values_withDefaults,
      if_neg fun h => huser h.1, if_neg fun h => haccept h.1, values_draft hsteps,
      Draft.jsonValues_of_ne hcontent, List.nil_append]

/-- Take any connection that was made and any draft whose steps all succeeded. Either the
peer gets the message of the draft, with the fields that the configuration and the steps
come to, and its answer is the result. Or the URL is refused, and nothing reaches the
peer. -/
theorem send_carries {host : Host} {config : TransportConfig}
    (hmake : Connection.make host config = .ok c) (method : Method) (path : String)
    (steps : List Draft.Step)
    (hsteps : ((c.draft method path).takeAll steps).failure = none)
    {σ : Type u} (peer : Peer σ) (s : σ) :
    (∃ m, c.message ((c.draft method path).takeAll steps) = .ok m ∧
      c.send peer s ((c.draft method path).takeAll steps) = peer s m ∧
      config.Carries steps m.headers) ∨
    (∃ e, c.send peer s ((c.draft method path).takeAll steps) = (.error e, s) ∧
      (Url.check ((c.draft method path).takeAll steps).url = .error e ∨
        c.checkScheme ((c.draft method path).takeAll steps).url = .error e)) := by
  cases hm : c.message ((c.draft method path).takeAll steps) with
  | ok m =>
    refine Or.inl ⟨m, rfl, ?_, carries_of_message (describes_of_make hmake) hsteps hm⟩
    rw [send, hm]
  | error e =>
    refine Or.inr ⟨e, ?_, message_error_cases hsteps hm⟩
    rw [send, hm]

/-- A caller who gives credentials twice, in two cases, and a field of its own twice. The
server gets the credentials of the connection once, and both values of the other field in
order. -/
theorem send_carries_stale_credentials :
    let steps : List Draft.Step :=
      [.header "AUTHORIZATION" "Basic stale", .header "X-Trace" "1", .json (.object []),
        .header "Authorization" "Bearer old", .header "x-trace" "2"]
    let log : Peer (List Message) := fun seen m => (.error .connection, seen ++ [m])
    ∃ c, Connection.make .bare ⟨.default, .basic .default⟩ = .ok c ∧
      ((c.draft .post "/owners").takeAll steps).failure = none ∧
      ∃ m, c.send log [] ((c.draft .post "/owners").takeAll steps) = (.error .connection, [m]) ∧
        m.headers.values Header.authorization = ["Basic YWRtaW46YWRtaW4="] ∧
        m.headers.values "x-trace" = ["1", "2"] ∧
        m.headers.values Header.userAgent = [Settings.default.userAgent] := by
  intro steps log
  have hmake : Connection.make .bare ⟨.default, .basic .default⟩ =
      .ok (.describe ⟨.default, .basic .default⟩ none) := rfl
  have hsteps : (((Connection.describe ⟨.default, .basic .default⟩ none).draft .post
      "/owners").takeAll steps).failure = none := by decide +kernel
  refine ⟨_, hmake, hsteps, ?_⟩
  rcases send_carries hmake .post "/owners" steps hsteps log [] with
    ⟨m, -, hsend, hcarries⟩ | ⟨e, hsend, -⟩
  · obtain ⟨letters, hvalues, hletters, -⟩ := hcarries.basic .default rfl
    refine ⟨m, hsend, ?_, ?_, ?_⟩
    · rw [hvalues, hletters]
      decide +kernel
    · rw [hcarries.other _ (by decide) (by decide) (by decide) (by decide)]
      decide +kernel
    · rw [hcarries.userAgent]
      decide +kernel
  · -- The URL of the default settings is accepted, so the peer has seen something.
    have hseen : ((Connection.describe ⟨.default, .basic .default⟩ none).send log []
        (((Connection.describe ⟨.default, .basic .default⟩ none).draft .post
          "/owners").takeAll steps)).2 ≠ [] := by decide +kernel
    rw [hsend] at hseen
    exact absurd rfl hseen

end Connection

end EntitlementClient
