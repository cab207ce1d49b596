import EntitlementClient.Proofs.Http.Fields

/-!
# `EntitlementClient.Proofs.Http.Failure`: the first step that fails

Only a field can fail: its name is judged, and then its value (`Header.failure?`).
`Draft.take_eq` says all that a step does to a draft that has not failed, and
`Draft.takeAll_eq` what steps in a row come to when none of them fails: the fields one
after the other, the last query that has pairs, and the last body.

`Draft.failure_takeAll` is the other half. The failure of a draft is that of its first
step that fails, and no later step changes it. `Connection.send_steps` puts both together
for a request that is sent: after a failure the peer sees nothing, and without one the
connection is handed what the steps come to (`Connection.Exchanges`).

The fields are handed over in the order of the steps, all of them. What the connection
does then is said in the same place: it adds its defaults, and its credentials go in place
of fields of their name.
-/

set_option autoImplicit false

namespace EntitlementClient

universe u v

/-- The last of what a list gives is that of its rest, or else that of its head. -/
theorem getLast?_filterMap_cons {α : Type u} {β : Type v} (f : α → Option β) (a : α) (rest : List α)
    (initial : Option β) :
    ((a :: rest).filterMap f).getLast?.or initial =
      (rest.filterMap f).getLast?.or ((f a).or initial) := by
  cases ha : f a with
  | none => simp [ha]
  | some b => cases hrest : (rest.filterMap f).getLast? <;> simp [ha, hrest, List.getLast?_cons]

namespace Header

/-- Why a field cannot be given, if it cannot. The name is judged before the value. -/
def failure? (name value : String) : Option TransportError :=
  if isHeaderName name = false then some .invalidHeaderName
  else if isHeaderValue value = false then some .invalidHeaderValue
  else none

/-- A field is made unless its name or its value keeps it from being made. The name is judged
first. -/
theorem make_eq (name value : String) :
    make name value =
      match failure? name value with
      | some e => .error e
      | none => .ok { name := foldName name, value := value } := by
  unfold make failure?
  cases isHeaderName name with
  | false => rfl
  | true =>
    cases isHeaderValue value with
    | false => rfl
    | true => rfl

end Header

namespace Draft

/-! ### What a step does -/

/-- Why a step fails, if it does. -/
def Step.failure? (step : Step) : Option TransportError :=
  step.field?.bind fun field => Header.failure? field.1 field.2

/-- The field that a step adds, with its name in lower case. -/
def Step.made? (step : Step) : Option Header :=
  step.field?.map fun field => { name := Header.foldName field.1, value := field.2 }

/-- The JSON body that a step sets. -/
def Step.json? : Step → Option Json
  | .json v => some v
  | _ => none

/-- The query that a step sets. A query without pairs is not set. -/
def Step.query? : Step → Option Query
  | .query q => if q.isEmpty then none else some q
  | _ => none

/-- The fields after a step. A JSON body says what it is unless a field has said so. -/
def Step.addTo (headers : Headers) : Step → Headers
  | .json _ => headers.setDefault jsonField
  | step => headers ++ step.made?.toList

/-- The fields that steps give, in the order of the steps. -/
def fields (steps : List Step) : Headers := steps.filterMap Step.made?

variable {draft : Draft} {step : Step} {steps : List Step} {name : String}

/-- A field is added to a draft that has not failed, or the draft fails with the reason why it
cannot be made. -/
theorem header_eq (h : draft.failure = none) (name value : String) :
    draft.header name value =
      match Header.failure? name value with
      | some e => { draft with failure := some e }
      | none => { draft with
          headers := draft.headers ++ [{ name := Header.foldName name, value := value }] } := by
  rw [header, step_of_no_failure h, Header.make_eq]
  cases Header.failure? name value with
  | some e => rfl
  | none => rfl

/-- A step on a draft that has not failed changes nothing but the failure, or it adds its
field, sets its query if that has pairs, and sets its body. -/
theorem take_eq (h : draft.failure = none) :
    draft.take step =
      match step.failure? with
      | some e => { draft with failure := some e }
      | none => { draft with
          headers := step.addTo draft.headers
          query := (step.query?.map Query.encode).or draft.query
          body := (step.json?.map Json.render).or draft.body } := by
  cases step with
  | header name value => exact header_eq h name value
  | accept mediaType =>
    have hfailure : (Step.accept mediaType).failure? =
        Header.failure? Header.accept mediaType := Option.bind_some ..
    show draft.header Header.accept mediaType = _
    rw [header_eq h, hfailure]
    cases Header.failure? Header.accept mediaType with
    | some e => rfl
    | none => rfl
  | query q =>
    show draft.setQuery q = _
    rw [setQuery, step_of_no_failure h]
    cases hempty : q.isEmpty with
    | true =>
      simp [Step.failure?, Step.field?, Step.addTo, Step.made?, Step.query?, Step.json?, hempty]
    | false =>
      simp [Step.failure?, Step.field?, Step.addTo, Step.made?, Step.query?, Step.json?, hempty]
  | json v =>
    show draft.json v = _
    rw [json, step_of_no_failure h]
    rfl

/-! ### Steps in a row -/

/-- A draft fails as its first step that fails does. The induction goes over the steps, with the
draft generalised: whatever a step does to it, its failure is what the next steps see. -/
theorem failure_takeAll :
    (draft.takeAll steps).failure = draft.failure.or (steps.findSome? Step.failure?) := by
  induction steps generalizing draft with
  | nil => simp [takeAll]
  | cons step rest ih =>
    show ((draft.take step).takeAll rest).failure = _
    rw [ih]
    cases hdraft : draft.failure with
    | some e => rw [take_of_failure hdraft, hdraft]; rfl
    | none =>
      rw [take_eq hdraft]
      cases hstep : step.failure? with
      | some e => simp [hstep]
      | none => simp [hstep, hdraft]

/-- Steps of which none fails leave no failure. -/
theorem failure_takeAll_eq_none (hdraft : draft.failure = none)
    (h : ∀ step ∈ steps, step.failure? = none) : (draft.takeAll steps).failure = none := by
  rw [failure_takeAll, hdraft, Option.none_or]
  exact List.findSome?_eq_none_iff.mpr h

/-- Steps of which none fails add their fields. The last query that has pairs stays, and
the last body. -/
theorem takeAll_eq (hdraft : draft.failure = none) (h : ∀ step ∈ steps, step.failure? = none) :
    draft.takeAll steps =
      { draft with
        headers := steps.foldl Step.addTo draft.headers
        query := (steps.filterMap fun step => step.query?.map Query.encode).getLast?.or draft.query
        body :=
          (steps.filterMap fun step => step.json?.map Json.render).getLast?.or draft.body } := by
  induction steps generalizing draft with
  | nil => rfl
  | cons step rest ih =>
    have hstep : step.failure? = none := h step List.mem_cons_self
    have htake : draft.take step = _ := take_eq hdraft
    simp only [hstep] at htake
    have hafter : (draft.take step).failure = none := by rw [htake]; exact hdraft
    show (draft.take step).takeAll rest = _
    rw [ih hafter fun later hlater => h later (List.mem_cons_of_mem _ hlater), htake,
      getLast?_filterMap_cons, getLast?_filterMap_cons]
    rfl

/-! ### The fields in order -/

/-- What a step gives under a name is the value of the field that it adds, if it adds one of that
name. -/
theorem Step.given_eq : step.given name = Headers.values step.made?.toList name := by
  unfold Step.given Step.made?
  cases step.field? with
  | none => rfl
  | some field =>
    show _ = Headers.values [{ name := Header.foldName field.1, value := field.2 }] name
    rw [Headers.values_singleton]

/-- A step that sets a JSON body is nothing else than that. -/
theorem Step.eq_json_of_setsJson (h : step.setsJson = true) : ∃ v, step = .json v := by
  cases step with
  | json v => exact ⟨v, rfl⟩
  | _ => cases h

/-- Every other step adds the field that it makes, if it makes one, after the fields that
are there. -/
theorem Step.addTo_of_not_setsJson {headers : Headers} (h : step.setsJson = false) :
    step.addTo headers = headers ++ step.made?.toList := by
  cases step with
  | json v => cases h
  | _ => rfl

/-- The fields of steps in a row are made one after the other. -/
theorem fields_cons : fields (step :: steps) = step.made?.toList ++ fields steps := by
  unfold fields
  cases hmade : step.made? <;> simp [hmade]

/-- Steps leave the fields that were there and those that they give, in their order. Among
these stands the one that says that the body is JSON, if a body is set before a field says
what the body is. -/
theorem foldl_addTo (headers : Headers) (steps : List Step) :
    ∃ before after, fields steps = before ++ after ∧
      steps.foldl Step.addTo headers =
        headers ++ before ++
          (if headers.has Header.contentType = false ∧ saysJson steps = true then [jsonField]
            else []) ++ after := by
  induction steps generalizing headers with
  | nil => exact ⟨[], [], rfl, by simp [saysJson]⟩
  | cons step rest ih =>
    obtain ⟨before, after, hfields, hrest⟩ := ih (step.addTo headers)
    rw [List.foldl_cons, hrest, fields_cons, hfields]
    cases hjson : step.setsJson with
    | true =>
      obtain ⟨v, rfl⟩ := Step.eq_json_of_setsJson hjson
      cases hhas : headers.has Header.contentType with
      | true =>
        have hset : headers.setDefault jsonField = headers := if_pos hhas
        exact ⟨before, after, rfl, by simp [Step.addTo, hset, hhas]⟩
      | false =>
        -- The body says here what it is, so nothing is said of it later.
        have hsaid : (headers ++ [jsonField]).has Header.contentType = true := by
          simp [Headers.has, jsonField]
        have hset : headers.setDefault jsonField = headers ++ [jsonField] :=
          if_neg (Bool.eq_false_iff.mp hhas)
        exact ⟨[], before ++ after, rfl, by
          simp [Step.addTo, hset, hsaid, saysJson, hjson]⟩
    | false =>
      -- The step may give a field that says what the body is. Then no body does so later.
      have hhas : (headers ++ step.made?.toList).has Header.contentType = false ↔
          headers.has Header.contentType = false ∧
            (step.given Header.contentType).isEmpty = true := by
        rw [Step.given_eq]
        simp [Bool.eq_false_iff, Headers.has_iff, Headers.values_append]
      refine ⟨step.made?.toList ++ before, after, (List.append_assoc ..).symm, ?_⟩
      rw [Step.addTo_of_not_setsJson hjson]
      simp only [hhas, saysJson, hjson, Bool.false_or, Bool.and_eq_true, and_assoc,
        List.append_assoc]

end Draft

namespace Connection

variable {c : Connection} {draft : Draft} {steps : List Draft.Step} {name : String}

/-! ### What is sent -/

/-- A request may go to the URL on the connection. -/
def Accepts (c : Connection) (url : String) : Prop :=
  Url.check url = .ok () ∧ c.checkScheme url = .ok ()

/-- A draft that failed is not sent. -/
theorem send_of_failure {e : TransportError} (h : draft.failure = some e) {σ : Type u}
    (peer : Peer σ) (s : σ) : c.send peer s draft = (.error e, s) := by
  have hmessage : c.message draft = .error e := by
    rw [message, Draft.finish, h]
    rfl
  rw [send, hmessage]

/-- A draft that has not failed hands the connection its method, its URL, its fields and its body,
if the URL is one. -/
theorem finish_of_check (hdraft : draft.failure = none) (hurl : Url.check draft.url = .ok ()) :
    draft.finish = .ok
      { method := draft.method
        url := draft.url
        headers := draft.headers
        body := draft.body.getD "" } := by
  rw [Draft.finish, hdraft]
  simp only [hurl]
  rfl

/-- What is handed to a connection that accepts the URL is sent, with what the connection adds and
no other change. -/
theorem message_of_finish {built : Message} (hbuilt : draft.finish = .ok built)
    (hscheme : c.checkScheme built.url = .ok ()) :
    c.message draft = .ok { built with
      headers := withAuthorization c.authorization (withDefaults c.userAgent built.headers) } := by
  rw [message, hbuilt]
  show (c.checkScheme built.url >>= _) = _
  rw [hscheme]
  rfl

/-- Credentials change the values of their own name only. -/
theorem values_withAuthorization {authorization : Option Header} {headers : Headers}
    (h : ∀ header ∈ authorization, header.name ≠ name) :
    (withAuthorization authorization headers).values name = headers.values name := by
  cases authorization with
  | none => rfl
  | some header =>
    show (headers.set header).values name = _
    rw [Headers.values_set, if_neg (h header rfl)]

/-- Where there is a field, a connection adds none of the name. -/
theorem values_withDefaults_of_ne_nil {userAgent : String} {headers : Headers}
    (h : headers.values name ≠ []) :
    (withDefaults userAgent headers).values name = headers.values name := by
  rw [values_withDefaults, if_neg fun hnone => h hnone.2, if_neg fun hnone => h hnone.2]

/-- What the connection is handed of a request that was made in the given steps, and what
the peer gets of it. -/
structure Exchanges (c : Connection) (method : Method) (steps : List Draft.Step)
    (built m : Message) : Prop where
  /-- The method is the one of the draft. -/
  method : built.method = method
  /-- The body is the text of the JSON that was set last, and empty if none was set. -/
  body : built.body = ((steps.filterMap Draft.Step.json?).getLast?.map Json.render).getD ""
  /-- The fields are those of the steps in their order. One that says that the body is
  JSON may stand among them. -/
  fields : ∃ before after, Draft.fields steps = before ++ after ∧
    built.headers =
      before ++ (if Draft.saysJson steps = true then [Draft.jsonField] else []) ++ after
  /-- Under each name stand all values that the steps give, in the order of the steps. -/
  values : ∀ name,
    built.headers.values name = Draft.jsonValues name [] steps ++ Draft.given name steps
  /-- The peer gets this with the defaults of the connection and with its credentials. -/
  sent : m = { built with
    headers := withAuthorization c.authorization (withDefaults c.userAgent built.headers) }
  /-- These leave the values that the steps give, unless the credentials have the name. -/
  kept : ∀ name, Draft.given name steps ≠ [] → (∀ header ∈ c.authorization, header.name ≠ name) →
    m.headers.values name = built.headers.values name

/-- Steps of which none fails are sent to a URL that the connection accepts. What is handed over
and what is sent are both given here. -/
theorem exists_exchanges {method : Method} {path : String}
    (h : ∀ step ∈ steps, step.failure? = none)
    (hurl : c.Accepts ((c.draft method path).takeAll steps).url) :
    ∃ built m, ((c.draft method path).takeAll steps).finish = .ok built ∧
      c.message ((c.draft method path).takeAll steps) = .ok m ∧
      c.Exchanges method steps built m := by
  have hfailure : ((c.draft method path).takeAll steps).failure = none :=
    Draft.failure_takeAll_eq_none rfl h
  have htaken : (c.draft method path).takeAll steps = _ := Draft.takeAll_eq rfl h
  have hvalues : ∀ name, ((c.draft method path).takeAll steps).headers.values name = _ :=
    fun _ => values_draft hfailure
  have hbuilt := finish_of_check hfailure hurl.1
  refine ⟨_, _, hbuilt, message_of_finish hbuilt hurl.2, ?_, ?_, ?_, hvalues, rfl, ?_⟩
  · rw [htaken]
    rfl
  · rw [htaken]
    show ((steps.filterMap fun step => step.json?.map Json.render).getLast?.or none).getD "" = _
    rw [Option.or_none, ← List.map_filterMap, List.getLast?_map]
  · obtain ⟨before, after, hfields, hheaders⟩ := Draft.foldl_addTo [] steps
    refine ⟨before, after, hfields, ?_⟩
    rw [htaken]
    show steps.foldl Draft.Step.addTo [] = _
    rw [hheaders]
    simp [Headers.has]
  · intro name hgiven hcredentials
    show (withAuthorization _ (withDefaults _ _)).values name = _
    rw [values_withAuthorization hcredentials, values_withDefaults_of_ne_nil]
    rw [hvalues]
    exact List.append_ne_nil_of_right_ne_nil _ hgiven

/-- Take any steps on a draft of any connection. The first step that fails decides what
comes of sending the draft: the result is its error and the peer is not asked, whatever
the steps after it are. When no step fails and the URL is accepted, the connection is
handed what the steps come to, and the peer gets it. -/
theorem send_steps (c : Connection) (method : Method) (path : String) {σ : Type u} (peer : Peer σ)
    (s : σ) :
    (∀ (before after : List Draft.Step) (step : Draft.Step) (e : TransportError),
      (∀ earlier ∈ before, earlier.failure? = none) → step.failure? = some e →
        c.send peer s ((c.draft method path).takeAll (before ++ step :: after)) = (.error e, s)) ∧
    ∀ steps : List Draft.Step, (∀ step ∈ steps, step.failure? = none) →
      c.Accepts ((c.draft method path).takeAll steps).url →
        ∃ built m, ((c.draft method path).takeAll steps).finish = .ok built ∧
          c.send peer s ((c.draft method path).takeAll steps) = peer s m ∧
          c.Exchanges method steps built m := by
  constructor
  · intro before after step e hbefore hstep
    refine send_of_failure ?_ peer s
    have hfirst : (before ++ step :: after).findSome? Draft.Step.failure? = some e :=
      List.findSome?_eq_some_iff.mpr ⟨before, step, after, rfl, hstep, hbefore⟩
    rw [Draft.failure_takeAll, hfirst]
    rfl
  · intro steps hsteps hurl
    obtain ⟨built, m, hbuilt, hm, hexchanges⟩ := exists_exchanges hsteps hurl
    exact ⟨built, m, hbuilt, by rw [send, hm], hexchanges⟩

/-- A field whose name and value both cannot be used, before other steps that would fail.
Without it the last of two bodies is sent, and a name that is given twice in two cases has
both values. -/
theorem send_steps_bad_name :
    let c := Connection.describe ⟨.default, .none⟩ none
    let log : Peer (List Message) := fun seen m => (.error .connection, seen ++ [m])
    let good : List Draft.Step :=
      [.header "X-Trace" "1", .json (.object []), .query ⟨[("page", "1")]⟩, .accept "text/plain",
        .json (.string "last"), .header "x-trace" "2"]
    let bad : Draft.Step := .header "bad name" "bad\nvalue"
    let late : List Draft.Step := [.accept "\n", .header "" "", .json .null]
    (∀ step ∈ good, step.failure? = none) ∧ bad.failure? = some .invalidHeaderName ∧
      c.send log [] ((c.draft .put "/p").takeAll (good ++ bad :: late)) =
        (.error .invalidHeaderName, []) ∧
      c.Accepts ((c.draft .put "/p").takeAll good).url ∧
      ∃ m, c.send log [] ((c.draft .put "/p").takeAll good) = (.error .connection, [m]) ∧
        m.method = .put ∧ m.body = "\"last\"" ∧ m.headers.values "x-trace" = ["1", "2"] ∧
        m.headers.values Header.accept = ["text/plain"] := by
  intro c log good bad late
  have hgood : ∀ step ∈ good, step.failure? = none := by decide +kernel
  have hbad : bad.failure? = some .invalidHeaderName := by decide +kernel
  have hurl : c.Accepts ((c.draft .put "/p").takeAll good).url := by
    have htext : ((c.draft .put "/p").takeAll good).url =
        "https://localhost:8443/candlepin/p?page=1" := by decide +kernel
    rw [htext]
    exact ⟨rfl, rfl⟩
  have hsteps := send_steps c .put "/p" log []
  obtain ⟨built, m, -, hsend, hm⟩ := hsteps.2 good hgood hurl
  have hseen : ∀ name, Draft.given name good ≠ [] →
      m.headers.values name = Draft.jsonValues name [] good ++ Draft.given name good := by
    intro name hgiven
    have hnone : ∀ header ∈ c.authorization, header.name ≠ name := by
      intro header h
      cases h
    rw [hm.kept name hgiven hnone, hm.values]
  refine ⟨hgood, hbad, hsteps.1 good late bad _ hgood hbad, hurl, m, hsend, ?_, ?_, ?_, ?_⟩
  · rw [hm.sent]
    exact hm.method
  · rw [hm.sent]
    exact hm.body.trans (by decide +kernel)
  · rw [hseen "x-trace" (by decide)]
    decide +kernel
  · rw [hseen Header.accept (by decide)]
    decide +kernel

end Connection

end EntitlementClient
