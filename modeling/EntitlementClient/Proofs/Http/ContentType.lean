import EntitlementClient.Proofs.Http.Failure

/-!
# `EntitlementClient.Proofs.Http.ContentType`: how often a request says what its body is

A JSON body that is set looks whether a field already says what the body is, and says it
itself if none does. A field that is given does not look for a body that has spoken
already. So the order matters: a field that comes after the body stands beside the one of
the body (`Draft.FieldAfterJson`).

`Connection.contentType_once_iff` compares what is sent with what is meant
(`Draft.meant`), which is the caller's value, or JSON where the caller gives none. The two
are the same exactly when no field comes after a JSON body, and else there are two fields.
-/

set_option autoImplicit false

namespace EntitlementClient

universe u

namespace Draft

variable {steps before after : List Step} {name : String}

/-! ### Who says what the body is -/

/-- The values that are meant to say what a JSON body is: the caller's, or that of JSON if
the caller gives none. -/
def meant (steps : List Step) : List String :=
  if given Header.contentType steps = [] then [Header.json] else given Header.contentType steps

/-- A field says what the body is after a JSON body was set. -/
def FieldAfterJson (steps : List Step) : Prop :=
  ∃ before after, steps = before ++ after ∧ (∃ step ∈ before, step.setsJson = true) ∧
    given Header.contentType after ≠ []

/-- The values that steps in a row give are those of the first steps and then those of the
rest. -/
theorem given_append : given name (before ++ after) = given name before ++ given name after :=
  List.flatMap_append

/-- A JSON body says what it is when one is set and no step before it gives the field. So the
first JSON body decides: the ones after it find the field that it added. -/
theorem saysJson_iff :
    saysJson steps = true ↔ ∃ before step after, steps = before ++ step :: after ∧
      step.setsJson = true ∧ given Header.contentType before = [] := by
  induction steps with
  | nil => simp [saysJson]
  | cons first rest ih =>
    rw [saysJson, Bool.or_eq_true, Bool.and_eq_true, List.isEmpty_iff, ih]
    constructor
    · rintro (hjson | ⟨hgiven, before, step, after, rfl, hjson, hbefore⟩)
      · exact ⟨[], first, rest, rfl, hjson, rfl⟩
      · exact ⟨first :: before, step, after, rfl, hjson, by
          rw [given, List.flatMap_cons, hgiven]
          exact hbefore⟩
    · rintro ⟨before, step, after, hsteps, hjson, hbefore⟩
      cases before with
      | nil =>
        cases hsteps
        exact Or.inl hjson
      | cons head before =>
        cases hsteps
        rw [given, List.flatMap_cons, List.append_eq_nil_iff] at hbefore
        exact Or.inr ⟨hbefore.1, before, step, after, rfl, hjson, hbefore.2⟩

/-- Where no field is given, a JSON body that is set speaks. -/
theorem saysJson_of_given_eq_nil (hjson : ∃ step ∈ steps, step.setsJson = true)
    (h : given Header.contentType steps = []) : saysJson steps = true := by
  obtain ⟨step, hmem, hstep⟩ := hjson
  obtain ⟨before, after, rfl⟩ := List.append_of_mem hmem
  rw [given_append, List.append_eq_nil_iff] at h
  exact saysJson_iff.mpr ⟨before, step, after, rfl, hstep, h.1⟩

/-- Where the field is given at most once, it comes after a JSON body exactly when it is
given and a body has spoken before. -/
theorem fieldAfterJson_iff (hone : (given Header.contentType steps).length ≤ 1) :
    FieldAfterJson steps ↔ saysJson steps = true ∧ given Header.contentType steps ≠ [] := by
  constructor
  · rintro ⟨before, after, rfl, hjson, hafter⟩
    rw [given_append] at hone ⊢
    -- The field after the body is the only one, so none comes before it.
    have hbefore : given Header.contentType before = [] := by
      have hsome := List.length_pos_iff.mpr hafter
      rw [List.length_append] at hone
      exact List.length_eq_zero_iff.mp (by omega)
    obtain ⟨front, step, back, rfl, hstep, hfront⟩ :=
      saysJson_iff.mp (saysJson_of_given_eq_nil hjson hbefore)
    exact ⟨saysJson_iff.mpr ⟨front, step, back ++ after, by simp, hstep, hfront⟩,
      List.append_ne_nil_of_right_ne_nil _ hafter⟩
  · rintro ⟨hspoken, hgiven⟩
    obtain ⟨before, step, after, rfl, hstep, hbefore⟩ := saysJson_iff.mp hspoken
    refine ⟨before ++ [step], after, by simp, ⟨step, by simp, hstep⟩, fun hafter => hgiven ?_⟩
    -- A step that sets a body gives no field itself.
    have hnone : step.given Header.contentType = [] := by
      obtain ⟨v, rfl⟩ := Step.eq_json_of_setsJson hstep
      rfl
    rw [given_append, hbefore, given, List.flatMap_cons, hnone]
    exact hafter

/-- One value is meant when the caller gives at most one. It is the caller's, or else that of
JSON. -/
theorem length_meant (hone : (given Header.contentType steps).length ≤ 1) :
    (meant steps).length = 1 := by
  unfold meant
  split
  · rfl
  · rename_i hgiven
    have hsome := List.length_pos_iff.mpr hgiven
    omega

/-- What is sent is what is meant unless a field comes after a JSON body. Then two values are sent
where one is meant. -/
theorem eq_meant_iff (hjson : ∃ step ∈ steps, step.setsJson = true)
    (hone : (given Header.contentType steps).length ≤ 1) :
    (if saysJson steps = true then [Header.json] else []) ++ given Header.contentType steps =
        meant steps ↔ ¬ FieldAfterJson steps := by
  rw [fieldAfterJson_iff hone, meant]
  by_cases hgiven : given Header.contentType steps = []
  · simp [hgiven, saysJson_of_given_eq_nil hjson hgiven]
  · by_cases hspoken : saysJson steps = true
    · simp [hgiven, hspoken]
    · simp [hgiven, hspoken]

end Draft

namespace Connection

/-! ### What is sent -/

/-- Take steps that succeed, of which at least one sets a JSON body and at most one gives
the field that says what the body is, in whichever order. On any connection that was made,
they are sent with the one field that is meant if and only if the field does not come
after a JSON body. If it does, they are sent with two: the one of JSON, and the
caller's. -/
theorem contentType_once_iff {host : Host} {config : TransportConfig} {c : Connection}
    (hmake : Connection.make host config = .ok c) (method : Method) (path : String)
    (steps : List Draft.Step) (hsteps : ∀ step ∈ steps, step.failure? = none)
    (hjson : ∃ step ∈ steps, step.setsJson = true)
    (hone : (Draft.given Header.contentType steps).length ≤ 1)
    (hurl : c.Accepts ((c.draft method path).takeAll steps).url)
    {σ : Type u} (peer : Peer σ) (s : σ) :
    (Draft.meant steps).length = 1 ∧
    ∃ m, c.send peer s ((c.draft method path).takeAll steps) = peer s m ∧
      (m.headers.values Header.contentType = Draft.meant steps ↔ ¬ Draft.FieldAfterJson steps) ∧
      (Draft.FieldAfterJson steps → m.headers.values Header.contentType =
        Header.json :: Draft.given Header.contentType steps) := by
  have hfailure : ((c.draft method path).takeAll steps).failure = none :=
    Draft.failure_takeAll_eq_none rfl hsteps
  obtain ⟨-, m, -, hm, -⟩ := exists_exchanges hsteps hurl
  have hcarries := carries_of_message (describes_of_make hmake) hfailure hm
  refine ⟨Draft.length_meant hone, m, by rw [send, hm], ?_, fun hafter => ?_⟩
  · rw [hcarries.contentType]
    exact Draft.eq_meant_iff hjson hone
  · rw [hcarries.contentType, if_pos ((Draft.fieldAfterJson_iff hone).mp hafter).1]
    rfl

/-- A field before two JSON bodies is sent alone, and its name may be in any case. -/
theorem contentType_once_field_first :
    let log : Peer (List Message) := fun seen m => (.error .connection, seen ++ [m])
    let steps : List Draft.Step :=
      [.header "CONTENT-type" "text/json", .json .null, .accept "text/plain", .json (.bool true)]
    ∃ c, Connection.make .bare ⟨.default, .none⟩ = .ok c ∧
      (∀ step ∈ steps, step.failure? = none) ∧ (∃ step ∈ steps, step.setsJson = true) ∧
      (Draft.given Header.contentType steps).length ≤ 1 ∧
      c.Accepts ((c.draft .post "/x").takeAll steps).url ∧ ¬ Draft.FieldAfterJson steps ∧
      ∃ m, c.send log [] ((c.draft .post "/x").takeAll steps) = (.error .connection, [m]) ∧
        m.headers.values Header.contentType = ["text/json"] := by
  intro log steps
  have hmake : Connection.make .bare ⟨.default, .none⟩ =
      .ok (.describe ⟨.default, .none⟩ none) := rfl
  have hsteps : ∀ step ∈ steps, step.failure? = none := by decide +kernel
  have hjson : ∃ step ∈ steps, step.setsJson = true := by decide
  have hone : (Draft.given Header.contentType steps).length ≤ 1 := by decide +kernel
  have hurl : (Connection.describe ⟨.default, .none⟩ none).Accepts
      (((Connection.describe ⟨.default, .none⟩ none).draft .post "/x").takeAll steps).url := by
    have htext :
        (((Connection.describe ⟨.default, .none⟩ none).draft .post "/x").takeAll steps).url =
          "https://localhost:8443/candlepin/x" := by decide +kernel
    rw [htext]
    exact ⟨rfl, rfl⟩
  have hfirst : ¬ Draft.FieldAfterJson steps := by
    rw [Draft.fieldAfterJson_iff hone]
    decide +kernel
  obtain ⟨-, m, hsend, hvalues, -⟩ :=
    contentType_once_iff hmake .post "/x" steps hsteps hjson hone hurl log []
  refine ⟨_, hmake, hsteps, hjson, hone, hurl, hfirst, m, hsend, ?_⟩
  rw [hvalues.mpr hfirst]
  decide +kernel

/-- A field after a JSON body is sent beside that of the body. -/
theorem contentType_twice_after_json :
    let log : Peer (List Message) := fun seen m => (.error .connection, seen ++ [m])
    let steps : List Draft.Step := [.json .null, .header "Content-Type" "text/json"]
    ∃ c, Connection.make .bare ⟨.default, .none⟩ = .ok c ∧
      (∀ step ∈ steps, step.failure? = none) ∧ (∃ step ∈ steps, step.setsJson = true) ∧
      Draft.given Header.contentType steps = ["text/json"] ∧
      (c.send log [] ((c.draft .post "/x").takeAll steps)).2.map
          (fun m => m.headers.values Header.contentType) =
        [["application/json", "text/json"]] := by
  intro log steps
  have hmake : Connection.make .bare ⟨.default, .none⟩ =
      .ok (.describe ⟨.default, .none⟩ none) := rfl
  exact ⟨_, hmake, by decide +kernel, by decide, by decide +kernel, by decide +kernel⟩

end Connection

end EntitlementClient
