import EntitlementClient.Proofs.Http.Draft

/-!
# `EntitlementClient.Proofs.Http.Step`: drafts made in steps

A caller makes a draft in steps (`Draft.Step`): it gives a field, asks for a media type,
sets a query or sets a JSON body. `Draft.take` is one step and `Draft.takeAll` is all of
them in a row. A draft that failed stays as it is (`take_of_failure`), so when the last
draft has no failure no draft before it has one (`failure_of_takeAll`).

`Draft.given` lists the values that the steps give under a name, in the order of the
steps. The fields of a draft are those that were there and those that are given, name by
name (`values_takeAll`). There is one exception: a JSON body says itself what it is when
no field has said so before (`Draft.saysJson`), so one more value stands under that name
(`Draft.jsonValues`).
-/

set_option autoImplicit false

namespace EntitlementClient

/-! ### Fields under a name -/

namespace Headers

variable {headers : Headers} {header : Header} {name : String}

/-- The values under a name are those of the first fields and then those of the rest. -/
theorem values_append (first second : Headers) :
    Headers.values (first ++ second) name = first.values name ++ second.values name := by
  simp [values]

/-- One field has one value, under its own name. -/
@[simp] theorem values_singleton :
    Headers.values [header] name = if header.name = name then [header.value] else [] := by
  by_cases h : header.name = name
  · simp [values, h]
  · simp [values, h]

/-- There is a field of a name exactly when there are values under it. -/
theorem has_iff : headers.has name = true ↔ headers.values name ≠ [] := by
  simp [has, values, List.filter_eq_nil_iff]

/-- A default is added where there is no field of its name. It never stands beside another value.
-/
theorem values_setDefault :
    (headers.setDefault header).values name =
      if header.name = name ∧ headers.values name = [] then [header.value]
      else headers.values name := by
  unfold setDefault
  by_cases hname : header.name = name
  · subst hname
    by_cases hnone : headers.values header.name = []
    · have hhas : ¬ headers.has header.name = true := fun h => has_iff.mp h hnone
      rw [if_neg hhas, if_pos ⟨rfl, hnone⟩, values_append, hnone]
      simp
    · rw [if_pos (has_iff.mpr hnone), if_neg fun h => hnone (And.right h)]
  · rw [if_neg (fun h : _ ∧ _ => hname h.1)]
    split
    · rfl
    · rw [values_append, values_singleton, if_neg hname, List.append_nil]

/-- Setting a field leaves one field of its name, and the others as they are. -/
theorem values_set :
    (headers.set header).values name =
      if header.name = name then [header.value] else headers.values name := by
  have hkept : Headers.values (headers.filter fun h => h.name ≠ header.name) name =
      if header.name = name then [] else headers.values name := by
    unfold values
    rw [List.filter_filter]
    split
    · rename_i hname
      simp [← hname]
    · rename_i hname
      refine congrArg _ (List.filter_congr fun h _ => ?_)
      -- A field of this name is none of the other, so it was kept.
      by_cases hfield : h.name = name
      · simp [hfield, Ne.symm hname]
      · simp [hfield]
  unfold set
  rw [values_append, hkept, values_singleton]
  split
  · rfl
  · exact List.append_nil _

end Headers

namespace Draft

/-! ### Steps -/

/-- A step in which a caller adds to a draft. -/
inductive Step where
  /-- A field is given. -/
  | header (name value : String)
  /-- A media type is asked for. -/
  | accept (mediaType : String)
  /-- A query is set. -/
  | query (q : Query)
  /-- A JSON body is set. -/
  | json (v : Json)
deriving DecidableEq, Repr

/-- The draft after a step. -/
def take (draft : Draft) : Step → Draft
  | .header name value => draft.header name value
  | .accept mediaType => draft.accept mediaType
  | .query q => draft.setQuery q
  | .json v => draft.json v

/-- The draft after steps in a row. -/
def takeAll (draft : Draft) (steps : List Step) : Draft := steps.foldl take draft

/-- The field that a step gives: its name, in any case, and its value. -/
def Step.field? : Step → Option (String × String)
  | .header name value => some (name, value)
  | .accept mediaType => some (Header.accept, mediaType)
  | .query _ => none
  | .json _ => none

/-- The values that a step gives under a name. Names compare without regard to case. -/
def Step.given (name : String) (step : Step) : List String :=
  match step.field? with
  | some (field, value) => if Header.foldName field = name then [value] else []
  | none => []

/-- The values that steps give under a name, in the order of the steps. -/
def given (name : String) (steps : List Step) : List String := steps.flatMap (Step.given name)

/-- Whether a step sets a JSON body. -/
def Step.setsJson : Step → Bool
  | .json _ => true
  | _ => false

/-- A JSON body is set before a field says what the body is. -/
def saysJson : List Step → Bool
  | [] => false
  | step :: rest => step.setsJson || ((step.given Header.contentType).isEmpty && saysJson rest)

variable {draft : Draft} {step : Step} {steps : List Step} {name : String}

/-! ### Failures -/

/-- A draft that failed stays as it is. -/
theorem step_of_failure {f : Draft → Draft} {e : TransportError} (h : draft.failure = some e) :
    draft.step f = draft := by
  simp [Draft.step, h]

/-- A draft that has not failed is changed as the step says. -/
theorem step_of_no_failure {f : Draft → Draft} (h : draft.failure = none) :
    draft.step f = f draft := by
  simp [Draft.step, h]

/-- After a failure steps do nothing: neither fields nor query nor body are changed. -/
theorem take_of_failure {e : TransportError} (h : draft.failure = some e) :
    draft.take step = draft := by
  cases step with
  | header name value =>
    show draft.header name value = draft
    exact step_of_failure h
  | accept mediaType =>
    show draft.header Header.accept mediaType = draft
    exact step_of_failure h
  | query q =>
    show draft.setQuery q = draft
    exact step_of_failure h
  | json v =>
    show draft.json v = draft
    exact step_of_failure h

/-- When there is no failure after a step, there was none before it. -/
theorem failure_of_take (h : (draft.take step).failure = none) : draft.failure = none := by
  cases hfailure : draft.failure with
  | none => rfl
  | some e =>
    rw [take_of_failure hfailure, hfailure] at h
    cases h

/-- When there is no failure after steps, there was none before them. -/
theorem failure_of_takeAll (h : (draft.takeAll steps).failure = none) : draft.failure = none := by
  induction steps generalizing draft with
  | nil => exact h
  | cons step rest ih =>
    have hrest : ((draft.take step).takeAll rest).failure = none := h
    exact failure_of_take (ih hrest)

/-! ### The fields of a draft -/

/-- What a JSON body adds under a name when it says itself what it is. -/
def jsonValues (name : String) (before : List String) (steps : List Step) : List String :=
  if name = Header.contentType ∧ before = [] ∧ saysJson steps = true then [Header.json] else []

/-- A JSON body adds nothing under another name. -/
theorem jsonValues_of_ne {before : List String} (h : name ≠ Header.contentType) :
    jsonValues name before steps = [] := by
  simp [jsonValues, h]

/-- A step that sets no JSON body does not say what a body is either. -/
theorem jsonValues_of_not_setsJson {before : List String} (h : step.setsJson = false) :
    jsonValues name before [step] = [] := by
  simp [jsonValues, saysJson, h]

/-- What is added for steps in a row is added by the first of them, or by the rest after it. This
is the step of the induction for `values_takeAll`, where what stands before is generalised. -/
theorem jsonValues_cons {before : List String} :
    jsonValues name before (step :: steps) ++ step.given name =
      jsonValues name before [step] ++ step.given name ++
        jsonValues name (before ++ jsonValues name before [step] ++ step.given name) steps := by
  by_cases hname : name = Header.contentType
  · subst hname
    cases before with
    | cons value values => simp [jsonValues]
    | nil =>
      cases hjson : step.setsJson with
      | true => simp [jsonValues, saysJson, hjson]
      | false =>
        -- A field that says what the body is comes before the rest, so the rest adds nothing.
        cases hgiven : step.given Header.contentType with
        | nil => simp [jsonValues, saysJson, hjson, hgiven]
        | cons value values => simp [jsonValues, saysJson, hjson, hgiven]
  · simp [jsonValues, hname]

/-- A field that is made has the name without its case and the value. -/
theorem values_header {field value : String} (h : (draft.header field value).failure = none) :
    (draft.header field value).headers.values name =
      draft.headers.values name ++ (Step.header field value).given name := by
  have htake : (draft.take (.header field value)).failure = none := h
  have hbefore : draft.failure = none := failure_of_take htake
  rw [header, step_of_no_failure hbefore] at h ⊢
  cases hmade : Header.make field value with
  | error e =>
    rw [hmade] at h
    cases h
  | ok made =>
    obtain ⟨hfield, hvalue⟩ := Header.of_make hmade
    show (draft.headers ++ [made]).values name = _
    rw [Headers.values_append, Headers.values_singleton, hfield, hvalue]
    rfl

/-- The fields after a step, under one name: those that were there, what a JSON body adds, and
what the step gives. -/
theorem values_take (h : (draft.take step).failure = none) :
    (draft.take step).headers.values name =
      draft.headers.values name ++ jsonValues name (draft.headers.values name) [step] ++
        step.given name := by
  have hbefore : draft.failure = none := failure_of_take h
  cases step with
  | header field value =>
    rw [jsonValues_of_not_setsJson rfl, List.append_nil]
    exact values_header h
  | accept mediaType =>
    rw [jsonValues_of_not_setsJson rfl, List.append_nil]
    exact values_header h
  | query q =>
    have hheaders : (draft.setQuery q).headers = draft.headers := by
      rw [setQuery, step_of_no_failure hbefore]
      split
      · rfl
      · rfl
    show (draft.setQuery q).headers.values name = _
    rw [hheaders, jsonValues_of_not_setsJson rfl]
    simp [Step.given, Step.field?]
  | json v =>
    show (draft.json v).headers.values name = _
    rw [json, step_of_no_failure hbefore]
    show (Headers.setDefault draft.headers jsonField).values name = _
    rw [Headers.values_setDefault]
    by_cases hname : Header.contentType = name
    · subst hname
      by_cases hnone : draft.headers.values Header.contentType = []
      · simp [jsonValues, saysJson, Step.setsJson, Step.given, Step.field?, jsonField, hnone]
      · simp [jsonValues, Step.given, Step.field?, hnone]
    · simp [jsonValues, Step.given, Step.field?, jsonField, hname, Ne.symm hname]

/-- The fields after steps are those before, and those that the steps give, in order and
with their repeats. A JSON body says what it is before all that is given later. -/
theorem values_takeAll (h : (draft.takeAll steps).failure = none) :
    (draft.takeAll steps).headers.values name =
      draft.headers.values name ++ jsonValues name (draft.headers.values name) steps ++
        given name steps := by
  induction steps generalizing draft with
  | nil => simp [takeAll, jsonValues, saysJson, given]
  | cons step rest ih =>
    have hrest : ((draft.take step).takeAll rest).failure = none := h
    show ((draft.take step).takeAll rest).headers.values name = _
    rw [ih hrest, values_take (failure_of_takeAll hrest)]
    generalize draft.headers.values name = before
    show _ = before ++ jsonValues name before (step :: rest) ++ (step.given name ++ given name rest)
    calc before ++ jsonValues name before [step] ++ step.given name ++
          jsonValues name (before ++ jsonValues name before [step] ++ step.given name) rest ++
            given name rest
      _ = before ++ (jsonValues name before [step] ++ step.given name ++
            jsonValues name (before ++ jsonValues name before [step] ++ step.given name) rest) ++
              given name rest := by simp only [List.append_assoc]
      _ = before ++ (jsonValues name before (step :: rest) ++ step.given name) ++
            given name rest := by rw [← jsonValues_cons]
      _ = before ++ jsonValues name before (step :: rest) ++
            (step.given name ++ given name rest) := by simp only [List.append_assoc]

end Draft

end EntitlementClient
