import EntitlementClient.Http.Connection
import EntitlementClient.Proofs.Outcome

/-!
# `EntitlementClient.Proofs.Http.Draft`: which fields a message has

A message has the fields that were put into its draft, those that a connection adds where
they are missing, and the credentials of the connection. So a message has no field of a
name that none of them has. For the field that carries credentials this is
`Connection.has_authorization_of_message`: where the connection has none, the message has
it only if it was put into the draft.
-/

set_option autoImplicit false

namespace EntitlementClient

/-! ### Fields -/

namespace Headers

variable {headers : Headers} {header : Header} {name : String}

/-- A field of another name does not count for a name. -/
theorem has_append_singleton (h : header.name ≠ name) :
    (headers ++ [header]).has name = headers.has name := by
  simp [has, h]

/-- Nor does a default for another name, whether it is added or not. -/
theorem has_setDefault (h : header.name ≠ name) :
    (headers.setDefault header).has name = headers.has name := by
  unfold setDefault
  split
  · rfl
  · exact has_append_singleton h

end Headers

/-- A field that is made has the name without its case, and the value. -/
theorem Header.of_make {name value : String} {made : Header} (h : make name value = .ok made) :
    made.name = foldName name ∧ made.value = value := by
  unfold make at h
  split at h
  · cases h
  · split at h
    · cases h
    · cases h
      exact ⟨rfl, rfl⟩

/-! ### Drafts -/

namespace Draft

variable {draft : Draft} {name : String}

/-- A step that keeps a field out keeps it out whether a step before it failed or not. A draft
that failed stays as it is. -/
theorem has_step {f : Draft → Draft} (h : (f draft).headers.has name = draft.headers.has name) :
    (draft.step f).headers.has name = draft.headers.has name := by
  unfold step
  split
  · rfl
  · exact h

/-- Adding a field keeps the others. -/
theorem has_header {field value : String} (h : Header.foldName field ≠ name) :
    (draft.header field value).headers.has name = draft.headers.has name := by
  refine has_step ?_
  split
  · rename_i made hmade
    exact Headers.has_append_singleton ((Header.of_make hmade).1 ▸ h)
  · rfl

/-- A media type that is asked for is a field of its own, and leaves the others. -/
theorem has_accept {mediaType : String} (h : Header.accept ≠ name) :
    (draft.accept mediaType).headers.has name = draft.headers.has name :=
  has_header h

/-- A query is no field. -/
theorem has_setQuery {query : Query} :
    (draft.setQuery query).headers.has name = draft.headers.has name := by
  refine has_step ?_
  split
  · rfl
  · rfl

/-- A JSON body adds no field but the one that says what it is. -/
theorem has_json {v : Json} (h : Header.contentType ≠ name) :
    (draft.json v).headers.has name = draft.headers.has name :=
  has_step (Headers.has_setDefault h)

/-- A message has the fields of its draft. -/
theorem headers_of_finish {m : Message} (h : draft.finish = .ok m) : m.headers = draft.headers := by
  unfold finish at h
  split at h
  · cases h
  · obtain ⟨-, -, hm⟩ := bind_eq_ok_iff.mp h
    cases hm
    rfl

end Draft

/-! ### Connections -/

/-- The fields of a message are those of its draft, with what the connection adds: its defaults
first, and then its credentials. -/
theorem Connection.headers_of_message {c : Connection} {draft : Draft} {m : Message}
    (h : c.message draft = .ok m) :
    m.headers = withAuthorization c.authorization (withDefaults c.userAgent draft.headers) := by
  unfold message at h
  obtain ⟨finished, hfinish, h⟩ := bind_eq_ok_iff.mp h
  obtain ⟨-, -, h⟩ := bind_eq_ok_iff.mp h
  cases h
  rw [← Draft.headers_of_finish hfinish]

/-- Where a connection has no credentials, a message has no field for them unless its
draft has. -/
theorem Connection.has_authorization_of_message {c : Connection} {draft : Draft} {m : Message}
    (hnone : c.authorization = none) (h : c.message draft = .ok m) :
    m.headers.has Header.authorization = draft.headers.has Header.authorization := by
  have huser : Header.userAgent ≠ Header.authorization := by decide
  have haccept : Header.accept ≠ Header.authorization := by decide
  rw [headers_of_message h, hnone]
  show (withDefaults c.userAgent draft.headers).has Header.authorization = _
  unfold withDefaults
  rw [Headers.has_setDefault haccept, Headers.has_setDefault huser]

end EntitlementClient
