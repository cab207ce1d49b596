import EntitlementClient.Http.Header
import EntitlementClient.Http.Url
import EntitlementClient.Json.Printer
import EntitlementClient.Query
import EntitlementClient.Request

/-!
# `EntitlementClient.Http.Draft`: requests in the making

A `Draft` is made in steps: fields are added, a query is set, a JSON body is set. A step
that fails is remembered, and the steps after it do nothing; the failure comes out when
the draft is finished (`Draft.finish`). A draft that is finished without failure is a
`Message`, which can be sent.
-/

set_option autoImplicit false

namespace EntitlementClient

/-- A request as it is sent. -/
structure Message where
  /-- The method. -/
  method : Method
  /-- The URL. -/
  url : String
  /-- The header fields. -/
  headers : Headers
  /-- The body, empty for none. -/
  body : String
deriving DecidableEq, Repr, Inhabited

/-- A request in the making. -/
structure Draft where
  /-- The method. -/
  method : Method
  /-- The URL without query. -/
  location : String
  /-- The query as a form, if one was set. -/
  query : Option String := none
  /-- The header fields. -/
  headers : Headers := []
  /-- The body, if one was set. -/
  body : Option String := none
  /-- The first failure of a step. -/
  failure : Option TransportError := none
deriving DecidableEq, Repr, Inhabited

namespace Draft

/-- The draft after a step, unless a step before it failed. -/
def step (draft : Draft) (f : Draft → Draft) : Draft :=
  if draft.failure.isSome then draft else f draft

/-- Adds a header field. -/
def header (draft : Draft) (name value : String) : Draft :=
  draft.step fun draft =>
    match Header.make name value with
    | .ok h => { draft with headers := draft.headers ++ [h] }
    | .error e => { draft with failure := some e }

/-- Asks for a media type. -/
def accept (draft : Draft) (mediaType : String) : Draft := draft.header Header.accept mediaType

/-- Sets the query. A query without pairs leaves the one set before. -/
def setQuery (draft : Draft) (q : Query) : Draft :=
  draft.step fun draft => if q.isEmpty then draft else { draft with query := some q.encode }

/-- The field that says that the body is JSON. -/
def jsonField : Header := { name := Header.contentType, value := Header.json }

/-- Sets a JSON body, and says so unless a field already says what the body is. -/
def json (draft : Draft) (v : Json) : Draft :=
  draft.step fun draft =>
    { draft with body := some v.render, headers := Headers.setDefault draft.headers jsonField }

/-- The URL with its query. -/
def url (draft : Draft) : String :=
  match draft.query with
  | some q => draft.location ++ "?" ++ q
  | none => draft.location

/-- The request to be sent, or the first thing that keeps it from being sent. -/
def finish (draft : Draft) : Except TransportError Message :=
  match draft.failure with
  | some e => .error e
  | none => do
    Url.check draft.url
    return { method := draft.method
             url := draft.url
             headers := draft.headers
             body := draft.body.getD "" }

end Draft

end EntitlementClient
