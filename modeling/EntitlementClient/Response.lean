import EntitlementClient.Error

/-!
# `EntitlementClient.Response`: replies and what callers make of them

A reply with any status is a response. `Response.ok` gives the content of a success and
makes an error of anything else; `Response.okContent` turns the content into a JSON value,
`Response.okJson` insists that it was JSON.
-/

set_option autoImplicit false

namespace EntitlementClient

/-- A reply with its decoded body. -/
structure Response where
  /-- The status. -/
  status : Status
  /-- The content type, if the server gave a readable one. -/
  contentType : Option String
  /-- The decoded body. -/
  content : Content
deriving DecidableEq, Repr, Inhabited

namespace Response

/-- Whether the reply is a success. -/
def isSuccess (r : Response) : Bool := r.status.isSuccess

/-- The content, if it is JSON. -/
def json? (r : Response) : Option Json :=
  match r.content with
  | .json v => some v
  | _ => none

/-- The content, if it is text. -/
def text? (r : Response) : Option String :=
  match r.content with
  | .text t => some t
  | _ => none

/-- The content as the body text of an error. -/
def bodyText : Content → String
  | .json v => v.render
  | .text t => t
  | .binary bytes => "<" ++ toString bytes.length ++ " bytes>"
  | .empty => ""

/-- The content of a success. -/
def ok (r : Response) : Except ClientError Content :=
  if r.isSuccess then .ok r.content else .error (.unexpectedStatus r.status (bodyText r.content))

/-- The content of a success as a JSON value: text becomes a string and no content null. -/
def okContent (r : Response) : Except ClientError Json := do
  match ← r.ok with
  | .json v => return v
  | .text t => return .string t
  | .empty => return .null
  | .binary bytes => throw (.decode (.binaryContent bytes.length r.status))

/-- The JSON content of a success. -/
def okJson (r : Response) : Except ClientError Json := do
  match ← r.ok with
  | .json v => return v
  | c => throw (.decode (.notJson c))

end Response

end EntitlementClient
