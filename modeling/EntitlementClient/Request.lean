import EntitlementClient.Query

/-!
# `EntitlementClient.Request`: requests on resources

A request names a method and a path below the base URL of the server, and carries a query
and possibly a JSON body. A request with an `accept` asks for that media type instead of
JSON; the content of its reply is then not decoded as JSON.
-/

set_option autoImplicit false

namespace EntitlementClient

/-- The methods of requests. Resources use the first four. -/
inductive Method where
  | get
  | post
  | put
  | delete
  | other (name : String)
deriving DecidableEq, Repr, Inhabited

namespace Method

/-- The name of the method on the wire. -/
def name : Method → String
  | .get => "GET"
  | .post => "POST"
  | .put => "PUT"
  | .delete => "DELETE"
  | .other name => name

/-- The method with a name. -/
def ofName (name : String) : Method :=
  if name = "GET" then .get
  else if name = "POST" then .post
  else if name = "PUT" then .put
  else if name = "DELETE" then .delete
  else .other name

end Method

/-- A request on a resource. -/
structure Request where
  /-- The method. -/
  method : Method
  /-- The path below the base URL. -/
  path : String
  /-- The query. -/
  query : Query
  /-- The JSON body. -/
  body : Option Json
  /-- The media type asked for instead of JSON. -/
  accept : Option String
deriving DecidableEq, Repr, Inhabited

end EntitlementClient
