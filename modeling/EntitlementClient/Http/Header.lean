import EntitlementClient.Error

/-!
# `EntitlementClient.Http.Header`: header fields

A header name is a token and is kept in lower case, so that names compare without regard
to case. A header value holds no control character but the tab. `Headers` are fields in
the order of sending; a name may repeat. `Headers.set` leaves one field of a name,
`Headers.setDefault` gives way to fields that are there.
-/

set_option autoImplicit false

namespace EntitlementClient

/-! ### Names and values -/

/-- Whether a character may stand in a token. -/
def isTokenChar (c : Char) : Bool := c.isAlphanum || "!#$%&'*+-.^_\x60|~".toList.contains c

/-- The longest header name. -/
def maxHeaderName : Nat := 65535

/-- Whether the text is a header name. -/
def isHeaderName (name : String) : Bool :=
  !name.isEmpty && name.toList.all isTokenChar && name.length ≤ maxHeaderName

/-- Whether a character may stand in a header value. -/
def isValueChar (c : Char) : Bool := c = '\t' || (0x20 ≤ c.toNat && c.toNat ≠ 0x7f)

/-- Whether the text is a header value. -/
def isHeaderValue (value : String) : Bool := value.toList.all isValueChar

/-- A header field. -/
structure Header where
  /-- The name, in lower case. -/
  name : String
  /-- The value. -/
  value : String
  /-- Whether the value is to be kept from being shown. -/
  sensitive : Bool := false
deriving DecidableEq, Repr, Inhabited

namespace Header

/-- The name without its case. -/
def foldName (name : String) : String := String.ofList (name.toList.map Char.toLower)

/-- A field of the name and value given. A name that cannot be used is reported before a value. -/
def make (name value : String) : Except TransportError Header :=
  if !isHeaderName name then .error .invalidHeaderName
  else if !isHeaderValue value then .error .invalidHeaderValue
  else .ok { name := foldName name, value := value }

/-- The name of the field that says which media types are asked for. -/
def accept : String := "accept"

/-- The name of the field that carries credentials. -/
def authorization : String := "authorization"

/-- The name of the field that says what the body is. -/
def contentType : String := "content-type"

/-- The name of the field that says who asks. -/
def userAgent : String := "user-agent"

/-- The media type of JSON. -/
def json : String := "application/json"

end Header

/-! ### Fields of a message -/

/-- The fields of a message, in the order of sending. -/
abbrev Headers := List Header

namespace Headers

/-- Whether there is a field of the name. -/
def has (headers : Headers) (name : String) : Bool := headers.any fun h => h.name = name

/-- The values of the fields of a name, in order. -/
def values (headers : Headers) (name : String) : List String :=
  (headers.filter fun h => h.name = name).map Header.value

/-- The fields with all of one name replaced by the one given. -/
def set (headers : Headers) (header : Header) : Headers :=
  headers.filter (fun h => h.name ≠ header.name) ++ [header]

/-- The fields with the one given added if there is none of its name. -/
def setDefault (headers : Headers) (header : Header) : Headers :=
  if headers.has header.name then headers else headers ++ [header]

end Headers

end EntitlementClient
