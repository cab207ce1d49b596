import EntitlementClient.Error
import EntitlementClient.Text.Utf8

/-!
# `EntitlementClient.Http.Url`: URLs of requests

A URL is the base URL of the server, a path, and a query after a question mark. Nothing is
escaped or normalised when it is put together. `checkUrl` decides which URLs can be sent:
it looks at the bytes of the authority, of the path and of the query, each of which has
its own set. From the first number sign on, nothing is looked at, because that part is not
sent.
-/

set_option autoImplicit false

namespace EntitlementClient.Url

/-! ### Putting URLs together -/

/-- The characters without the slashes at the end. -/
def trimSlashes (cs : List Char) : List Char := (cs.reverse.dropWhile (· = '/')).reverse

/-- The URL of a path below a base URL, with one slash between them. -/
def join (base path : String) : String :=
  let base := String.ofList (trimSlashes base.toList)
  if path.toList.head? = some '/' then base ++ path else base ++ "/" ++ path

/-- The longest URL, in bytes. -/
def maxLength : Nat := 65534

/-! ### Authorities -/

/-- Whether a byte is a letter or a digit. -/
def isAlphanumeric (b : UInt8) : Bool :=
  (48 ≤ b && b ≤ 57) || (65 ≤ b && b ≤ 90) || (97 ≤ b && b ≤ 122)

/-- The bytes that may stand in an authority without a meaning of their own. -/
def authorityMarks : List UInt8 := Text.utf8 "-._~!$&'()*+,;=".toList

/-- What was seen of an authority. Colons and percent signs count since the last at sign
or closing bracket only, because those before it belong to the user or to an address in
brackets. -/
structure AuthorityScan where
  colons : Nat := 0
  opened : Bool := false
  closed : Bool := false
  percent : Bool := false
  afterAt : Bool := false
deriving DecidableEq, Repr, Inhabited

namespace AuthorityScan

/-- The most colons that an address may have. -/
def maxColons : Nat := 8

/-- What is seen after one more byte, if it may stand there. -/
def step? (s : AuthorityScan) (b : UInt8) : Option AuthorityScan :=
  if b = 58 then
    if s.colons < maxColons then some { s with colons := s.colons + 1, afterAt := false } else none
  else if b = 91 then
    if s.percent || s.opened then none else some { s with opened := true, afterAt := false }
  else if b = 93 then
    if !s.opened || s.closed then none
    else some { s with closed := true, colons := 0, percent := false, afterAt := false }
  else if b = 64 then some { s with colons := 0, percent := false, afterAt := true }
  else if b = 37 then some { s with percent := true, afterAt := false }
  else if isAlphanumeric b || authorityMarks.contains b then some { s with afterAt := false }
  else none

/-- What is seen of a whole authority, if its bytes may stand there. -/
def run? : AuthorityScan → List UInt8 → Option AuthorityScan
  | s, [] => some s
  | s, b :: rest => (s.step? b).bind fun s => s.run? rest

/-- Whether the authority is complete: brackets closed, at most one colon left, for the
port, and no percent sign in the host. -/
def isComplete (s : AuthorityScan) : Bool :=
  s.opened = s.closed && s.colons ≤ 1 && !s.afterAt && !s.percent

end AuthorityScan

/-- Whether the bytes are an authority. -/
def isAuthority (bytes : List UInt8) : Bool :=
  !bytes.isEmpty && ((AuthorityScan.run? {} bytes).map AuthorityScan.isComplete).getD false

/-! ### Paths and queries -/

/-- Whether a byte may stand in a path. -/
def isPathByte (b : UInt8) : Bool :=
  b = 0x21 || (0x24 ≤ b && b ≤ 0x3b) || b = 0x3d || (0x40 ≤ b && b ≤ 0x5f)
    || (0x61 ≤ b && b ≤ 0x7a) || b = 0x7c || b = 0x7e || b = 0x22 || b = 0x7b || b = 0x7d
    || 0x80 ≤ b

/-- Whether a byte may stand in a query. -/
def isQueryByte (b : UInt8) : Bool :=
  b = 0x21 || (0x24 ≤ b && b ≤ 0x3b) || b = 0x3d || (0x3f ≤ b && b ≤ 0x7e) || 0x80 ≤ b

/-- Whether the bytes are a query and possibly a fragment. -/
def isQuery : List UInt8 → Bool
  | [] => true
  | b :: rest => b = 0x23 || (isQueryByte b && isQuery rest)

/-- Whether the bytes are a path and possibly a query and a fragment. -/
def isPath : List UInt8 → Bool
  | [] => true
  | b :: rest => b = 0x23 || (if b = 0x3f then isQuery rest else isPathByte b && isPath rest)

/-! ### URLs -/

/-- Whether a byte ends the authority: a slash, a question mark or a number sign. -/
def endsAuthority (b : UInt8) : Bool := b = 0x2f || b = 0x3f || b = 0x23

/-- What follows the first two slashes after the scheme of a URL, if it is one that can be
sent. -/
def afterScheme? (url : List Char) : Option (List Char) :=
  if "https://".toList.isPrefixOf url then some (url.drop 8)
  else if "http://".toList.isPrefixOf url then some (url.drop 7)
  else none

/-- Whether what follows the scheme is an authority and a path. -/
def isHierarchy (bytes : List UInt8) : Bool :=
  isAuthority (bytes.takeWhile fun b => !endsAuthority b)
    && isPath (bytes.dropWhile fun b => !endsAuthority b)

/-- Succeeds for a URL that can be sent. -/
def check (url : String) : Except TransportError Unit :=
  match afterScheme? url.toList with
  | none => .error (.invalidUri .missingScheme)
  | some rest =>
    if url.utf8ByteSize ≤ maxLength && isHierarchy (Text.utf8 rest) then .ok ()
    else .error (.invalidUri .malformed)

end EntitlementClient.Url
