import EntitlementClient.Http.Header
import EntitlementClient.Text.Base64
import EntitlementClient.Text.Utf8
import EntitlementClient.Tls.Material

/-!
# `EntitlementClient.Http.Credentials`: how a client authenticates

A client authenticates in one way: not at all, with a user name and a password that are
sent with every request, or with a certificate when the connection is set up. A
certificate and its key may be missing while they are collected; a connection needs both
(`ClientIdentity.complete`).

A password is shown as `[REDACTED]`.
-/

set_option autoImplicit false

namespace EntitlementClient

/-! ### Passwords -/

/-- A password. -/
structure Password where
  /-- What it is. -/
  secret : String
deriving DecidableEq, Inhabited

/-- The password as it is shown: not what it is. -/
def Password.shown (_password : Password) : String := "[REDACTED]"

/-! ### User names -/

/-- A user name and a password. -/
structure BasicCredentials where
  /-- The user name. -/
  username : String
  /-- The password. -/
  password : Password
deriving DecidableEq, Inhabited

namespace BasicCredentials

/-- The credentials of a new server. -/
def default : BasicCredentials := ⟨"admin", ⟨"admin"⟩⟩

/-- The text that is encoded: user name and password with a colon between. -/
def plainText (c : BasicCredentials) : String := c.username ++ ":" ++ c.password.secret

/-- The value of the header field that carries the credentials. -/
def headerValue (c : BasicCredentials) : String :=
  "Basic " ++ String.ofList (Text.Base64.encode (Text.utf8 c.plainText.toList))

/-- The header field that carries the credentials. -/
def header (c : BasicCredentials) : Header :=
  { name := Header.authorization, value := c.headerValue, sensitive := true }

/-- Makes the header field. A value that no field may have is refused. -/
def makeHeader (c : BasicCredentials) : Except TransportError Header :=
  if isHeaderValue c.headerValue then .ok c.header else .error .invalidHeaderValue

end BasicCredentials

/-! ### Certificates -/

/-- A certificate chain and its key, each of which may be missing. -/
structure ClientIdentity where
  /-- The certificates. -/
  certificate : Option CertificateChain := none
  /-- The key. -/
  privateKey : Option PrivateKey := none
deriving DecidableEq, Repr, Inhabited

namespace ClientIdentity

/-- The names of the parts that are missing. -/
def missing (identity : ClientIdentity) : List String :=
  (if identity.certificate.isNone then ["certificate"] else [])
    ++ (if identity.privateKey.isNone then ["private_key"] else [])

/-- Both parts, or an error that names all that are missing. -/
def complete (identity : ClientIdentity) :
    Except TransportError (CertificateChain × PrivateKey) :=
  match identity.certificate, identity.privateKey with
  | some chain, some key => .ok (chain, key)
  | _, _ => .error (.incompleteIdentity identity.missing)

end ClientIdentity

/-! ### Credentials -/

/-- How a client authenticates, with what it needs for that. -/
inductive Credentials where
  | none
  | basic (credentials : BasicCredentials)
  | certificate (identity : ClientIdentity)
deriving DecidableEq, Inhabited

/-- The way of authenticating. -/
def Credentials.mode : Credentials → AuthMode
  | .none => .noAuth
  | .basic _ => .basicAuth
  | .certificate _ => .clientCertificate

end EntitlementClient
