import EntitlementClient.Content
import EntitlementClient.Status

/-!
# `EntitlementClient.Error`: what can go wrong

Errors are causes. A `TransportError` arises below the resources: in building a
connection, in building a request, or in the exchange itself. A `ClientError` is what a
caller of an operation sees; those about options are raised before anything is sent. Each
type has one function `message` that gives the wording, and wording stands nowhere else.
-/

set_option autoImplicit false

namespace EntitlementClient

/-- Texts with a comma between. -/
def commaSeparated (parts : List String) : String := String.intercalate ", " parts

/-! ### Ways of authenticating -/

/-- How a client authenticates. -/
inductive AuthMode where
  | noAuth
  | basicAuth
  | clientCertificate
deriving DecidableEq, Repr, Inhabited

/-- The name of the way. -/
def AuthMode.name : AuthMode → String
  | .noAuth => "NoAuth"
  | .basicAuth => "BasicAuth"
  | .clientCertificate => "ClientCertificate"

/-! ### Errors of the transport -/

/-- What is wrong with certificates and keys. -/
inductive CertificateError where
  /-- The PEM text of certificates cannot be read. -/
  | invalidCertificate
  /-- The PEM text of a key cannot be read or holds no key. -/
  | invalidPrivateKey
  /-- The PEM text holds no certificate. -/
  | noCertificate
  /-- A certificate file cannot be read. -/
  | unreadableCertificate (path reason : String)
  /-- A key file cannot be read. -/
  | unreadablePrivateKey (path reason : String)
  /-- None of the certificates in a file can serve as an authority. -/
  | noUsableAuthority (path : String) (rejected : Nat)
deriving DecidableEq, Repr, Inhabited

/-- The wording. -/
def CertificateError.message : CertificateError → String
  | .invalidCertificate => "invalid certificate PEM"
  | .invalidPrivateKey => "invalid private key PEM"
  | .noCertificate => "no certificate found in PEM input"
  | .unreadableCertificate path reason =>
    "cannot read certificate " ++ path ++ ": " ++ reason
  | .unreadablePrivateKey path reason =>
    "cannot read private key " ++ path ++ ": " ++ reason
  | .noUsableAuthority path rejected =>
    "no usable CA certificate in " ++ path ++ " (" ++ toString rejected ++ " rejected)"

/-- What is wrong with a URL. -/
inductive UriProblem where
  | malformed
  | missingAuthority
  | missingScheme
deriving DecidableEq, Repr, Inhabited

/-- An error below the resources. -/
inductive TransportError where
  /-- A client certificate connection lacks these parts of its identity. -/
  | incompleteIdentity (missing : List String)
  /-- Certificates or keys cannot be used. -/
  | certificate (problem : CertificateError)
  /-- A header name is not a token. -/
  | invalidHeaderName
  /-- A header value holds a control character. -/
  | invalidHeaderValue
  /-- The exchange failed: refused, broken off, or spoken in another protocol. -/
  | connection
  /-- TLS cannot be set up: no version of it is spoken, no authority is there to trust, or
  the client identity cannot be presented. -/
  | tls
  /-- The body of the reply is longer than allowed. -/
  | bodyTooLarge (limit actual : Nat)
  /-- A body announced as JSON is not JSON. -/
  | json
  /-- The URL cannot be used. -/
  | invalidUri (problem : UriProblem)
  /-- The scheme of the URL is not the one that the settings ask for. -/
  | invalidScheme (scheme : String)
deriving DecidableEq, Repr, Inhabited

/-- The parts that an incomplete identity lacks, as a phrase. -/
def incompleteIdentityText (missing : List String) : String :=
  "client certificate authentication requires " ++ commaSeparated missing

/-- The wording. -/
def TransportError.message : TransportError → String
  | .incompleteIdentity missing =>
    "Invalid transport configuration: " ++ incompleteIdentityText missing
  | .certificate problem => "Invalid certificate material: " ++ problem.message
  | .invalidHeaderName => "Invalid header name: invalid HTTP header name"
  | .invalidHeaderValue => "Invalid header value: failed to parse header value"
  | .connection => "Transport error"
  | .tls => "TLS error"
  | .bodyTooLarge limit actual =>
    "Response body too large: limit " ++ toString limit ++ " bytes, got " ++ toString actual
      ++ " bytes"
  | .json => "JSON processing failed"
  | .invalidUri _ => "Invalid URL"
  | .invalidScheme scheme => "URL scheme '" ++ scheme ++ "' not allowed"

/-! ### Errors of the client -/

/-- What is wrong with an argument. -/
inductive ArgumentError where
  /-- A list or an object cannot be a path segment. -/
  | notASegment (key : String)
  /-- Options are an object or absent. -/
  | notOptions (value : Json)
  /-- A certificate or key was given although both come from elsewhere. -/
  | explicitCredentials
  /-- Only a client with a user name and password can switch to others. -/
  | notBasicAuth (mode : AuthMode)
deriving DecidableEq, Repr, Inhabited

/-- The wording. -/
def ArgumentError.message : ArgumentError → String
  | .notASegment key => "parameter '" ++ key ++ "' cannot be used as a path segment"
  | .notOptions value => "options must be an object, got " ++ value.render
  | .explicitCredentials =>
    "cannot specify certificate and private key when they are derived from another source"
  | .notBasicAuth mode =>
    "credentials can only be switched on a basic-auth client, this one uses " ++ mode.name

/-- Why a value is no registration identity. -/
inductive IdentityError where
  /-- A member is absent. -/
  | missingField (name : String)
  /-- A member is there under both of its names. -/
  | duplicateField (name : String)
  /-- A value is of another kind than the expected one. -/
  | wrongKind (found : Json) (expected : String)
  /-- A list of fields is too short or too long. -/
  | wrongLength (length : Nat) (expected : String)
deriving DecidableEq, Repr, Inhabited

/-- A value named by its kind; scalars with their text. -/
def Json.kindText : Json → String
  | .null => "null"
  | .bool b => "boolean \x60" ++ (if b then "true" else "false") ++ "\x60"
  | .number (.integer n) =>
    "integer \x60" ++ String.ofList (Number.integer n).render ++ "\x60"
  | .number (.float x) =>
    "floating point \x60" ++ String.ofList (Number.float x).render ++ "\x60"
  | .string s => "string " ++ String.ofList (Text.quote s.toList)
  | .array _ => "sequence"
  | .object _ => "map"

/-- The wording. -/
def IdentityError.message : IdentityError → String
  | .missingField name => "missing field \x60" ++ name ++ "\x60"
  | .duplicateField name => "duplicate field \x60" ++ name ++ "\x60"
  | .wrongKind found expected =>
    "invalid type: " ++ found.kindText ++ ", expected " ++ expected
  | .wrongLength length expected =>
    "invalid length " ++ toString length ++ ", expected " ++ expected

/-- Why the content of a reply is not the expected one. -/
inductive DecodeError where
  /-- Neither JSON nor text. -/
  | binaryContent (size : Nat) (status : Status)
  /-- Not JSON. -/
  | notJson (content : Content)
  /-- A role that the server returned has no id. -/
  | roleWithoutId (role : String)
  /-- No registration identity. -/
  | identity (problem : IdentityError)
deriving DecidableEq, Repr, Inhabited

/-- The wording. -/
def DecodeError.message : DecodeError → String
  | .binaryContent size status =>
    "expected JSON or text, got " ++ toString size ++ " bytes of binary content (status "
      ++ status.text ++ ")"
  | .notJson content => "expected JSON body, got " ++ content.describe
  | .roleWithoutId role => "role " ++ role ++ " has no id"
  | .identity problem => "invalid registration identity: " ++ problem.message

/-- An error that a caller of the client sees. -/
inductive ClientError where
  /-- The options name parameters that the operation does not declare. -/
  | unknownParameter (keys : List String)
  /-- Required options are null or fail their check. -/
  | missingRequiredParameter (keys : List String)
  /-- Keys were asked of an option set that does not have them. -/
  | missingKey (keys : List String)
  /-- An argument cannot be used. -/
  | argument (problem : ArgumentError)
  /-- A client certificate connection lacks these parts of its identity. -/
  | configuration (missing : List String)
  /-- The reply is no success, where one was required. -/
  | unexpectedStatus (status : Status) (body : String)
  /-- The content of a reply is not the expected one. -/
  | decode (problem : DecodeError)
  /-- An error below the resources. -/
  | transport (problem : TransportError)
deriving DecidableEq, Repr, Inhabited

namespace ClientError

/-- An error of the transport as a caller sees it. -/
def ofTransport : TransportError → ClientError
  | .incompleteIdentity missing => .configuration missing
  | e => .transport e

/-- The wording. -/
def message : ClientError → String
  | .unknownParameter keys => "unknown parameter(s): " ++ commaSeparated keys
  | .missingRequiredParameter keys =>
    "missing or invalid value for parameter(s): " ++ commaSeparated keys
  | .missingKey keys => "missing key(s): " ++ commaSeparated keys
  | .argument problem => "invalid argument: " ++ problem.message
  | .configuration missing => "invalid configuration: " ++ incompleteIdentityText missing
  | .unexpectedStatus status body =>
    "unexpected HTTP status " ++ status.text ++ ": " ++ body
  | .decode problem => "cannot decode response: " ++ problem.message
  | .transport problem => problem.message

end ClientError

end EntitlementClient
