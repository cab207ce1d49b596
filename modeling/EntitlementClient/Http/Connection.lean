import EntitlementClient.Http.Credentials
import EntitlementClient.Http.Draft
import EntitlementClient.Http.Reply
import EntitlementClient.Tls.Host

/-!
# `EntitlementClient.Http.Connection`: connections to a server

A `Connection` is made from settings and credentials (`TransportConfig`) and does not
change. Making one checks, in this order, that

1. a client identity is complete,
2. connections can be made over TLS (`Host.checkTls`): there is a version to speak, there
   are authorities to verify the server by, unless any certificate of the server is
   accepted, and the client identity can be presented,
3. the header field of the credentials can be made,
4. the name that the client gives itself can be sent.

A draft is finished and gets the fields that every request carries (`Connection.message`):
the name of the client and JSON as the media type unless the draft says otherwise, and the
credentials in place of what the draft says.

Below a connection lies a layer that undoes the compression of replies. It is not
described here: a message is what the layer is handed, before it names the compressions
that it understands, and a `Reply` is what it hands back, with its body decompressed. A
`Peer` is the server together with that layer and the network.
-/

set_option autoImplicit false

namespace EntitlementClient

/-- Where to connect and how to authenticate. -/
structure TransportConfig where
  /-- Where and how to connect. -/
  settings : Settings
  /-- How to authenticate. -/
  credentials : Credentials
deriving DecidableEq, Inhabited

/-- A connection. -/
structure Connection where
  /-- The URL below which requests go. -/
  baseUrl : String
  /-- Whether requests may go over plain HTTP. -/
  allowPlain : Bool
  /-- How many bytes the body of a reply may have. -/
  maxBodySize : Nat
  /-- What the client calls itself. -/
  userAgent : String
  /-- The credentials that are sent with every request. -/
  authorization : Option Header
  /-- The identity that is presented when the server asks for one. -/
  identity : Option (CertificateChain × PrivateKey)
deriving DecidableEq, Repr, Inhabited

/-! ### Connections -/

/-- The identity of a client that authenticates with a certificate. -/
def Credentials.identity : Credentials →
    Except TransportError (Option (CertificateChain × PrivateKey))
  | .certificate identity => identity.complete.map some
  | _ => .ok Option.none

/-- The header field of a client that authenticates with a password. -/
def Credentials.authorization : Credentials → Option Header
  | .basic credentials => some credentials.header
  | _ => Option.none

/-- Succeeds when the header field of the credentials, if they have one, can be made. -/
def Credentials.checkHeader : Credentials → Except TransportError Unit
  | .basic credentials => credentials.makeHeader.map fun _ => ()
  | _ => .ok ()

namespace Connection

/-- The connection that a configuration describes, with the identity already completed. -/
def describe (config : TransportConfig) (identity : Option (CertificateChain × PrivateKey)) :
    Connection :=
  { baseUrl := config.settings.baseUrl
    allowPlain := !config.settings.useTls
    maxBodySize := config.settings.maxBodySize.toNat
    userAgent := config.settings.userAgent
    authorization := config.credentials.authorization
    identity := identity }

/-- Succeeds when a client may call itself so. -/
def checkUserAgent (userAgent : String) : Except TransportError Unit :=
  if isHeaderValue userAgent then .ok () else .error .invalidHeaderValue

/-- Makes a connection on a host. -/
def make (host : Host) (config : TransportConfig) : Except TransportError Connection := do
  let identity ← config.credentials.identity
  host.checkTls config.settings identity
  config.credentials.checkHeader
  checkUserAgent config.settings.userAgent
  return describe config identity

/-- A connection as it is shown: its address and its limit. -/
def shown (c : Connection) : String :=
  "HttpClient \x7b base_url: " ++ String.ofList (Text.quote c.baseUrl.toList)
    ++ ", max_body_size: " ++ toString c.maxBodySize ++ ", .. \x7d"

/-- Begins a request on a path. -/
def draft (c : Connection) (method : Method) (path : String) : Draft :=
  { method := method, location := Url.join c.baseUrl path }

/-- The fields that every request carries, where the request has none of its own. -/
def withDefaults (userAgent : String) (headers : Headers) : Headers :=
  (headers.setDefault { name := Header.userAgent, value := userAgent }).setDefault
    { name := Header.accept, value := Header.json }

/-- The credentials in place of what the request says. -/
def withAuthorization (authorization : Option Header) (headers : Headers) : Headers :=
  match authorization with
  | some header => headers.set header
  | none => headers

/-- Succeeds when a URL may be used on the connection. -/
def checkScheme (c : Connection) (url : String) : Except TransportError Unit :=
  if c.allowPlain || "https://".toList.isPrefixOf url.toList then .ok ()
  else .error (.invalidScheme "http")

/-- The message of a draft as the connection hands it down, with all fields that the
connection adds. The compressions that a reply may have are named below it, if the draft
names none. -/
def message (c : Connection) (draft : Draft) : Except TransportError Message := do
  let m ← draft.finish
  c.checkScheme m.url
  return { m with headers := withAuthorization c.authorization (withDefaults c.userAgent m.headers) }

end Connection

/-! ### Servers -/

universe u

/-- A server and the way to it, down from where messages are handed over and up to where
the body of a reply is decompressed: it answers a message, or the exchange fails, and goes
into its next state. -/
abbrev Peer (σ : Type u) := σ → Message → Except TransportError Reply × σ

/-- The peer that cannot be reached. -/
def unreachable {σ : Type u} : Peer σ := fun s _ => (.error .connection, s)

/-- Sends a draft. A draft that fails does not reach the peer. -/
def Connection.send {σ : Type u} (c : Connection) (peer : Peer σ) (s : σ) (draft : Draft) :
    Except TransportError Reply × σ :=
  match c.message draft with
  | .error e => (.error e, s)
  | .ok m => peer s m

end EntitlementClient
