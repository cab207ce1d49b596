import EntitlementClient.Catalogue.Consumers
import EntitlementClient.Client.Registration
import EntitlementClient.Http.Connection
import EntitlementClient.Operation.Call

/-!
# `EntitlementClient.Client.Basic`: clients

A `Client` holds its configuration, the connection made from it, and the uuid of the
consumer on whose behalf it acts, if there is one. A `Client.Update` changes a client in
place. When the configuration changes the connection is made anew first, and nothing is
taken over if that fails. So the connection is always the one that the configuration
describes, and the way of authenticating never changes.

`Client.exchange` sends one request and decodes the reply. `Client.register` registers a
consumer and gives a client that authenticates as that consumer.
-/

set_option autoImplicit false

namespace EntitlementClient

universe u

/-- A client of one server. -/
structure Client where
  /-- Where it connects and how it authenticates. -/
  config : TransportConfig
  /-- The connection made from that. -/
  connection : Connection
  /-- The uuid of its consumer. -/
  uuid : Option String
deriving DecidableEq, Inhabited

/-- Settings and possibly an identity for a client with a certificate. -/
structure CertificateOptions where
  /-- Where and how to connect. -/
  settings : Settings
  /-- The identity, if it is given and not taken from elsewhere. -/
  identity : ClientIdentity := {}
deriving DecidableEq, Repr, Inhabited

namespace Client

/-! ### Making clients -/

/-- The client of a configuration. -/
def make (host : Host) (config : TransportConfig) : Except ClientError Client :=
  match Connection.make host config with
  | .ok connection => .ok { config := config, connection := connection, uuid := none }
  | .error e => .error (.ofTransport e)

/-- The client without authentication. -/
def noAuth (host : Host) (settings : Settings) : Except ClientError Client :=
  make host { settings := settings, credentials := .none }

/-- The client with a user name and a password. -/
def basicAuth (host : Host) (settings : Settings) (credentials : BasicCredentials) :
    Except ClientError Client :=
  make host { settings := settings, credentials := .basic credentials }

/-- The client with a certificate. -/
def clientCertificate (host : Host) (options : CertificateOptions) : Except ClientError Client :=
  make host { settings := options.settings, credentials := .certificate options.identity }

/-- Succeeds when no identity is given, because it comes from elsewhere. -/
def refuseIdentity (options : CertificateOptions) : Except ClientError Unit :=
  if options.identity.certificate.isSome || options.identity.privateKey.isSome then
    .error (.argument .explicitCredentials)
  else .ok ()

/-- An outcome of the transport as a caller sees it. -/
def lift {α : Type u} : Except TransportError α → Except ClientError α
  | .ok a => .ok a
  | .error e => .error (.ofTransport e)

/-- The client of a registered consumer. -/
def ofRegistration (host : Host) (identity : RegistrationIdentity)
    (options : CertificateOptions) : Except ClientError Client := do
  refuseIdentity options
  let chain ← lift (CertificateChain.ofPem (Text.utf8 identity.texts.cert.toList))
  let key ← lift (PrivateKey.ofPem (Text.utf8 identity.texts.key.toList))
  let client ← clientCertificate host ⟨options.settings, ⟨some chain, some key⟩⟩
  return { client with uuid := identity.uuid }

/-- The client with a certificate and a key from files. -/
def ofFiles (host : Host) (certificatePath keyPath : String) (options : CertificateOptions) :
    Except ClientError Client := do
  refuseIdentity options
  let chain ← lift (CertificateChain.ofFile host certificatePath)
  let key ← lift (PrivateKey.ofFile host keyPath)
  clientCertificate host ⟨options.settings, ⟨some chain, some key⟩⟩

/-! ### Changing clients -/

/-- The way in which the client authenticates. -/
def mode (client : Client) : AuthMode := client.config.credentials.mode

/-- A change of a client in place. It leaves a client behind whether it succeeds or fails. -/
abbrev Update := ExceptT ClientError (StateM Client)

/-- Takes over another configuration and the connection made from it. -/
def replaceConfig (host : Host) (config : TransportConfig) : Update Unit := do
  let connection ← lift (Connection.make host config)
  modify fun client => { client with config := config }
  modify fun client => { client with connection := connection }

/-- Changes user name and password. -/
def switchCredentials (host : Host) (credentials : BasicCredentials) : Update Unit := do
  let client ← get
  if client.mode = .basicAuth then
    replaceConfig host { client.config with credentials := .basic credentials }
  else throw (.argument (.notBasicAuth client.mode))

/-- Changes the settings. -/
def reconfigure (host : Host) (change : Settings → Settings) : Update Unit := do
  let client ← get
  replaceConfig host { client.config with settings := change client.config.settings }

/-- Makes the connection anew. -/
def reload (host : Host) : Update Unit := do
  let client ← get
  replaceConfig host client.config

/-- Changes the uuid. -/
def setUuid (uuid : Option String) : Update Unit :=
  modify fun client => { client with uuid := uuid }

/-- A change that a caller asks for, with the host as it is at that time. -/
inductive Command where
  | switchCredentials (host : Host) (credentials : BasicCredentials)
  | reconfigure (host : Host) (change : Settings → Settings)
  | reload (host : Host)
  | setUuid (uuid : Option String)

/-- The update that a command stands for. -/
def Command.update : Command → Update Unit
  | switchCredentials host credentials => Client.switchCredentials host credentials
  | reconfigure host change => Client.reconfigure host change
  | reload host => Client.reload host
  | setUuid uuid => Client.setUuid uuid

/-- Whether a command succeeds, and the client that it leaves behind. -/
def perform (client : Client) (command : Command) : Except ClientError Unit × Client :=
  (command.update.run.run client).run

/-! ### Requests -/

/-- What the defaults of a call depend on. -/
def context (client : Client) (today : Date) : Context := ⟨client.uuid, today⟩

/-- The draft of a request. -/
def draft (client : Client) (request : Request) : Draft :=
  let draft := (client.connection.draft request.method request.path).setQuery request.query
  let draft := match request.accept with
    | some mediaType => draft.accept mediaType
    | none => draft
  match request.body with
  | some v => draft.json v
  | none => draft

/-- The content of a reply. A reply to a request for another media type than JSON is not
decoded as JSON; of JSON the names are turned into snake case. -/
def contentOf (client : Client) (request : Request) (reply : Reply) :
    Except TransportError Content :=
  let limit := client.connection.maxBodySize
  if request.accept.isSome then (reply.bytes limit).map Content.ofBytes
  else (reply.negotiate limit).map Content.keysFromWire

/-- The response that a reply gives. -/
def receive (client : Client) (request : Request) (reply : Reply) :
    Except TransportError Response :=
  (client.contentOf request reply).map fun content => ⟨reply.status, reply.contentType?, content⟩

/-- Sends a request and decodes the reply. -/
def exchange {σ : Type u} (client : Client) (peer : Peer σ) : Call.Server σ := fun s request =>
  match client.connection.send peer s (client.draft request) with
  | (.error e, s) => (.error (.ofTransport e), s)
  | (.ok reply, s) => (lift (client.receive request reply), s)

/-- Registers a consumer and gives a client with the same settings that authenticates as it. -/
def register (host : Host) (client : Client) (today : Date) (supplied : OptionSet) :
    Call Client := do
  let response ← Consumers.register.call (client.context today) supplied
  let consumer ← .done response.okJson
  let identity ← .done (RegistrationIdentity.ofJson consumer)
  .done (ofRegistration host identity { settings := client.config.settings })

end Client

end EntitlementClient
