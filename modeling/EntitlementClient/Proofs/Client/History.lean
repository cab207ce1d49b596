import EntitlementClient.Client.Basic
import EntitlementClient.Proofs.Http.Credentials
import EntitlementClient.Proofs.Tls.Host

/-!
# `EntitlementClient.Proofs.Client.History`: clients over their histories

A client stores its configuration, the connection made from it and its uuid as three
separate things, and four commands change them. `TransportConfig.Describes` says what it
means that a connection is the one of a configuration. A configuration describes one
connection only (`Describes.unique`), so a client can hold a stale one only by violating
the predicate. Whether the connection can be made at all depends on the host as well, and
`TransportConfig.Connects` says when.

`Client.perform_cases` states all that a command can do. It fails and leaves the client as
it was, or it takes over a configuration together with a connection made from it, or it
sets the uuid. Each property of one command is a short case analysis on that: the
connection stays the described one (`describes_perform`), the way of authenticating stays
(`mode_perform`), a failed command changes nothing (`perform_error`), a successful one
changes what it names and nothing else (`changesOnly_of_perform_ok`). `describes_after`
and `mode_after` carry the first two over every history by induction.

A client that a constructor gives (`Client.Built`) starts with a connection that was made
from its configuration (`Built.isMade`), and `isMade_after` keeps that too: there was a
host on which the configuration could connect. `described_after_history` puts all of it
together.
-/

set_option autoImplicit false

namespace EntitlementClient

/-! ### The connection that a configuration describes -/

/-- Credentials as a connection shows them: a user name and a password in a header field
of every request, a certificate and its key when the connection is set up. -/
def Credentials.ShownBy (connection : Connection) : Credentials → Prop
  | .none => connection.authorization = Option.none ∧ connection.identity = Option.none
  | .basic credentials =>
    connection.authorization = some credentials.header ∧ connection.identity = Option.none
  | .certificate identity =>
    connection.authorization = Option.none ∧
      ∃ chain key, identity.certificate = some chain ∧ identity.privateKey = some key ∧
        connection.identity = some (chain, key)

/-- The connection is the one that the configuration describes. -/
structure TransportConfig.Describes (config : TransportConfig) (connection : Connection) :
    Prop where
  baseUrl : connection.baseUrl = config.settings.baseUrl
  allowPlain : connection.allowPlain = true ↔ config.settings.useTls = false
  maxBodySize : connection.maxBodySize = config.settings.maxBodySize.toNat
  userAgent : connection.userAgent = config.settings.userAgent
  credentials : config.credentials.ShownBy connection

/-- A complete identity has both of its parts. -/
theorem ClientIdentity.complete_eq_ok {identity : ClientIdentity} {chain : CertificateChain}
    {key : PrivateKey} (h : identity.complete = .ok (chain, key)) :
    identity.certificate = some chain ∧ identity.privateKey = some key := by
  unfold complete at h
  split at h
  · rename_i hchain hkey
    cases h
    exact ⟨hchain, hkey⟩
  · cases h

/-- A connection that is described with the identity of the credentials shows these credentials: a
user name and a password in the field, an identity in TLS, or neither. -/
theorem Credentials.shownBy_describe {config : TransportConfig}
    {identity : Option (CertificateChain × PrivateKey)}
    (h : config.credentials.identity = .ok identity) :
    config.credentials.ShownBy (Connection.describe config identity) := by
  unfold Credentials.ShownBy
  split
  · rename_i hc
    rw [hc] at h
    cases h
    exact ⟨by simp [Connection.describe, Credentials.authorization, hc], rfl⟩
  · rename_i c hc
    rw [hc] at h
    cases h
    exact ⟨by simp [Connection.describe, Credentials.authorization, hc], rfl⟩
  · rename_i i hc
    rw [hc] at h
    cases hi : i.complete with
    | error e => simp [Credentials.identity, hi, Except.map] at h
    | ok pair =>
      obtain ⟨chain, key⟩ := pair
      obtain ⟨hchain, hkey⟩ := ClientIdentity.complete_eq_ok hi
      simp only [Credentials.identity, hi, Except.map, Except.ok.injEq] at h
      subst h
      exact ⟨by simp [Connection.describe, Credentials.authorization, hc],
        chain, key, hchain, hkey, rfl⟩

/-- The identity that credentials hold. A certificate and a key are one when both are
there, and the other credentials have none. -/
inductive Credentials.Hold : Credentials → Option (CertificateChain × PrivateKey) → Prop where
  | none : Hold .none Option.none
  | basic {credentials} : Hold (.basic credentials) Option.none
  | certificate {chain key} : Hold (.certificate ⟨some chain, some key⟩) (some (chain, key))

/-- The identity that is presented is the one that the credentials hold. Credentials that are no
identity hold none, and an identity holds one when both of its parts are there. -/
theorem Credentials.identity_eq_ok_iff {credentials : Credentials}
    {identity : Option (CertificateChain × PrivateKey)} :
    credentials.identity = .ok identity ↔ credentials.Hold identity := by
  constructor
  · intro h
    cases credentials with
    | none => cases h; exact .none
    | basic c => cases h; exact .basic
    | certificate i =>
      -- An identity is complete when nothing is missing, and is then presented as it is.
      obtain ⟨⟨chain, key⟩, hcomplete, rfl⟩ :
          ∃ pair, i.complete = .ok pair ∧ some pair = identity := by
        cases hi : i.complete with
        | error e => simp [Credentials.identity, hi, Except.map] at h
        | ok pair => exact ⟨pair, rfl, by simpa [Credentials.identity, hi, Except.map] using h⟩
      obtain ⟨hchain, hkey⟩ := ClientIdentity.complete_eq_ok hcomplete
      obtain ⟨certificate, privateKey⟩ := i
      dsimp only at hchain hkey
      subst hchain hkey
      exact .certificate
  · rintro ⟨⟩
    · rfl
    · rfl
    · rfl

/-- A connection with the configuration can be made on the host: the credentials are
complete, the host serves what they hold, and the client may call itself what the settings
say. -/
structure TransportConfig.Connects (config : TransportConfig) (host : Host) : Prop where
  serves : ∃ identity, config.credentials.Hold identity ∧ host.Serves config.settings identity
  userAgent : isHeaderValue config.settings.userAgent = true

/-- The header field of credentials can always be made, so it is the host and the name of
the client that decide. -/
theorem Connection.make_eq (host : Host) (config : TransportConfig) :
    make host config = do
      let identity ← config.credentials.identity
      host.checkTls config.settings identity
      checkUserAgent config.settings.userAgent
      return describe config identity := by
  rw [make, config.credentials.checkHeader_eq]
  rfl

/-- A client may call itself what can stand in a header field. -/
theorem Connection.checkUserAgent_ok_iff {userAgent : String} :
    checkUserAgent userAgent = .ok () ↔ isHeaderValue userAgent = true := by
  unfold checkUserAgent
  split
  · rename_i h
    exact ⟨fun _ => h, fun _ => rfl⟩
  · rename_i h
    exact ⟨fun hok => (nomatch hok), fun hvalue => absurd hvalue h⟩

/-- A connection can be made exactly where the configuration connects: the host serves its TLS,
and the name of the client can stand in a field. -/
theorem Connection.exists_make_iff {host : Host} {config : TransportConfig} :
    (∃ connection, make host config = .ok connection) ↔ config.Connects host := by
  simp only [make_eq, bind_eq_ok_iff, Credentials.identity_eq_ok_iff]
  constructor
  · rintro ⟨-, identity, hhold, _, htls, _, hagent, -⟩
    exact ⟨⟨identity, hhold, Host.checkTls_ok_iff.mp htls⟩, checkUserAgent_ok_iff.mp hagent⟩
  · rintro ⟨⟨identity, hhold, hserves⟩, hagent⟩
    exact ⟨_, identity, hhold, (), Host.checkTls_ok_iff.mpr hserves, (),
      checkUserAgent_ok_iff.mpr hagent, rfl⟩

/-- A connection that is made is the one that the configuration describes. The host decides
whether it is made, and adds nothing to it. -/
theorem Connection.describes_of_make {host : Host} {config : TransportConfig}
    {connection : Connection} (h : Connection.make host config = .ok connection) :
    config.Describes connection := by
  simp only [Connection.make_eq, bind_eq_ok_iff] at h
  obtain ⟨identity, hidentity, -, -, -, -, hconnection⟩ := h
  cases hconnection
  exact {
    baseUrl := rfl
    allowPlain := by simp [Connection.describe]
    maxBodySize := rfl
    userAgent := rfl
    credentials := Credentials.shownBy_describe hidentity }

/-- Credentials are shown in one way only. -/
theorem Credentials.ShownBy.unique {credentials : Credentials} {a b : Connection}
    (ha : credentials.ShownBy a) (hb : credentials.ShownBy b) :
    a.authorization = b.authorization ∧ a.identity = b.identity := by
  cases credentials with
  | none => exact ⟨ha.1.trans hb.1.symm, ha.2.trans hb.2.symm⟩
  | basic c => exact ⟨ha.1.trans hb.1.symm, ha.2.trans hb.2.symm⟩
  | certificate i =>
    obtain ⟨haAuthorization, chain, key, hchain, hkey, haIdentity⟩ := ha
    obtain ⟨hbAuthorization, chain', key', hchain', hkey', hbIdentity⟩ := hb
    rw [hchain] at hchain'
    rw [hkey] at hkey'
    cases hchain'
    cases hkey'
    exact ⟨haAuthorization.trans hbAuthorization.symm, haIdentity.trans hbIdentity.symm⟩

/-- A configuration describes one connection only. So to say what the configuration is says all
about the connection. -/
theorem TransportConfig.Describes.unique {config : TransportConfig} {a b : Connection}
    (ha : config.Describes a) (hb : config.Describes b) : a = b := by
  -- A connection has no field beside the six that are described.
  obtain ⟨baseUrl, allowPlain, maxBodySize, userAgent, authorization, identity⟩ := a
  obtain ⟨baseUrl', allowPlain', maxBodySize', userAgent', authorization', identity'⟩ := b
  have hbase : baseUrl = baseUrl' := ha.baseUrl.trans hb.baseUrl.symm
  have hplain : allowPlain = allowPlain' :=
    Bool.eq_iff_iff.mpr (ha.allowPlain.trans hb.allowPlain.symm)
  have hsize : maxBodySize = maxBodySize' := ha.maxBodySize.trans hb.maxBodySize.symm
  have hagent : userAgent = userAgent' := ha.userAgent.trans hb.userAgent.symm
  obtain ⟨hauthorization, hidentity⟩ := ha.credentials.unique hb.credentials
  simp only at hauthorization hidentity
  rw [hbase, hplain, hsize, hagent, hauthorization, hidentity]

namespace Client

/-! ### Construction -/

/-- The clients that the constructors give. -/
inductive Built : Client → Prop where
  | make {host config client} (h : make host config = .ok client) : Built client
  | noAuth {host settings client} (h : noAuth host settings = .ok client) : Built client
  | basicAuth {host settings credentials client}
      (h : basicAuth host settings credentials = .ok client) : Built client
  | clientCertificate {host options client}
      (h : clientCertificate host options = .ok client) : Built client
  | ofRegistration {host identity options client}
      (h : ofRegistration host identity options = .ok client) : Built client
  | ofFiles {host certificatePath keyPath options client}
      (h : ofFiles host certificatePath keyPath options = .ok client) : Built client

/-- The connection of the client was made from its configuration. -/
def IsMade (client : Client) : Prop :=
  ∃ host, Connection.make host client.config = .ok client.connection

/-- A client that was just made has a connection that was made from its configuration. -/
theorem isMade_of_make {host : Host} {config : TransportConfig} {client : Client}
    (h : make host config = .ok client) : client.IsMade := by
  unfold make at h
  split at h
  · rename_i connection hconnection
    cases h
    exact ⟨host, hconnection⟩
  · cases h

/-- So has a client from any of the constructors. The one for a registered consumer sets the uuid
afterwards, and that changes neither the configuration nor the connection. -/
theorem Built.isMade {client : Client} (h : Built client) : client.IsMade := by
  cases h with
  | make h => exact isMade_of_make h
  | noAuth h => exact isMade_of_make h
  | basicAuth h => exact isMade_of_make h
  | clientCertificate h => exact isMade_of_make h
  | ofRegistration h =>
    simp only [Client.ofRegistration, bind_eq_ok_iff] at h
    obtain ⟨-, -, chain, -, key, -, made, hmade, hclient⟩ := h
    cases hclient
    have hisMade : made.IsMade := isMade_of_make hmade
    exact hisMade
  | ofFiles h =>
    simp only [Client.ofFiles, bind_eq_ok_iff] at h
    obtain ⟨-, -, chain, -, key, -, hmade⟩ := h
    exact isMade_of_make hmade

/-- A connection that was made from a configuration is the one that the configuration describes. -/
theorem IsMade.describes {client : Client} (h : client.IsMade) :
    client.config.Describes client.connection := by
  obtain ⟨host, hmake⟩ := h
  exact Connection.describes_of_make hmake

/-- A client may call itself what its settings say. -/
theorem IsMade.isHeaderValue_userAgent {client : Client} (h : client.IsMade) :
    isHeaderValue client.config.settings.userAgent = true := by
  obtain ⟨host, hmake⟩ := h
  exact (Connection.exists_make_iff.mp ⟨_, hmake⟩).userAgent

/-! ### One command -/

/-- The configuration of which a command makes a connection, and the host that it sees. -/
inductive Command.Asks (client : Client) : Command → Host → TransportConfig → Prop where
  | switchCredentials {host credentials} (hmode : client.mode = .basicAuth) :
      Asks client (.switchCredentials host credentials) host
        { client.config with credentials := .basic credentials }
  | reconfigure {host change} :
      Asks client (.reconfigure host change) host
        { client.config with settings := change client.config.settings }
  | reload {host} : Asks client (.reload host) host client.config

/-- A command can be carried out: it sets the uuid, or what it asks for connects. -/
def Command.Possible (client : Client) (command : Command) : Prop :=
  (∃ uuid, command = .setUuid uuid) ∨
    ∃ host config, command.Asks client host config ∧ config.Connects host

/-- All that a command changes: the credentials, the settings, nothing, or the uuid. -/
def Command.ChangesOnly (before after : Client) : Command → Prop
  | switchCredentials _ credentials =>
    after.config = { before.config with credentials := .basic credentials } ∧
      after.uuid = before.uuid
  | reconfigure _ change =>
    after.config = { before.config with settings := change before.config.settings } ∧
      after.uuid = before.uuid
  | reload _ => after = before
  | setUuid uuid => after = { before with uuid := uuid }

/-- A configuration is taken over together with its connection, or not at all: the connection is
made first, and the client is changed only when that succeeds. -/
theorem run_replaceConfig (host : Host) (config : TransportConfig) (client : Client) :
    ((replaceConfig host config).run.run client).run =
      match Connection.make host config with
      | .ok connection => (.ok (), { client with config := config, connection := connection })
      | .error e => (.error (.ofTransport e), client) := by
  unfold replaceConfig
  cases Connection.make host config with
  | ok connection => rfl
  | error e => rfl

/-- Only a client with a password takes over another one. -/
theorem perform_switchCredentials (host : Host) (credentials : BasicCredentials)
    (client : Client) :
    client.perform (.switchCredentials host credentials) =
      if client.mode = .basicAuth then
        ((replaceConfig host
          { client.config with credentials := .basic credentials }).run.run client).run
      else (.error (.argument (.notBasicAuth client.mode)), client) := by
  -- `get` hands over the client itself, so the update is its two branches.
  show ((if client.mode = .basicAuth then
      replaceConfig host { client.config with credentials := .basic credentials }
    else throw (.argument (.notBasicAuth client.mode)) : Update Unit).run.run client).run = _
  split
  · rfl
  · rfl

/-- A command that asks for a configuration takes it over. In what it does it differs from other
commands only by the configuration that it asks for. -/
theorem Command.Asks.perform_eq {client : Client} {command : Command} {host : Host}
    {config : TransportConfig} (h : command.Asks client host config) :
    client.perform command = ((replaceConfig host config).run.run client).run := by
  cases h with
  | switchCredentials hmode => rw [perform_switchCredentials, if_pos hmode]
  | reconfigure => rfl
  | reload => rfl

/-- A command asks for one configuration only. -/
theorem Command.Asks.unique {client : Client} {command : Command} {host host' : Host}
    {config config' : TransportConfig} (h : command.Asks client host config)
    (h' : command.Asks client host' config') : host = host' ∧ config = config' := by
  cases h <;> cases h' <;> exact ⟨rfl, rfl⟩

/-- A command asks for a configuration, sets the uuid, or would change the password of a
client that has none. -/
theorem Command.asks_or (client : Client) (command : Command) :
    (∃ host config, command.Asks client host config) ∨ (∃ uuid, command = .setUuid uuid) ∨
      ∃ host credentials, command = .switchCredentials host credentials ∧
        client.mode ≠ .basicAuth := by
  cases command with
  | switchCredentials host credentials =>
    by_cases hmode : client.mode = .basicAuth
    · exact Or.inl ⟨_, _, .switchCredentials hmode⟩
    · exact Or.inr (Or.inr ⟨_, _, rfl, hmode⟩)
  | reconfigure host change => exact Or.inl ⟨_, _, .reconfigure⟩
  | reload host => exact Or.inl ⟨_, _, .reload⟩
  | setUuid uuid => exact Or.inr (Or.inl ⟨uuid, rfl⟩)

/-- A command fails and leaves the client as it was, takes over a configuration and its
connection, or sets the uuid. -/
theorem perform_cases (client : Client) (command : Command) :
    (∃ e, client.perform command = (.error e, client) ∧ ¬ command.Possible client) ∨
    (∃ host config connection, command.Asks client host config ∧
      Connection.make host config = .ok connection ∧
      client.perform command =
        (.ok (), { client with config := config, connection := connection })) ∨
    ∃ uuid, command = .setUuid uuid ∧
      client.perform command = (.ok (), { client with uuid := uuid }) := by
  rcases command.asks_or client with
    ⟨host, config, hasks⟩ | ⟨uuid, rfl⟩ | ⟨host, credentials, rfl, hmode⟩
  · rw [hasks.perform_eq, run_replaceConfig]
    cases hmake : Connection.make host config with
    | ok connection => exact Or.inr (Or.inl ⟨host, config, connection, hasks, hmake, rfl⟩)
    | error e =>
      -- It asks for no other configuration, so none of which a connection can be made.
      refine Or.inl ⟨_, rfl, ?_⟩
      rintro (⟨uuid, rfl⟩ | ⟨host', config', hasks', hconnects⟩)
      · cases hasks
      · obtain ⟨rfl, rfl⟩ := hasks.unique hasks'
        obtain ⟨connection, hmake'⟩ := Connection.exists_make_iff.mpr hconnects
        rw [hmake] at hmake'
        cases hmake'
  · exact Or.inr (Or.inr ⟨uuid, rfl, rfl⟩)
  · refine Or.inl ⟨.argument (.notBasicAuth client.mode), ?_, ?_⟩
    · rw [perform_switchCredentials, if_neg hmode]
    · rintro (⟨uuid, huuid⟩ | ⟨host', config', hasks, -⟩)
      · cases huuid
      · cases hasks
        contradiction

/-- A command that fails leaves the client as it was, with its configuration, its connection and
its uuid. -/
theorem perform_error {client : Client} {command : Command} {e : ClientError}
    (h : (client.perform command).1 = .error e) : (client.perform command).2 = client := by
  rcases client.perform_cases command with
    ⟨e', hperform, -⟩ | ⟨host, config, connection, -, -, hperform⟩ | ⟨uuid, -, hperform⟩
  · rw [hperform]
  · rw [hperform] at h
    cases h
  · rw [hperform] at h
    cases h

/-- A command succeeds exactly when it is possible. Setting the uuid always is. A command that
asks for a configuration is possible where that configuration connects. -/
theorem perform_ok_iff {client : Client} {command : Command} :
    (client.perform command).1 = .ok () ↔ command.Possible client := by
  rcases client.perform_cases command with
    ⟨e, hperform, hnot⟩ | ⟨host, config, connection, hasks, hmake, hperform⟩ |
      ⟨uuid, hcommand, hperform⟩
  · rw [hperform]
    exact ⟨fun h => (nomatch h), fun h => absurd h hnot⟩
  · rw [hperform]
    exact ⟨fun _ => Or.inr ⟨host, config, hasks, Connection.exists_make_iff.mp ⟨_, hmake⟩⟩,
      fun _ => rfl⟩
  · rw [hperform]
    exact ⟨fun _ => Or.inl ⟨uuid, hcommand⟩, fun _ => rfl⟩

/-- The connection stays the one that the configuration describes. This is one step of
`describes_after`. -/
theorem describes_perform {client : Client} (command : Command)
    (h : client.config.Describes client.connection) :
    (client.perform command).2.config.Describes (client.perform command).2.connection := by
  rcases client.perform_cases command with
    ⟨e, hperform, -⟩ | ⟨host, config, connection, -, hmake, hperform⟩ | ⟨uuid, -, hperform⟩
  · rw [hperform]
    exact h
  · rw [hperform]
    exact Connection.describes_of_make hmake
  · rw [hperform]
    exact h

/-- A command leaves a connection behind that was made from the configuration. One that fails
leaves the client as it is, and one that succeeds makes the connection anew. -/
theorem isMade_perform {client : Client} (command : Command) (h : client.IsMade) :
    (client.perform command).2.IsMade := by
  rcases client.perform_cases command with
    ⟨e, hperform, -⟩ | ⟨host, config, connection, -, hmake, hperform⟩ | ⟨uuid, -, hperform⟩
  · rw [hperform]
    exact h
  · rw [hperform]
    exact ⟨host, hmake⟩
  · rw [hperform]
    exact h

/-- No command changes the way of authenticating. -/
theorem mode_perform (client : Client) (command : Command) :
    (client.perform command).2.mode = client.mode := by
  rcases client.perform_cases command with
    ⟨e, hperform, -⟩ | ⟨host, config, connection, hasks, -, hperform⟩ | ⟨uuid, -, hperform⟩
  · rw [hperform]
  · rw [hperform]
    cases hasks with
    | switchCredentials hmode => exact hmode.symm
    | reconfigure => rfl
    | reload => rfl
  · rw [hperform]
    rfl

/-- A command that succeeds changes what it names and nothing else. The connection follows from
the new configuration. -/
theorem changesOnly_of_perform_ok {client : Client} {command : Command}
    (hdescribes : client.config.Describes client.connection)
    (h : (client.perform command).1 = .ok ()) :
    command.ChangesOnly client (client.perform command).2 := by
  rcases client.perform_cases command with
    ⟨e, hperform, -⟩ | ⟨host, config, connection, hasks, hmake, hperform⟩ |
      ⟨uuid, rfl, hperform⟩
  · rw [hperform] at h
    cases h
  · rw [hperform]
    cases hasks with
    | switchCredentials hmode => exact ⟨rfl, rfl⟩
    | reconfigure => exact ⟨rfl, rfl⟩
    | reload =>
      -- The connection made anew is described by the same configuration as the one before.
      have hsame : connection = client.connection :=
        (Connection.describes_of_make hmake).unique hdescribes
      show { client with config := client.config, connection := connection } = client
      rw [hsame]
  · rw [hperform]
    rfl

/-! ### Histories -/

/-- The client after commands in a row, whether they succeeded or not. -/
def after (client : Client) (commands : List Command) : Client :=
  commands.foldl (fun client command => (client.perform command).2) client

/-- The connection of a client is the one that its configuration describes after every history.
The induction goes over the commands, with the client generalised. -/
theorem describes_after {client : Client} (commands : List Command)
    (h : client.config.Describes client.connection) :
    (client.after commands).config.Describes (client.after commands).connection := by
  induction commands generalizing client with
  | nil => exact h
  | cons command rest ih => exact ih (describes_perform command h)

/-- The connection of a client was made from its configuration after every history, if it was at
the start. -/
theorem isMade_after {client : Client} (commands : List Command) (h : client.IsMade) :
    (client.after commands).IsMade := by
  induction commands generalizing client with
  | nil => exact h
  | cons command rest ih => exact ih (isMade_perform command h)

/-- The way of authenticating is the same after every history. -/
theorem mode_after (client : Client) (commands : List Command) :
    (client.after commands).mode = client.mode := by
  induction commands generalizing client with
  | nil => rfl
  | cons command rest ih =>
    calc ((client.perform command).2.after rest).mode
        = (client.perform command).2.mode := ih _
      _ = client.mode := mode_perform client command

/-- Take a client from any constructor and any history of commands, each with the host as
it finds it. Then its connection is the one that its configuration describes, and it
authenticates in the way in which it was constructed. The next command, whichever it is,
leaves the client as it was if it fails, and changes what it names and nothing else if it
succeeds; it succeeds exactly when it is possible. -/
theorem described_after_history {client : Client} (h : Built client) (commands : List Command) :
    (client.after commands).config.Describes (client.after commands).connection ∧
    (client.after commands).mode = client.mode ∧
    ∀ command : Command,
      (∀ e, ((client.after commands).perform command).1 = .error e →
        ((client.after commands).perform command).2 = client.after commands) ∧
      (((client.after commands).perform command).1 = .ok () →
        command.ChangesOnly (client.after commands) ((client.after commands).perform command).2) ∧
      (((client.after commands).perform command).1 = .ok () ↔
        command.Possible (client.after commands)) := by
  have hdescribes := describes_after commands h.isMade.describes
  refine ⟨hdescribes, mode_after client commands, fun command => ⟨?_, ?_, ?_⟩⟩
  · intro e he
    exact perform_error he
  · exact changesOnly_of_perform_ok hdescribes
  · exact perform_ok_iff

/-- A client with a password gets a uuid, is refused authorities that cannot be read, and
changes its password. Its connection then carries the new password, and asking for the
same authorities again changes nothing. -/
theorem described_after_history_refused_authorities :
    let refused : Command := .reconfigure .bare fun s =>
      { s with skipVerification := false, trustedAuthorities := some "/ca.pem" }
    let commands : List Command :=
      [.setUuid (some "c1"), refused, .switchCredentials .bare ⟨"admin", ⟨"other"⟩⟩]
    ∃ client, Built client ∧
      (client.after commands).config = ⟨.default, .basic ⟨"admin", ⟨"other"⟩⟩⟩ ∧
      (client.after commands).config.Describes (client.after commands).connection ∧
      (client.after commands).mode = .basicAuth ∧
      ((client.after commands).perform refused).1 =
        .error (.transport (.certificate
          (.unreadableCertificate "/ca.pem" "No such file or directory (os error 2)"))) ∧
      ((client.after commands).perform refused).2 = client.after commands := by
  dsimp only
  have hmade : basicAuth .bare .default .default =
      .ok ⟨⟨.default, .basic .default⟩, .describe ⟨.default, .basic .default⟩ none, none⟩ := rfl
  have hbuilt := Built.basicAuth hmade
  exact ⟨_, hbuilt, rfl, (described_after_history hbuilt _).1,
    (described_after_history hbuilt _).2.1, rfl,
    ((described_after_history hbuilt _).2.2 _).1 _ rfl⟩

end Client

end EntitlementClient
