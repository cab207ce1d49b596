import EntitlementClient.Proofs.Client.History
import EntitlementClient.Proofs.Http.Credentials
import EntitlementClient.Proofs.Http.Draft

/-!
# `EntitlementClient.Proofs.Client.Consumer`: the client of a registered consumer

`RegistrationIdentity.ComesTo` lists what becomes of an identity under given settings on a
host: a certificate error of its texts, an error that says what the host lacks
(`Host.Refuses`), or a client. `Client.ofRegistration_comesTo` shows that there is nothing
else.

The client that an identity comes to is determined by the identity and the settings
(`RegistrationIdentity.ComesTo.unique`). The host decides only whether there is one, and
hosts that agree where the settings ask decide alike (`Client.ofRegistration_congr`). The
client authenticates with its certificate whatever commands follow, so none of its
messages has credentials in a header field (`Client.has_authorization_of_certificate`).
-/

set_option autoImplicit false

namespace EntitlementClient

/-! ### What an identity comes to -/

/-- The certificates of an identity. -/
def RegistrationIdentity.chain (identity : RegistrationIdentity) :
    Except TransportError CertificateChain :=
  CertificateChain.ofPem (Text.utf8 identity.texts.cert.toList)

/-- The key of an identity. -/
def RegistrationIdentity.key (identity : RegistrationIdentity) : Except TransportError PrivateKey :=
  PrivateKey.ofPem (Text.utf8 identity.texts.key.toList)

/-- What an identity comes to under the settings on a host. -/
inductive RegistrationIdentity.ComesTo (identity : RegistrationIdentity) (host : Host)
    (settings : Settings) : Except ClientError Client → Prop where
  /-- The certificate text is faulty. -/
  | badChain {problem} (h : identity.chain = .error (.certificate problem)) :
      ComesTo identity host settings (.error (.transport (.certificate problem)))
  /-- The key text is faulty. -/
  | badKey {chain problem} (hchain : identity.chain = .ok chain)
      (h : identity.key = .error (.certificate problem)) :
      ComesTo identity host settings (.error (.transport (.certificate problem)))
  /-- The host lacks something, or cannot present certificate and key. -/
  | refused {chain key e} (hchain : identity.chain = .ok chain) (hkey : identity.key = .ok key)
      (h : host.Refuses settings (some (chain, key)) e) :
      ComesTo identity host settings (.error (.ofTransport e))
  /-- A client with the settings that presents them, on behalf of the consumer. -/
  | client {chain key client} (hchain : identity.chain = .ok chain) (hkey : identity.key = .ok key)
      (hserves : host.Serves settings (some (chain, key)))
      (hconfig : client.config = ⟨settings, .certificate ⟨some chain, some key⟩⟩)
      (hconnection : client.config.Describes client.connection)
      (huuid : client.uuid = identity.uuid) :
      ComesTo identity host settings (.ok client)

/-- Once the identity is complete and the client may call itself what the settings say,
the host decides. -/
theorem Connection.make_of_identity (host : Host) {config : TransportConfig}
    {identity : Option (CertificateChain × PrivateKey)}
    (hidentity : config.credentials.identity = .ok identity)
    (hagent : isHeaderValue config.settings.userAgent = true) :
    Connection.make host config =
      (host.checkTls config.settings identity).map fun _ => describe config identity := by
  have hcheck : checkUserAgent config.settings.userAgent = .ok () := if_pos hagent
  rw [make_eq, hidentity, hcheck]
  cases htls : host.checkTls config.settings identity with
  | ok => simp [htls, bind, Except.bind, pure, Except.pure, Except.map]
  | error e => simp [htls, bind, Except.bind, Except.map]

namespace Client

variable {settings : Settings}

/-- The certificate is parsed, then the key, and then a connection is made that presents the two.
The first of these that fails is what the caller is told. -/
theorem ofRegistration_eq (host : Host) (identity : RegistrationIdentity) (settings : Settings) :
    ofRegistration host identity { settings := settings } = do
      let chain ← lift identity.chain
      let key ← lift identity.key
      let client ← make host ⟨settings, .certificate ⟨some chain, some key⟩⟩
      return { client with uuid := identity.uuid } := rfl

/-- An identity comes to the same on hosts that agree where the settings ask. Its certificate and
its key are texts, so no file of the host is read for them. -/
theorem ofRegistration_congr {host host' : Host} (h : host.Agrees host' settings)
    (identity : RegistrationIdentity) :
    ofRegistration host' identity { settings := settings } =
      ofRegistration host identity { settings := settings } := by
  have hmake : ∀ credentials : Credentials,
      make host' ⟨settings, credentials⟩ = make host ⟨settings, credentials⟩ := by
    intro credentials
    simp only [make, Connection.make, h.checkTls_eq]
  simp only [ofRegistration_eq, hmake]

/-- An identity comes to a client, or to one of the errors listed. The name in the settings has to
be one that a field can have, and this is so for the settings of a client that was made. -/
theorem ofRegistration_comesTo (host : Host) (identity : RegistrationIdentity)
    (hagent : isHeaderValue settings.userAgent = true) :
    identity.ComesTo host settings (ofRegistration host identity { settings := settings }) := by
  rw [ofRegistration_eq]
  cases hchain : identity.chain with
  | error e =>
    obtain ⟨problem, rfl⟩ := CertificateChain.ofPem_error hchain
    exact .badChain hchain
  | ok chain =>
    cases hkey : identity.key with
    | error e =>
      obtain ⟨problem, rfl⟩ := PrivateKey.ofPem_error hkey
      exact .badKey hchain hkey
    | ok key =>
      -- With both texts parsed, only the host can refuse the connection.
      have hmake := @Connection.make_of_identity host
        ⟨settings, .certificate ⟨some chain, some key⟩⟩ (some (chain, key)) rfl hagent
      dsimp only at hmake
      show identity.ComesTo host settings
        ((make host ⟨settings, .certificate ⟨some chain, some key⟩⟩) >>= _)
      unfold make
      cases htls : host.checkTls settings (some (chain, key)) with
      | error e =>
        rw [htls] at hmake
        rw [hmake]
        exact .refused hchain hkey (Host.refuses_of_checkTls htls)
      | ok =>
        rw [htls] at hmake
        rw [hmake]
        exact .client hchain hkey (Host.checkTls_ok_iff.mp htls) rfl
          (Connection.describes_of_make hmake) rfl

end Client

namespace RegistrationIdentity.ComesTo

variable {identity : RegistrationIdentity} {host host' : Host} {settings : Settings}

/-- An identity comes to one client under the same settings, whatever the host. A host decides
whether there is a client, and not which. -/
theorem unique {a b : Client} (ha : identity.ComesTo host settings (.ok a))
    (hb : identity.ComesTo host' settings (.ok b)) : a = b := by
  cases ha with
  | client hchain hkey _ hconfig hconnection huuid =>
    cases hb with
    | client hchain' hkey' _ hconfig' hconnection' huuid' =>
      obtain rfl := Except.ok.inj (hchain.symm.trans hchain')
      obtain rfl := Except.ok.inj (hkey.symm.trans hkey')
      have hsame : a.config = b.config := hconfig.trans hconfig'.symm
      have hconnections : a.connection = b.connection :=
        hconnection.unique (hsame ▸ hconnection')
      obtain ⟨config, connection, uuid⟩ := a
      obtain ⟨config', connection', uuid'⟩ := b
      dsimp only at hsame hconnections huuid huuid'
      rw [hsame, hconnections, huuid, huuid']

/-- An identity comes to a client where its texts can be parsed and the host serves them under the
settings. -/
theorem exists_client {result : Except ClientError Client} {chain : CertificateChain}
    {key : PrivateKey} (h : identity.ComesTo host settings result)
    (hchain : identity.chain = .ok chain) (hkey : identity.key = .ok key)
    (hserves : host.Serves settings (some (chain, key))) :
    ∃ client, result = .ok client ∧
      client.config = ⟨settings, .certificate ⟨some chain, some key⟩⟩ ∧
      client.uuid = identity.uuid := by
  cases h with
  | badChain h => simp [hchain] at h
  | badKey _ h => simp [hkey] at h
  | refused hchain' hkey' h =>
    obtain rfl := Except.ok.inj (hchain.symm.trans hchain')
    obtain rfl := Except.ok.inj (hkey.symm.trans hkey')
    exact absurd hserves h.not_serves
  | client hchain' hkey' _ hconfig _ huuid =>
    obtain rfl := Except.ok.inj (hchain.symm.trans hchain')
    obtain rfl := Except.ok.inj (hkey.symm.trans hkey')
    exact ⟨_, rfl, hconfig, huuid⟩

/-- The client authenticates with its certificate, however the caller that registered it does. -/
theorem mode {client : Client} (h : identity.ComesTo host settings (.ok client)) :
    client.mode = .clientCertificate := by
  cases h with
  | client _ _ _ hconfig => rw [Client.mode, hconfig]; rfl

/-- A client that was made from a registration is connected as its configuration says. -/
theorem describes {client : Client} (h : identity.ComesTo host settings (.ok client)) :
    client.config.Describes client.connection := by
  cases h with
  | client _ _ _ _ hconnection => exact hconnection

end RegistrationIdentity.ComesTo

namespace Client

/-- A draft of a client has no field for credentials. If a message has one, the connection has
added it. -/
theorem has_authorization_draft (client : Client) (request : Request) :
    (client.draft request).headers.has Header.authorization = false := by
  have haccept : Header.accept ≠ Header.authorization := by decide
  have hcontent : Header.contentType ≠ Header.authorization := by decide
  unfold draft
  cases request.accept with
  | none =>
    cases request.body with
    | none => rw [Draft.has_setQuery]; rfl
    | some v => rw [Draft.has_json hcontent, Draft.has_setQuery]; rfl
  | some mediaType =>
    cases request.body with
    | none => rw [Draft.has_accept haccept, Draft.has_setQuery]; rfl
    | some v => rw [Draft.has_json hcontent, Draft.has_accept haccept, Draft.has_setQuery]; rfl

/-- A client that authenticates with a certificate sends no credentials in a header field,
whatever commands come before. -/
theorem has_authorization_of_certificate {client : Client}
    (hdescribes : client.config.Describes client.connection)
    (hmode : client.mode = .clientCertificate)
    (commands : List Command) (request : Request) {message : Message}
    (h : (client.after commands).connection.message ((client.after commands).draft request) =
      .ok message) :
    message.headers.has Header.authorization = false := by
  have hafter := (describes_after commands hdescribes).credentials
  have hcertificate : (client.after commands).mode = .clientCertificate :=
    (mode_after client commands).trans hmode
  have hnone : (client.after commands).connection.authorization = none := by
    unfold mode at hcertificate
    cases hcredentials : (client.after commands).config.credentials with
    | none => simp [hcredentials, Credentials.mode] at hcertificate
    | basic c => simp [hcredentials, Credentials.mode] at hcertificate
    | certificate i =>
      rw [hcredentials] at hafter
      exact hafter.1
  -- The draft has no such field, and the connection has none to add.
  rw [Connection.has_authorization_of_message hnone h]
  exact has_authorization_draft _ request

end Client

end EntitlementClient
