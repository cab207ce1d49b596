import EntitlementClient.Settings.Basic
import EntitlementClient.Tls.Material

/-!
# `EntitlementClient.Tls.Host`: where a client runs

A `Host` has files and a TLS library. The library knows the authorities that the machine
trusts, and it decides which certificates can serve as authorities and which identities
can be presented. How it decides is its own matter: a host is any such decision, and a
client only asks.

`Host.checkTls` is all that is asked before a connection is made: a version of the
protocol to speak, an authority to verify the server by, unless any certificate of the
server is accepted, and an identity that can be presented, if there is one.
-/

set_option autoImplicit false

namespace EntitlementClient

/-- What a client finds where it runs. -/
structure Host where
  /-- The contents of a file, or why it cannot be read. -/
  read : (path : String) → Except String (List UInt8)
  /-- The certificates of the authorities that the machine trusts. -/
  nativeRoots : List (List UInt8)
  /-- Whether the TLS library speaks a version of the protocol that connections use. -/
  speaksTls : Bool
  /-- Whether the TLS library takes a certificate as that of an authority. -/
  acceptsRoot : (certificate : List UInt8) → Bool
  /-- Whether the TLS library can present a chain with a key. -/
  presents : CertificateChain → PrivateKey → Bool

/-! ### Files -/

/-- The certificates of a file. -/
def CertificateChain.ofFile (host : Host) (path : String) :
    Except TransportError CertificateChain :=
  match host.read path with
  | .error reason => .error (.certificate (.unreadableCertificate path reason))
  | .ok text => ofPem text

/-- The key of a file. -/
def PrivateKey.ofFile (host : Host) (path : String) : Except TransportError PrivateKey :=
  match host.read path with
  | .error reason => .error (.certificate (.unreadablePrivateKey path reason))
  | .ok text => ofPem text

namespace Host

/-! ### Trust -/

/-- The certificates of a file that can serve as authorities. There must be one. -/
def authorities (host : Host) (path : String) : Except TransportError (List (List UInt8)) := do
  let chain ← CertificateChain.ofFile host path
  let accepted := chain.certificates.filter host.acceptsRoot
  if accepted.isEmpty then throw (.certificate (.noUsableAuthority path chain.certificates.length))
  else return accepted

/-- The authorities of the file that the settings name, if they name one. -/
def namedRoots (host : Host) (settings : Settings) : Except TransportError (List (List UInt8)) :=
  match settings.trustedAuthorities with
  | some path => host.authorities path
  | none => .ok []

/-- The authorities of the machine and those of the file. There must be one. -/
def trustedRoots (host : Host) (settings : Settings) :
    Except TransportError (List (List UInt8)) := do
  let native := host.nativeRoots.filter host.acceptsRoot
  let named ← host.namedRoots settings
  if (native ++ named).isEmpty then throw .tls else return native ++ named

/-- Succeeds when the server's certificate can be verified, or any is accepted. -/
def checkTrust (host : Host) (settings : Settings) : Except TransportError Unit :=
  if settings.skipVerification then .ok () else (host.trustedRoots settings).map fun _ => ()

/-! ### The identity of the client -/

/-- Succeeds when an identity, if there is one, can be presented. -/
def checkIdentity (host : Host) :
    Option (CertificateChain × PrivateKey) → Except TransportError Unit
  | none => .ok ()
  | some (chain, key) => if host.presents chain key then .ok () else .error .tls

/-- Succeeds when connections can be made over TLS. -/
def checkTls (host : Host) (settings : Settings)
    (identity : Option (CertificateChain × PrivateKey)) : Except TransportError Unit := do
  if !host.speaksTls then throw .tls
  host.checkTrust settings
  host.checkIdentity identity

end Host

end EntitlementClient
