import EntitlementClient.Error
import EntitlementClient.Tls.Pem

/-!
# `EntitlementClient.Tls.Material`: certificates and private keys

A client identity is a certificate chain and a private key. Both are read from PEM texts:
a chain is every certificate of the text, in order, and a key is the first key section of
the text. What the sections hold is the matter of the TLS library (`Host`), which is asked
when a connection is made.

The shown form of a key does not reveal it.
-/

set_option autoImplicit false

namespace EntitlementClient

/-! ### Certificates -/

/-- A certificate chain in DER form, leaf first. -/
structure CertificateChain where
  /-- The certificates. -/
  certificates : List (List UInt8)
deriving DecidableEq, Repr, Inhabited

/-- Every certificate of a PEM text. -/
def CertificateChain.ofPem (text : List UInt8) : Except TransportError CertificateChain :=
  let (sections, faulty) := Pem.read text
  let certificates :=
    (sections.filter fun s => s.kind = .certificate).map Pem.Section.content
  if faulty then .error (.certificate .invalidCertificate)
  else if certificates.isEmpty then .error (.certificate .noCertificate)
  else .ok ⟨certificates⟩

/-! ### Private keys -/

/-- The forms in which a private key is written. -/
inductive KeyFormat where
  /-- An RSA key by itself. -/
  | pkcs1
  /-- An elliptic-curve key by itself. -/
  | sec1
  /-- A key with its algorithm. -/
  | pkcs8
deriving DecidableEq, Repr, Inhabited

namespace KeyFormat

/-- The name of the form. -/
def name : KeyFormat → String
  | pkcs1 => "Pkcs1"
  | sec1 => "Sec1"
  | pkcs8 => "Pkcs8"

/-- The form that a section holds, if it holds a key. -/
def ofKind? : Pem.Kind → Option KeyFormat
  | .rsaPrivateKey => some pkcs1
  | .ecPrivateKey => some sec1
  | .privateKey => some pkcs8
  | _ => none

end KeyFormat

/-- A private key in DER form. -/
structure PrivateKey where
  /-- Its form. -/
  format : KeyFormat
  /-- Its bytes. -/
  der : List UInt8
deriving DecidableEq, Repr, Inhabited

namespace PrivateKey

/-- The key that a section holds. -/
def ofSection? (s : Pem.Section) : Option PrivateKey :=
  (KeyFormat.ofKind? s.kind).map fun format => ⟨format, s.content⟩

/-- The first key of a PEM text. Faults after it do not matter. -/
def ofPem (text : List UInt8) : Except TransportError PrivateKey :=
  match (Pem.read text).1.findSome? ofSection? with
  | some key => .ok key
  | none => .error (.certificate .invalidPrivateKey)

/-- A key as it is shown: without what it holds. -/
def shown (_key : PrivateKey) : String := "PrivateKeyMaterial \x7b key: \"[REDACTED]\" \x7d"

end PrivateKey

end EntitlementClient
