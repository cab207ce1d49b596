import EntitlementClient.Error

/-!
# `EntitlementClient.Client.Registration`: the identity that a registration returns

The reply to a registration describes the new consumer. It carries the consumer's uuid
and, as PEM texts, the certificate and key that the consumer authenticates with.
`RegistrationIdentity.ofJson` reads them from the reply, whose names may be in camel case
or in snake case.

Both the reply and the pair of texts may also be given as a list of their members, without
names. The first problem in the order of the value is the one reported.
-/

set_option autoImplicit false

namespace EntitlementClient

/-- A certificate and its key, as PEM texts. -/
structure IdentityTexts where
  /-- The certificate. -/
  cert : String
  /-- The key. -/
  key : String
deriving DecidableEq, Repr, Inhabited

/-- The identity of a registered consumer. -/
structure RegistrationIdentity where
  /-- The uuid of the consumer. -/
  uuid : Option String
  /-- The texts it authenticates with. -/
  texts : IdentityTexts
deriving DecidableEq, Repr, Inhabited

/-! ### Members -/

/-- A text. -/
def readText : Json → Except IdentityError String
  | .string s => .ok s
  | v => .error (.wrongKind v "a string")

/-- A text or no value. -/
def readOptionalText : Json → Except IdentityError (Option String)
  | .null => .ok none
  | v => (readText v).map some

/-- A member that must be there. -/
def requireMember {α : Type} (name : String) : Option α → Except IdentityError α
  | some a => .ok a
  | none => .error (.missingField name)

/-- Succeeds when a list has no more elements than are read. -/
def checkLength (items : List Json) (read : Nat) : Except IdentityError Unit :=
  if items.length ≤ read then .ok ()
  else .error (.wrongLength items.length "fewer elements in array")

/-! ### The texts -/

namespace IdentityTexts

/-- What is expected where the texts are. -/
def expected : String := "struct IdentityCertificate"

/-- The texts of an object, whose members are read in their order. -/
def ofMembers : (cert key : Option String) → List (String × Json) →
    Except IdentityError IdentityTexts
  | cert, key, [] => do
    let cert ← requireMember "cert" cert
    let key ← requireMember "key" key
    return ⟨cert, key⟩
  | cert, key, (name, v) :: rest =>
    if name = "cert" then do
      let s ← readText v
      ofMembers (some s) key rest
    else if name = "key" then do
      let s ← readText v
      ofMembers cert (some s) rest
    else ofMembers cert key rest

/-- The texts of a list. -/
def ofItems : List Json → Except IdentityError IdentityTexts
  | [] => .error (.wrongLength 0 (expected ++ " with 2 elements"))
  | [cert] => do
    let _ ← readText cert
    throw (.wrongLength 1 (expected ++ " with 2 elements"))
  | cert :: key :: rest => do
    let c ← readText cert
    let k ← readText key
    checkLength (cert :: key :: rest) 2
    return ⟨c, k⟩

/-- The texts that a value gives. -/
def ofJson : Json → Except IdentityError IdentityTexts
  | .object members => ofMembers none none members
  | .array items => ofItems items
  | v => .error (.wrongKind v expected)

end IdentityTexts

/-! ### The identity -/

namespace RegistrationIdentity

/-- What is expected where the identity is. -/
def expected : String := "struct RegistrationIdentity"

/-- The names of the member with the texts. -/
def textsNames : List String := ["id_cert", "idCert"]

/-- The identity of an object, whose members are read in their order. -/
def ofMembers : (uuid : Option String) → (texts : Option IdentityTexts) → List (String × Json) →
    Except IdentityError RegistrationIdentity
  | uuid, texts, [] => do
    let texts ← requireMember "id_cert" texts
    return ⟨uuid, texts⟩
  | uuid, texts, (name, v) :: rest =>
    if name = "uuid" then do
      let u ← readOptionalText v
      ofMembers u texts rest
    else if textsNames.contains name then
      if texts.isSome then .error (.duplicateField "id_cert")
      else do
        let t ← IdentityTexts.ofJson v
        ofMembers uuid (some t) rest
    else ofMembers uuid texts rest

/-- The identity of a list. -/
def ofItems : List Json → Except IdentityError RegistrationIdentity
  | [] => .error (.wrongLength 1 (expected ++ " with 2 elements"))
  | [uuid] => do
    let _ ← readOptionalText uuid
    throw (.wrongLength 1 (expected ++ " with 2 elements"))
  | uuid :: texts :: rest => do
    let u ← readOptionalText uuid
    let t ← IdentityTexts.ofJson texts
    checkLength (uuid :: texts :: rest) 2
    return ⟨u, t⟩

/-- The identity that a value gives. -/
def read : Json → Except IdentityError RegistrationIdentity
  | .object members => ofMembers none none members
  | .array items => ofItems items
  | v => .error (.wrongKind v expected)

/-- The identity that the reply to a registration gives. -/
def ofJson (v : Json) : Except ClientError RegistrationIdentity :=
  match read v with
  | .ok identity => .ok identity
  | .error problem => .error (.decode (.identity problem))

end RegistrationIdentity

end EntitlementClient
