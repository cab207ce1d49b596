import EntitlementClient.Text.Base64
import EntitlementClient.Text.Utf8

/-!
# `EntitlementClient.Tls.Pem`: labelled sections of base64 in a text

A PEM text holds sections between a line that begins `-----BEGIN` and one that begins
`-----END` with the same label. Lines outside of sections are ignored, and so are sections
with labels that are not known. The text is read line by line; a line ends at a line feed
or a carriage return.

* A line that begins a section must end in five dashes. Inside a section it begins another
  one, and what was collected so far stays.
* A section of a known label must hold base64.
* The text must not end inside a section.

`Pem.read` gives the sections before the first fault, and says whether there is a fault.
-/

set_option autoImplicit false

namespace EntitlementClient.Pem

/-! ### Labels -/

/-- What a section of a known label holds. -/
inductive Kind where
  | certificate
  | publicKey
  | rsaPrivateKey
  | privateKey
  | ecPrivateKey
  | revocationList
  | certificateRequest
  | echConfig
deriving DecidableEq, Repr, Inhabited

namespace Kind

/-- The label of the kind. -/
def label : Kind → String
  | certificate => "CERTIFICATE"
  | publicKey => "PUBLIC KEY"
  | rsaPrivateKey => "RSA PRIVATE KEY"
  | privateKey => "PRIVATE KEY"
  | ecPrivateKey => "EC PRIVATE KEY"
  | revocationList => "X509 CRL"
  | certificateRequest => "CERTIFICATE REQUEST"
  | echConfig => "ECHCONFIG"

/-- All kinds. -/
def all : List Kind :=
  [certificate, publicKey, rsaPrivateKey, privateKey, ecPrivateKey, revocationList,
    certificateRequest, echConfig]

/-- The kind with a label. -/
def ofLabel? (bytes : List UInt8) : Option Kind :=
  all.find? fun kind => Text.utf8 kind.label.toList = bytes

end Kind

/-- A section. -/
structure Section where
  /-- What it holds. -/
  kind : Kind
  /-- The bytes that its base64 stands for. -/
  content : List UInt8
deriving DecidableEq, Repr, Inhabited

/-! ### Lines -/

/-- The lines of a text. -/
def lines : List UInt8 → List (List UInt8)
  | [] => [[]]
  | b :: rest =>
    if b = 10 || b = 13 then [] :: lines rest
    else
      match lines rest with
      | [] => [[b]]
      | line :: more => (b :: line) :: more

/-- The start of a line that begins a section. -/
def beginMark : List UInt8 := Text.utf8 "-----BEGIN ".toList

/-- The dashes after a label. -/
def dashes : List UInt8 := Text.utf8 "-----".toList

/-- The start of a line that ends the section with a label. -/
def endMark (label : List UInt8) : List UInt8 :=
  Text.utf8 "-----END ".toList ++ label ++ dashes

/-- What precedes the dashes at the end of a line, given backwards, and how many dashes
there are. Spaces between and after the dashes do not count; spaces before them belong to
the label. -/
def stripDashes : List UInt8 → List UInt8 × Nat
  | [] => ([], 0)
  | b :: rest =>
    if b = 45 then
      let (label, n) := stripDashes rest
      (if n = 0 then rest else label, n + 1)
    else if b = 32 then
      let (label, n) := stripDashes rest
      if n = 0 then (b :: rest, 0) else (label, n)
    else (b :: rest, 0)

/-- The label that a line beginning a section gives: what stands between the mark and five
dashes. -/
def beginLabel? (line : List UInt8) : Option (List UInt8) :=
  let (label, n) := stripDashes line.reverse
  if n = 5 then some (label.reverse.drop beginMark.length) else none

/-! ### Sections -/

/-- The sections of lines, up to the first fault, and whether there is one. The first
argument is the label of the open section with the base64 collected so far. -/
def readLines : Option (List UInt8 × List UInt8) → List (List UInt8) → List Section × Bool
  | current, [] => ([], current.isSome)
  | current, line :: rest =>
    if beginMark.isPrefixOf line then
      match beginLabel? line with
      | none => ([], true)
      | some label =>
        readLines (some (label, (current.map Prod.snd).getD [])) rest
    else
      match current with
      | none => readLines none rest
      | some (label, collected) =>
        if (endMark label).isPrefixOf line then
          match Kind.ofLabel? label with
          | none => readLines none rest
          | some kind =>
            match Text.Base64.decode collected with
            | none => ([], true)
            | some content =>
              let (sections, faulty) := readLines none rest
              (⟨kind, content⟩ :: sections, faulty)
        else readLines (some (label, collected ++ line)) rest

/-- The sections of a text, up to the first fault, and whether there is one. -/
def read (text : List UInt8) : List Section × Bool := readLines none (lines text)

end EntitlementClient.Pem
