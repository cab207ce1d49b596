import EntitlementClient.Text.Utf8

/-!
# `EntitlementClient.Text.Percent`: percent-encoding of path segments and forms

Two encodings of text as ASCII. A path segment keeps the unreserved characters of URIs,
letters, digits, hyphen, point, underscore and tilde, and writes every other byte of the
UTF-8 encoding as a percent sign and two upper-case hexadecimal digits. A form field
(`application/x-www-form-urlencoded`) keeps letters, digits, asterisk, hyphen, point and
underscore, and writes a space as a plus sign.

Each encoder has its decoder beside it: `percentDecode` for segments, `formDecode` for
fields. A percent sign that two hexadecimal digits do not follow stands for itself.
-/

set_option autoImplicit false

namespace EntitlementClient.Text

/-! ### Bytes as hexadecimal digits -/

/-- An upper-case hexadecimal digit. -/
def upperHexDigit (n : Nat) : Char :=
  if n < 10 then Char.ofNat ('0'.toNat + n) else Char.ofNat ('A'.toNat + (n - 10))

/-- The value of a hexadecimal digit given as a byte, of either case. -/
def hexValue? (b : UInt8) : Option Nat :=
  let n := b.toNat
  if 0x30 ≤ n ∧ n ≤ 0x39 then some (n - 0x30)
  else if 0x41 ≤ n ∧ n ≤ 0x46 then some (n - 0x41 + 10)
  else if 0x61 ≤ n ∧ n ≤ 0x66 then some (n - 0x61 + 10)
  else none

/-- A percent sign and the two digits of a byte. -/
def percentByte (b : UInt8) : List Char :=
  ['%', upperHexDigit (b.toNat / 16), upperHexDigit (b.toNat % 16)]

/-! ### Path segments -/

/-- Whether a byte is an ASCII letter or digit. -/
def isAlphanumeric (b : UInt8) : Bool :=
  let n := b.toNat
  (0x30 ≤ n && n ≤ 0x39) || (0x41 ≤ n && n ≤ 0x5A) || (0x61 ≤ n && n ≤ 0x7A)

/-- Whether a byte is an unreserved character: it stands for itself in a segment. -/
def isUnreserved (b : UInt8) : Bool :=
  isAlphanumeric b || b == 0x2D || b == 0x2E || b == 0x5F || b == 0x7E

/-- A byte inside a segment. -/
def segmentByte (b : UInt8) : List Char :=
  if isUnreserved b then [Char.ofNat b.toNat] else percentByte b

/-- The text as one path segment. -/
def percentEncode (cs : List Char) : List Char := (utf8 cs).flatMap segmentByte

/-- The bytes that a percent-encoded text stands for. -/
def percentDecodeBytes : List UInt8 → List UInt8
  | 0x25 :: a :: b :: rest =>
    match hexValue? a, hexValue? b with
    | some high, some low => UInt8.ofNat (high * 16 + low) :: percentDecodeBytes rest
    | _, _ => 0x25 :: percentDecodeBytes (a :: b :: rest)
  | b :: rest => b :: percentDecodeBytes rest
  | [] => []

/-- The text that a percent-encoded text stands for, if its bytes are UTF-8. -/
def percentDecode (cs : List Char) : Option (List Char) :=
  ofUtf8? (percentDecodeBytes (utf8 cs))

/-! ### Form fields -/

/-- Whether a byte stands for itself in a form field. -/
def isFormPlain (b : UInt8) : Bool :=
  isAlphanumeric b || b == 0x2A || b == 0x2D || b == 0x2E || b == 0x5F

/-- A byte inside a form field. -/
def formByte (b : UInt8) : List Char :=
  if b == 0x20 then ['+'] else if isFormPlain b then [Char.ofNat b.toNat] else percentByte b

/-- The text as a form field. -/
def formEncode (cs : List Char) : List Char := (utf8 cs).flatMap formByte

/-- The text that a form field stands for, if its bytes are UTF-8. -/
def formDecode (cs : List Char) : Option (List Char) :=
  ofUtf8? (percentDecodeBytes ((utf8 cs).map fun b => if b == 0x2B then 0x20 else b))

end EntitlementClient.Text
