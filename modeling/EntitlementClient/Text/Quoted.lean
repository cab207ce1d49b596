import EntitlementClient.Text.EscapeTable

/-!
# `EntitlementClient.Text.Quoted`: text and bytes as they are shown in messages

`Text.quote` puts a text between double quotes. Quotes, backslashes, newlines, carriage
returns, tabs and NUL are written with a backslash; a character that cannot be read on its
own is written as its code point. `Text.quoteBytes` shows bytes in the same way, printable
ASCII as it is and every other byte as two hexadecimal digits.
-/

set_option autoImplicit false

namespace EntitlementClient.Text

/-- The escape of the characters that both forms write with a letter. -/
def quoteShort? (n : Nat) : Option (List Char) :=
  if n = 0x22 then some ['\\', '"']
  else if n = 0x5C then some ['\\', '\\']
  else if n = 0x0A then some ['\\', 'n']
  else if n = 0x0D then some ['\\', 'r']
  else if n = 0x09 then some ['\\', 't']
  else if n = 0 then some ['\\', '0']
  else none

/-- Whether a quoted text writes the character as its code point. -/
def isHidden (c : Char) : Bool :=
  c.toNat < 0x20 || EscapeTable.ranges.any fun (first, last) => first ≤ c.toNat && c.toNat ≤ last

/-- A character inside a quoted text. -/
def quoteChar (c : Char) : List Char :=
  match quoteShort? c.toNat with
  | some escape => escape
  | none =>
    if isHidden c then ['\\', 'u', '\x7b'] ++ Nat.toDigits 16 c.toNat ++ ['\x7d'] else [c]

/-- A text between double quotes. -/
def quote (cs : List Char) : List Char := '"' :: (cs.flatMap quoteChar ++ ['"'])

/-- A byte inside quoted bytes. -/
def quoteByte (b : UInt8) : List Char :=
  match quoteShort? b.toNat with
  | some escape => escape
  | none =>
    if 0x20 ≤ b.toNat ∧ b.toNat < 0x7F then [Char.ofNat b.toNat]
    else ['\\', 'x', Nat.digitChar (b.toNat / 16), Nat.digitChar (b.toNat % 16)]

/-- Bytes between double quotes, after the letter `b`. -/
def quoteBytes (bytes : List UInt8) : List Char :=
  'b' :: '"' :: (bytes.flatMap quoteByte ++ ['"'])

end EntitlementClient.Text
