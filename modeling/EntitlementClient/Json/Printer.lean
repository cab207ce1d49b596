import EntitlementClient.Json.Basic
import EntitlementClient.Number.Decimal

/-!
# `EntitlementClient.Json.Printer`: compact JSON text

`Json.render` writes a value without blanks, the members of an object in their order. In a
string the quote, the backslash and the characters below U+0020 are escaped, by a letter
where JSON has one and by four lower-case hexadecimal digits otherwise; every other
character stands for itself. An integer is written in decimal and a double in the layout
`FloatLayout.json`.
-/

set_option autoImplicit false

namespace EntitlementClient

namespace Number

/-- The text of an integer. -/
def renderInt (n : Int) : List Char :=
  if n < 0 then '-' :: Nat.toDigits 10 n.natAbs else Nat.toDigits 10 n.natAbs

/-- The text of a number. -/
def render : Number → List Char
  | .integer n => renderInt n
  | .float x => FloatLayout.json.render x

end Number

namespace Json

/-- The escape of a character below U+0020. -/
def escapeControl (c : Char) : List Char :=
  if c = '\x08' then ['\\', 'b']
  else if c = '\t' then ['\\', 't']
  else if c = '\n' then ['\\', 'n']
  else if c = '\x0c' then ['\\', 'f']
  else if c = '\r' then ['\\', 'r']
  else ['\\', 'u', '0', '0', Nat.digitChar (c.toNat / 16), Nat.digitChar (c.toNat % 16)]

/-- A character inside a JSON string. -/
def escapeChar (c : Char) : List Char :=
  if c = '"' then ['\\', '"']
  else if c = '\\' then ['\\', '\\']
  else if c.toNat < 0x20 then escapeControl c
  else [c]

/-- A string with its quotes. -/
def renderString (text : List Char) : List Char :=
  '"' :: (text.flatMap escapeChar ++ ['"'])

mutual

/-- The characters of a value. -/
def renderChars : Json → List Char
  | .null => ['n', 'u', 'l', 'l']
  | .bool true => ['t', 'r', 'u', 'e']
  | .bool false => ['f', 'a', 'l', 's', 'e']
  | .number n => n.render
  | .string text => renderString text.toList
  | .array items => '[' :: (renderItems items ++ [']'])
  | .object members => '\x7b' :: (renderMembers members ++ ['\x7d'])

/-- Values with commas between. -/
def renderItems : List Json → List Char
  | [] => []
  | [v] => renderChars v
  | v :: w :: rest => renderChars v ++ ',' :: renderItems (w :: rest)

/-- Members with commas between. -/
def renderMembers : List (String × Json) → List Char
  | [] => []
  | [(k, v)] => renderString k.toList ++ ':' :: renderChars v
  | (k, v) :: m :: rest =>
    renderString k.toList ++ ':' :: (renderChars v ++ ',' :: renderMembers (m :: rest))

end

/-- The compact text of a value. -/
def render (v : Json) : String := String.ofList v.renderChars

end Json

end EntitlementClient
