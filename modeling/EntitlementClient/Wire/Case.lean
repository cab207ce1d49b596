import EntitlementClient.Text.CaseMapping
import EntitlementClient.Text.Split

/-!
# `EntitlementClient.Wire.Case`: snake case and camel case

Callers name things in snake case (`display_name`) and the server in camel case (`displayName`).

* `Wire.toCamel` keeps the part before the first underscore. Of each later part it raises
  the first character and lowers the others. A key without an underscore is unchanged.
* `Wire.toSnake` lowers each upper-case letter and puts an underscore before it, except at
  the head of the key. All other characters are unchanged.

The two are inverse to each other on keys in plain snake case only.
-/

set_option autoImplicit false

namespace EntitlementClient.Wire

/-- A part with its first character raised and the others lowered. -/
def capitalize : List Char → List Char
  | [] => []
  | c :: rest => Text.upperChar c ++ rest.flatMap Text.lowerChar

/-- The camel case of a key's characters. -/
def camelChars (cs : List Char) : List Char :=
  if '_' ∈ cs then
    match Text.splitAt '_' cs with
    | [] => []
    | part :: parts => part ++ parts.flatMap capitalize
  else cs

/-- The camel case of a key. -/
def toCamel (key : String) : String := String.ofList (camelChars key.toList)

/-- A character of a key after the first: an upper-case letter starts a new word. -/
def snakeChar (c : Char) : List Char :=
  if Text.isUppercase c then '_' :: Text.lowerChar c else [c]

/-- The snake case of a key's characters. -/
def snakeChars : List Char → List Char
  | [] => []
  | c :: rest =>
    (if Text.isUppercase c then Text.lowerChar c else [c]) ++ rest.flatMap snakeChar

/-- The snake case of a key. -/
def toSnake (key : String) : String := String.ofList (snakeChars key.toList)

end EntitlementClient.Wire
