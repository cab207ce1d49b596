import EntitlementClient.Json.Basic

/-!
# `EntitlementClient.Wire.Shape`: shapes that the server expects

The server takes references as objects, lists of names as lists of objects, and attributes
as lists of name and value. The functions here bring a caller's value into such a shape
and leave alone what already has it, so that records received from the server can be sent
back.
-/

set_option autoImplicit false

namespace EntitlementClient.Json

/-- A reference by `field`. Null stays null and an object is a reference already. -/
def reference (field : String) : Json → Json
  | .null => .null
  | .object members => .object members
  | v => .object [(field, v)]

/-- The value as a list: null has no element, any other value that is no list is the only one. -/
def asList : Json → List Json
  | .null => []
  | .array items => items
  | v => [v]

/-- Each element of the list as an object with one member. -/
def flattenNamed (field : String) (v : Json) : Json :=
  .array (v.asList.map fun item => .object [(field, item)])

/-- A reference by id: of an object, its own id. -/
def idReference (v : Json) : Json :=
  match v with
  | .object _ => .object [("id", (v.member? "id").getD .null)]
  | v => .object [("id", v)]

/-- Each element of the list as a reference by id. -/
def idReferences (v : Json) : Json := .array (v.asList.map idReference)

/-- A named attribute. -/
def nameValue (name value : Json) : Json := .object [("name", name), ("value", value)]

/-- An element of an attribute list: a pair of name and value, or an attribute already. -/
def pairToNameValue : Json → Json
  | .array [name, value] => nameValue name value
  | v => v

/-- Attributes as a list of names and values, from an object or from a list of pairs. -/
def nameValuePairs : Json → Json
  | .object members => .array (members.map fun (name, value) => nameValue (.string name) value)
  | .array items => .array (items.map pairToNameValue)
  | _ => .array []

end EntitlementClient.Json
