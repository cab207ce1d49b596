import EntitlementClient.Json.Basic
import EntitlementClient.Wire.Case

/-!
# `EntitlementClient.Wire.Keys`: renaming the members of JSON values

`Json.keysFromWire` renames every member of every object, at any depth, to snake case.
Members whose names become equal are one member: it has the place of the first and the
value of the last. `Json.keysToWire` renames to camel case in the same way.
-/

set_option autoImplicit false

namespace EntitlementClient.Json

mutual

/-- The value with each member at any depth renamed by `rename`. -/
def mapKeys (rename : String → String) : Json → Json
  | .array items => .array (mapKeysItems rename items)
  | .object members => .ofMap (.ofList (mapKeysMembers rename members))
  | v => v

/-- Each value of a list with its members renamed. -/
def mapKeysItems (rename : String → String) : List Json → List Json
  | [] => []
  | v :: rest => v.mapKeys rename :: mapKeysItems rename rest

/-- Each member renamed, and the members of its value too. -/
def mapKeysMembers (rename : String → String) : List (String × Json) → List (String × Json)
  | [] => []
  | (name, v) :: rest => (rename name, v.mapKeys rename) :: mapKeysMembers rename rest

end

/-- A value received from the server, with all names in snake case. -/
def keysFromWire (v : Json) : Json := v.mapKeys Wire.toSnake

/-- A value with all names in camel case. -/
def keysToWire (v : Json) : Json := v.mapKeys Wire.toCamel

end EntitlementClient.Json
