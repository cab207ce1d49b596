import EntitlementClient.Json.Basic

/-!
# `EntitlementClient.Settings.Value`: values of configuration sources

Whatever a configuration source looks like, it assigns values to names (`Layer`). A value
keeps what a setting can take: text, an integer, a boolean or nothing. Of real numbers and
of collections only the kind is kept, because no setting takes one.
-/

set_option autoImplicit false

namespace EntitlementClient

/-- A value of a configuration source. -/
inductive ConfigValue where
  | null
  | bool (value : Bool)
  | integer (value : Int)
  /-- A number that is written with a fraction or an exponent, or is too large. -/
  | real
  | text (words : String)
  /-- A list or a dictionary. -/
  | collection
deriving DecidableEq, Repr, Inhabited

/-- A JSON value as a value of a configuration source. -/
def ConfigValue.ofJson : Json → ConfigValue
  | .null => .null
  | .bool b => .bool b
  | .number (.integer n) => .integer n
  | .number (.float _) => .real
  | .string s => .text s
  | .array _ | .object _ => .collection

/-- What one configuration source assigns. -/
abbrev Layer := OrderedMap ConfigValue

end EntitlementClient
