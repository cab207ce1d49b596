import EntitlementClient.Options.Basic
import EntitlementClient.Wire.Case
import EntitlementClient.Wire.Shape

/-!
# `EntitlementClient.Body`: objects sent to the server

A body is an insertion-ordered map from names in camel case to values. Options enter it
under their camel-case names, their values untouched. `Body.compact` drops the members
that are null.
-/

set_option autoImplicit false

namespace EntitlementClient

/-- The members of an object to be sent, in order. -/
abbrev Body := OrderedMap Json

namespace OptionSet

/-- The options under the given keys, skipping absent ones, or all of them, with their
names in camel case. Options whose names become equal are one member. -/
def mapFields (options : OptionSet) (subset : Option (List String)) : Body :=
  match subset with
  | some keys =>
    .ofList (keys.filterMap fun key => (options.get? key).map fun v => (Wire.toCamel key, v))
  | none => .ofList (options.entries.map fun (key, v) => (Wire.toCamel key, v))

end OptionSet

namespace Body

/-- Sets a member unless its value is null. -/
def insertNonNull (body : Body) (name : String) (v : Json) : Body :=
  if v.isNull then body else body.insert name v

/-- Sets members from options, skipping absent ones. -/
def extend (body : Body) (options : OptionSet) (keys : List String) : Body :=
  body.insertAll (keys.filterMap fun key => (options.get? key).map fun v => (Wire.toCamel key, v))

/-- The members that are not null. -/
def compact (body : Body) : Body := body.filterValues fun v => !v.isNull

/-- The body as a JSON value. -/
def toJson (body : Body) : Json := .ofMap body

end Body

end EntitlementClient
