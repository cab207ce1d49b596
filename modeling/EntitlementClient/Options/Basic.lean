import EntitlementClient.Error
import EntitlementClient.Text.Percent

/-!
# `EntitlementClient.Options.Basic`: the options of a call

An option set is an insertion-ordered map from parameter names in snake case to JSON
values. It is made from a JSON object (`OptionSet.ofJson`); null stands for the empty set.
`OptionSet.value` reads an absent option as null. `OptionSet.segment` renders an option as
one segment of a path: a string percent-encoded, a number or a boolean as its text.
-/

set_option autoImplicit false

namespace EntitlementClient

/-- The options of a call, in the order in which the caller named them. -/
abbrev OptionSet := OrderedMap Json

namespace OptionSet

/-- The option set that a JSON value describes. -/
def ofJson : Json → Except ClientError OptionSet
  | .object members => .ok (.ofList members)
  | .null => .ok .empty
  | v => .error (.argument (.notOptions v))

/-- The value of an option, null when it is absent. -/
def value (options : OptionSet) (key : String) : Json := (options.get? key).getD .null

/-- The text of a string option. -/
def string? (options : OptionSet) (key : String) : Option String :=
  (options.get? key).bind Json.string?

/-- Whether an option is null or absent. -/
def isNull (options : OptionSet) (key : String) : Bool := (options.value key).isNull

/-- The text of a boolean. -/
def boolText (b : Bool) : String := if b then "true" else "false"

/-- The text of a value as one path segment. Absent for null, a list and an object. -/
def segmentText? : Json → Option String
  | .string s => some (String.ofList (Text.percentEncode s.toList))
  | .number n => some (String.ofList n.render)
  | .bool b => some (boolText b)
  | _ => none

/-- An option as one path segment. -/
def segment (options : OptionSet) (key : String) : Except ClientError String :=
  match options.value key with
  | .null => .error (.missingRequiredParameter [key])
  | v =>
    match segmentText? v with
    | some text => .ok text
    | none => .error (.argument (.notASegment key))

/-- The options under the given keys, in the order of the keys. Fails with all keys that
are absent. -/
def select (options : OptionSet) (keys : List String) : Except ClientError OptionSet :=
  let missing := keys.filter fun key => !options.contains key
  if missing.isEmpty then .ok (.ofList (keys.map fun key => (key, options.value key)))
  else .error (.missingKey missing)

end OptionSet

end EntitlementClient
