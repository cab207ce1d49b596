import EntitlementClient.Options.Defaults
import EntitlementClient.Wire.Shape

/-!
# `EntitlementClient.Options.Requirement`: required options

A requirement names options and a test that their values have to pass. It fails with all
options that do not pass, together. An absent option counts as null. A requirement on no
key in particular is one on every key of the set.
-/

set_option autoImplicit false

namespace EntitlementClient

namespace OptionSet

/-- The keys whose values fail the test: of the given ones, or of all when none are given. -/
def failing (options : OptionSet) (keys : List String) (test : Json → Bool) : List String :=
  (if keys.isEmpty then options.keys else keys).filter fun key => !test (options.value key)

/-- Succeeds when every one of the keys passes the test. -/
def requireThat (options : OptionSet) (keys : List String) (test : Json → Bool) :
    Except ClientError Unit :=
  let failed := options.failing keys test
  if failed.isEmpty then .ok () else .error (.missingRequiredParameter failed)

/-- Succeeds when every one of the keys has a value. -/
def require (options : OptionSet) (keys : List String) : Except ClientError Unit :=
  options.requireThat keys fun v => !v.isNull

end OptionSet

/-- A requirement of an operation on its merged options. -/
inductive Requirement where
  /-- Each of the options has a value. -/
  | present (keys : List String)
  /-- Each parameter of the operation has a value. -/
  | allPresent
  /-- The option is an object. -/
  | anObject (key : String)
  /-- The option, read as a list, has an element. -/
  | nonEmptyList (key : String)
deriving DecidableEq, Repr

/-- Checks a requirement. -/
def Requirement.check (options : OptionSet) : Requirement → Except ClientError Unit
  | .present keys => options.require keys
  | .allPresent => options.require []
  | .anObject key => options.requireThat [key] Json.isObject
  | .nonEmptyList key => options.requireThat [key] fun v => !v.asList.isEmpty

end EntitlementClient
