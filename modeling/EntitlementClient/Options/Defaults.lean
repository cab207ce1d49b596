import EntitlementClient.Options.Basic

/-!
# `EntitlementClient.Options.Defaults`: declared parameters and merging

An operation declares its parameters with their default values (`Defaults`), one after the
other or a whole set at once (`Defaults.ofDeclarations`). A parameter that is declared
again keeps its place and gets the new default. `Defaults.merge` lays the options of a
call over them: the result has every declared parameter, in the order of declaration, with
the caller's value where the caller gave one. Options that are not declared are refused,
all of them together.
-/

set_option autoImplicit false

namespace EntitlementClient

/-- The parameters that an operation declares, each with its default. -/
abbrev Defaults := OrderedMap Json

/-- A step in which parameters are declared. -/
inductive Declaration where
  /-- One parameter with its default. -/
  | param (key : String) (default : Json)
  /-- The parameters of other defaults. -/
  | extend (other : Defaults)

namespace Defaults

/-- The defaults after one more step. -/
def declare (defaults : Defaults) : Declaration → Defaults
  | .param key default => defaults.insert key default
  | .extend other => defaults.insertAll other.entries

/-- The defaults of steps in a row. -/
def ofDeclarations (steps : List Declaration) : Defaults := steps.foldl declare .empty

/-- The paging parameters, without a value. -/
def paging : Defaults :=
  .ofList [("page", .null), ("per_page", .null), ("order", .null), ("sort_by", .null)]

/-- The supplied keys that are not declared, in the order supplied. -/
def undeclared (defaults : Defaults) (supplied : OptionSet) : List String :=
  supplied.keys.filter fun key => !defaults.contains key

/-- The options of a call over the defaults. -/
def merge (defaults : Defaults) (supplied : OptionSet) : Except ClientError OptionSet :=
  let unknown := defaults.undeclared supplied
  if unknown.isEmpty then .ok (defaults.insertAll supplied.entries)
  else .error (.unknownParameter unknown)

end Defaults

end EntitlementClient
