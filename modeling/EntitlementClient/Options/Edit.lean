import EntitlementClient.Options.Basic

/-!
# `EntitlementClient.Options.Edit`: option sets changed by their callers

A caller inserts options into a set and removes them. Inserting and removing hand back the
value that the option had before. A set can also be built in one expression, where each
insertion hands back the set itself (`Edit.adding`).
-/

set_option autoImplicit false

namespace EntitlementClient.OptionSet

/-- A change of an option set by its caller. -/
inductive Edit where
  /-- Sets an option. -/
  | insert (key : String) (value : Json)
  /-- Sets an option of a set that is being built. -/
  | adding (key : String) (value : Json)
  /-- Removes an option. -/
  | remove (key : String)
deriving DecidableEq, Repr

/-- What the caller gets for a change. -/
inductive Edit.Answer where
  /-- The value that the option had before, if it was there. -/
  | previous (value : Option Json)
  /-- The changed set. -/
  | changed (options : OptionSet)

/-- The answer to a change, and the options after it. -/
def Edit.perform (options : OptionSet) : Edit → Edit.Answer × OptionSet
  | .insert key value =>
    let (previous, options) := options.getThenInsert? key value
    (.previous previous, options)
  | .adding key value =>
    let (_, options) := options.getThenInsert? key value
    (.changed options, options)
  | .remove key =>
    let (previous, options) := options.getThenErase? key
    (.previous previous, options)

/-- The options after changes in a row. -/
def after (options : OptionSet) (history : List Edit) : OptionSet :=
  history.foldl (fun options edit => (edit.perform options).2) options

end EntitlementClient.OptionSet
