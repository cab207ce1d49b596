import EntitlementClient.Operation.Basic
import EntitlementClient.Proofs.Options.Merge

/-!
# `EntitlementClient.Proofs.Options.Declarations`: merging over defaults declared in steps

Defaults are declared in steps, of which each names one parameter or those of other
defaults. `Declaration.pairs` says what a step declares and `Defaults.declared` lists the
parameters in the order in which the steps name them, with repeats. The defaults have each
parameter at its first place (`keys_ofDeclarations`) with its last default
(`get?_ofDeclarations`).

`Defaults.merge_ofDeclarations` says from this what merging comes to for any steps and any
options of a caller: either an error that names exactly the options that no step declares,
or the declared parameters with the values of the caller. Merging the result once more
does not change it (`merge_merged`).
-/

set_option autoImplicit false

namespace EntitlementClient

/-- The parameters that a step declares, with their defaults. -/
def Declaration.pairs : Declaration → List (String × Json)
  | .param key default => [(key, default)]
  | .extend other => other.entries

namespace Defaults

/-- The parameters that steps declare, with their defaults, in the order of the steps. -/
def pairs (steps : List Declaration) : List (String × Json) := steps.flatMap Declaration.pairs

/-- The names of the parameters that steps declare, in the order of the steps. -/
def declared (steps : List Declaration) : List String := (pairs steps).map Prod.fst

/-- The default that is declared last for a parameter. -/
def lastDefault? (steps : List Declaration) (key : String) : Option Json :=
  (pairs steps).reverse.lookup key

variable {defaults : Defaults} {steps : List Declaration} {supplied merged : OptionSet}

/-! ### Steps in a row -/

/-- A step sets the pairs that it declares. -/
theorem declare_eq (step : Declaration) :
    defaults.declare step = defaults.insertAll step.pairs := by
  cases step with
  | param key default => rfl
  | extend other => rfl

/-- Steps in a row set the pairs of all of them. -/
theorem foldl_declare : steps.foldl declare defaults = defaults.insertAll (pairs steps) := by
  induction steps generalizing defaults with
  | nil => rfl
  | cons step rest ih =>
    have hpairs : pairs (step :: rest) = step.pairs ++ pairs rest := List.flatMap_cons
    rw [List.foldl_cons, ih, declare_eq, hpairs, OrderedMap.insertAll_append]

/-- Declared defaults are the pairs of the declarations, set one after the other. -/
theorem ofDeclarations_eq : ofDeclarations steps = .ofList (pairs steps) := foldl_declare

/-- Each parameter stands at the place where it was declared first, and once. -/
theorem keys_ofDeclarations : (ofDeclarations steps).keys = (declared steps).eraseDups := by
  rw [ofDeclarations_eq, OrderedMap.keys_ofList, declared]

/-- The options that have a default are those that are declared. -/
theorem mem_keys_ofDeclarations {key : String} :
    key ∈ (ofDeclarations steps).keys ↔ key ∈ declared steps := by
  rw [keys_ofDeclarations, List.mem_eraseDups]

/-- Each parameter has the default that was declared last for it. -/
theorem get?_ofDeclarations (key : String) :
    (ofDeclarations steps).get? key = lastDefault? steps key := by
  rw [ofDeclarations_eq, OrderedMap.ofList, OrderedMap.get?_insertAll_eq_lookup]
  exact Option.or_none

/-! ### Merging -/

/-- Merged options merge to themselves. So to merge twice is the same as once. -/
theorem merge_merged (h : defaults.merge supplied = .ok merged) :
    defaults.merge merged = .ok merged := by
  have hnone : defaults.undeclared merged = [] := by
    rw [List.eq_nil_iff_forall_not_mem]
    intro key hkey
    rw [mem_undeclared, keys_of_merge h] at hkey
    exact hkey.2 hkey.1
  have hmerge := merge_eq_ok_iff.mpr ⟨hnone, rfl⟩
  rw [hmerge, Except.ok.injEq]
  refine OrderedMap.ext_get? ((keys_of_merge hmerge).trans (keys_of_merge h).symm) fun key _ => ?_
  -- What the defaults have for a key they have behind the merged options already.
  rw [get?_of_merge hmerge, get?_of_merge h, Option.or_assoc, Option.or_self]

/-- Take any steps in which parameters are declared, and any options of a caller. When a
step declares each of the options, the merged options are the declared parameters, each
once and in the order in which they were declared first. An option of the caller has the
caller's value, whatever it is, and any other parameter has the default that was declared
last for it. Merging them over the same defaults gives them back. Otherwise the error
names exactly the options that no step declares, in the order of the caller. -/
theorem merge_ofDeclarations (steps : List Declaration) (supplied : OptionSet) :
    if ∀ key ∈ supplied.keys, key ∈ declared steps then
      ∃ merged, (ofDeclarations steps).merge supplied = .ok merged ∧
        merged.keys = (declared steps).eraseDups ∧ merged.keys.Nodup ∧
        (∀ key ∈ merged.keys, ∃ v, merged.get? key = some v ∧
          (supplied.get? key).or (lastDefault? steps key) = some v) ∧
        (ofDeclarations steps).merge merged = .ok merged
    else
      (ofDeclarations steps).merge supplied =
        .error (.unknownParameter (supplied.keys.filter fun key => key ∉ declared steps)) := by
  have hundeclared : (ofDeclarations steps).undeclared supplied =
      supplied.keys.filter fun key => key ∉ declared steps := by
    refine List.filter_congr fun key _ => ?_
    simp [OrderedMap.contains, mem_keys_ofDeclarations]
  have hnone_iff : (supplied.keys.filter fun key => key ∉ declared steps) = [] ↔
      ∀ key ∈ supplied.keys, key ∈ declared steps := by
    simp [List.filter_eq_nil_iff]
  -- Merging asks the same of the caller's options as the statement does.
  split
  · rename_i hdeclared
    have hmerge := merge_eq_ok_iff.mpr ⟨hundeclared.trans (hnone_iff.mpr hdeclared), rfl⟩
    refine ⟨_, hmerge, ?_, OrderedMap.nodup_keys _, fun key hkey => ?_, merge_merged hmerge⟩
    · rw [keys_of_merge hmerge, keys_ofDeclarations]
    · refine ⟨_, OptionSet.get?_of_mem hkey, ?_⟩
      rw [← get?_ofDeclarations, ← get?_of_merge hmerge, OptionSet.get?_of_mem hkey]
  · rename_i hsome
    rw [merge_eq_error_iff, hundeclared]
    exact ⟨mt hnone_iff.mp hsome, rfl⟩

/-- A parameter that is declared again keeps its place. -/
example : (ofDeclarations [.param "a" .null, .param "b" (.bool true),
      .extend (.ofList [("a", .ofNat 1)])]).merge (.ofList [("b", .null)]) =
    .ok (.ofList [("a", .ofNat 1), ("b", .null)]) := rfl

end Defaults

end EntitlementClient
