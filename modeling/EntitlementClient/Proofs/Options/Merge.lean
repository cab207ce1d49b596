import EntitlementClient.Options.Defaults
import EntitlementClient.Proofs.OrderedMap

/-!
# `EntitlementClient.Proofs.Options.Merge`: what merging comes to

`Defaults.merge` fails exactly when a supplied option is not declared, and then names all
of those (`merge_eq_error_iff`). Otherwise (`merge_eq_ok_iff`) the merged options have the
declared keys in their order (`keys_of_merge`), and each has the supplied value, or the
default where none was supplied (`get?_of_merge`, `value_of_merge`).
-/

set_option autoImplicit false

namespace EntitlementClient

/-- An option that is not there is null. -/
theorem OptionSet.value_of_not_mem {options : OptionSet} {key : String} (h : key ∉ options.keys) :
    options.value key = .null := by
  rw [value, OrderedMap.get?_eq_none_iff.mpr h]
  rfl

/-- An option that is there has its value. -/
theorem OptionSet.get?_of_mem {options : OptionSet} {key : String} (h : key ∈ options.keys) :
    options.get? key = some (options.value key) := by
  cases hget : options.get? key with
  | none => exact absurd h (OrderedMap.get?_eq_none_iff.mp hget)
  | some v => rw [value, hget, Option.getD_some]

/-- Removing an option that is null leaves all values, because an option that is not there is
null. -/
theorem OptionSet.value_erase_of_null {options : OptionSet} {key : String}
    (h : options.get? key = some .null) (other : String) :
    OptionSet.value (options.erase key) other = options.value other := by
  rw [value, value, OrderedMap.get?_erase]
  split
  · rename_i heq
    rw [← heq, h]
    rfl
  · rfl

namespace Defaults

variable {defaults : Defaults} {supplied options : OptionSet}

/-- A supplied key is undeclared when it is not among the keys of the defaults. -/
theorem mem_undeclared {key : String} :
    key ∈ defaults.undeclared supplied ↔ key ∈ supplied.keys ∧ key ∉ defaults.keys := by
  simp [undeclared, OrderedMap.contains]

/-- Merging succeeds exactly when every supplied option is declared. The merged options are the
defaults with the supplied options set over them. -/
theorem merge_eq_ok_iff :
    defaults.merge supplied = .ok options ↔
      defaults.undeclared supplied = [] ∧ options = defaults.insertAll supplied.entries := by
  unfold merge
  simp only [List.isEmpty_iff]
  split
  · rename_i h
    simp only [Except.ok.injEq, h, true_and]
    exact eq_comm
  · rename_i h
    simp [h]

/-- Merging fails with all supplied options that are not declared, and with nothing else. -/
theorem merge_eq_error_iff {e : ClientError} :
    defaults.merge supplied = .error e ↔
      defaults.undeclared supplied ≠ [] ∧
        e = .unknownParameter (defaults.undeclared supplied) := by
  unfold merge
  simp only [List.isEmpty_iff]
  split
  · rename_i h
    simp [h]
  · rename_i h
    simp only [Except.error.injEq, ne_eq, h, not_false_eq_true, true_and]
    exact eq_comm

/-- The merged options are the declared ones in the order of declaration, whatever order the
caller has. -/
theorem keys_of_merge (h : defaults.merge supplied = .ok options) :
    options.keys = defaults.keys := by
  obtain ⟨hnone, rfl⟩ := merge_eq_ok_iff.mp h
  refine OrderedMap.keys_insertAll fun key hkey => Decidable.byContradiction fun hundeclared => ?_
  -- A supplied key that is not declared would be among the undeclared ones.
  have hmem : key ∈ defaults.undeclared supplied := mem_undeclared.mpr ⟨hkey, hundeclared⟩
  rw [hnone] at hmem
  cases hmem

/-- A look-up in the merged options sees the supplied options first. -/
theorem get?_of_merge (h : defaults.merge supplied = .ok options) (key : String) :
    options.get? key = (supplied.get? key).or (defaults.get? key) := by
  obtain ⟨-, rfl⟩ := merge_eq_ok_iff.mp h
  exact OrderedMap.get?_insertAll_entries defaults supplied key

/-- A merged option has the supplied value, or else the default. A supplied null counts as a
value. -/
theorem value_of_merge (h : defaults.merge supplied = .ok options) (key : String) :
    options.value key = (supplied.get? key).getD (OptionSet.value defaults key) := by
  unfold OptionSet.value
  rw [get?_of_merge h]
  cases supplied.get? key with
  | none => rfl
  | some v => rfl

end Defaults

end EntitlementClient
