import EntitlementClient.Proofs.Operation.Validation

/-!
# `EntitlementClient.Proofs.Operation.Defaults`: the defaults of a call

A default is evaluated for one call. It may look at the date, at the uuid of the client's
consumer (`Default.usesUuid`) and at which options the caller names (`Default.reads`).
When two calls agree on these it is the same in both (`Default.evaluate_congr`).

When an operation declares no option twice, its defaults are the declared parameters in
their order, each with its default evaluated (`entries_defaults`, `keys_defaults`,
`value_defaults`). With the options merged over them, each option is known
(`value_of_merge`) and what is left of a request is its plan (`request_eq_plan`).
-/

set_option autoImplicit false

namespace EntitlementClient

deriving instance DecidableEq for Default

namespace Default

/-- The uuid of the client's consumer enters the default. -/
def usesUuid : Default → Bool
  | .consumerUuid => true
  | .unlessSupplied _ otherwise => otherwise.usesUuid
  | _ => false

/-- A default is the same in two calls on one day when it does not see in what they differ: the
uuid, or whether an option is named. -/
theorem evaluate_congr {default : Default} {context context' : Context}
    {supplied supplied' : OptionSet} (htoday : context.today = context'.today)
    (huuid : default.usesUuid = false ∨ context.uuid = context'.uuid)
    (hreads : ∀ key ∈ default.reads, supplied.contains key = supplied'.contains key) :
    default.evaluate context supplied = default.evaluate context' supplied' := by
  induction default with
  | value v => rfl
  | consumerUuid =>
    rcases huuid with huses | huuid
    · cases huses
    · rw [evaluate, evaluate, huuid]
  | daysAhead days => rw [evaluate, evaluate, htoday]
  | unlessSupplied key otherwise ih =>
    have hkey := hreads key (List.mem_cons_self ..)
    have hotherwise := ih huuid fun k hk => hreads k (List.mem_cons_of_mem _ hk)
    rw [evaluate, evaluate, hkey, hotherwise]

end Default

namespace Operation

/-! ### The defaults of an operation -/

variable {op : Operation} {context : Context} {supplied : OptionSet}

/-- When no option is declared twice, the defaults are the declared parameters in order, each with
what its declaration comes to. -/
theorem entries_defaults (hnodup : op.declared.Nodup) :
    (op.defaults context supplied).entries =
      op.parameters.map fun parameter => (parameter.1, parameter.2.evaluate context supplied) := by
  refine OrderedMap.entries_ofList ?_
  rw [List.map_map]
  exact hnodup

/-- The defaults stand in the order in which the options are declared. -/
theorem keys_defaults (hnodup : op.declared.Nodup) :
    (op.defaults context supplied).keys = op.declared := by
  rw [OrderedMap.keys, entries_defaults hnodup, List.map_map]
  rfl

/-- The default of an option is what its declaration comes to for the caller's options. -/
theorem value_defaults (hnodup : op.declared.Nodup) {parameter : String × Default}
    (hmem : parameter ∈ op.parameters) :
    OptionSet.value (op.defaults context supplied) parameter.1 =
      parameter.2.evaluate context supplied := by
  have hget : (op.defaults context supplied).get? parameter.1 =
      some (parameter.2.evaluate context supplied) := by
    rw [OrderedMap.get?_eq_some_iff, entries_defaults hnodup]
    exact List.mem_map.mpr ⟨parameter, hmem, rfl⟩
  rw [OptionSet.value, hget]
  rfl

/-- A merged option has the value of the caller, or else its default. This holds of null as well,
if the caller names the option with it. -/
theorem value_of_merge (hnodup : op.declared.Nodup) {options : OptionSet}
    (h : (op.defaults context supplied).merge supplied = .ok options)
    {parameter : String × Default} (hmem : parameter ∈ op.parameters) :
    options.value parameter.1 =
      (supplied.get? parameter.1).getD (parameter.2.evaluate context supplied) := by
  rw [Defaults.value_of_merge h, value_defaults hnodup hmem]

/-- A merged option without a default has the value of the caller, and is null without one. -/
theorem value_of_merge_absent (hnodup : op.declared.Nodup) {options : OptionSet}
    (h : (op.defaults context supplied).merge supplied = .ok options) {key : String}
    (hmem : (key, .absent) ∈ op.parameters) : options.value key = supplied.value key :=
  value_of_merge hnodup h hmem

/-- The request of a call is planned from the merged options. -/
theorem request_eq_plan {options : OptionSet}
    (h : (op.defaults context supplied).merge supplied = .ok options) :
    op.request context supplied = op.plan options := by
  rw [request, h]
  rfl

end Operation

end EntitlementClient
