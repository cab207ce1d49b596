import EntitlementClient.Proofs.Catalogue.Entry
import EntitlementClient.Proofs.Operation.Call

/-!
# `EntitlementClient.Proofs.Catalogue.MergedValues`: what a call depends on

A call depends on the values of its merged options and on nothing else.
`Entry.DecidedByValues` lists what that comes to for two calls of one entry: the order in
which a caller names the options does not matter, nor whether a default is named, nor
whether the uuid of the consumer comes from the caller or from the client.
`Entry.Listed.decidedByValues` proves it for every entry of the catalogue. The calls are
equal as trees, so they send the same requests and come to the same result against every
server.

There is one exception. The defaults of two options of `bind` look at whether the caller
names a product and a pool, so naming one of these with its default changes the call
(`bind_defaultMatters`). That no other default looks at the options of the caller, and
that the uuid is the only one that comes from the client, are checks of the table of
operations.
-/

set_option autoImplicit false

namespace EntitlementClient

/-! ### The table of operations -/

namespace Operation

/-- The uuid of the consumer is the default of the option `uuid`, and of no other. This is
computed over the catalogue. -/
theorem uuid_all : ∀ entry ∈ all, ∀ parameter ∈ entry.2.parameters,
    if parameter.1 = "uuid" then parameter.2 = .consumerUuid
    else parameter.2.usesUuid = false := by
  decide +kernel

/-- The defaults of `bind` look at whether the caller names a product and a pool. No other default
looks at the caller's options at all. -/
theorem default_reads_all : ∀ entry ∈ all, ∀ parameter ∈ entry.2.parameters,
    ∀ key ∈ parameter.2.reads, entry.1 = "bind" ∧ (key = "product" ∨ key = "pool") := by
  decide +kernel

end Operation

namespace Entry

/-- The options with one more, which is named with its default. -/
def namingDefault (entry : Entry) (context : Context) (supplied : OptionSet) (key : String) :
    OptionSet :=
  supplied.insert key (OptionSet.value (entry.defaults context supplied) key)

/-- What it means that a call depends on the values of its merged options alone. The entry
has this name. -/
structure DecidedByValues (name : String) (entry : Entry) : Prop where
  /-- Two calls are the same when every merged option has the same value in both. -/
  values : ∀ {context context' : Context} {supplied supplied' options options' : OptionSet},
    (entry.defaults context supplied).merge supplied = .ok options →
    (entry.defaults context' supplied').merge supplied' = .ok options' →
    (∀ key, options.value key = options'.value key) →
    entry.call context supplied = entry.call context' supplied'
  /-- The order in which the caller names options does not matter. -/
  order : ∀ (context : Context) {supplied supplied' : OptionSet}, entry.Declared supplied →
    supplied.entries.Perm supplied'.entries →
    entry.call context supplied = entry.call context supplied'
  /-- An option that the caller leaves out can as well be named with its default. -/
  named_default : ∀ (context : Context) {supplied : OptionSet} {key : String},
    entry.Declared supplied → key ∈ entry.declared → key ∉ supplied.keys →
    ¬ (name = "bind" ∧ (key = "product" ∨ key = "pool")) →
    entry.call context (entry.namingDefault context supplied key) = entry.call context supplied
  /-- The uuid can as well come from the caller as from the client. -/
  named_uuid : ∀ (uuid : String) (other : Option String) (today : Date) {supplied : OptionSet},
    entry.Declared supplied → "uuid" ∈ entry.declared → "uuid" ∉ supplied.keys →
    entry.call ⟨some uuid, today⟩ supplied =
      entry.call ⟨other, today⟩ (supplied.insert "uuid" (.string uuid))
  /-- Without the option `uuid` the uuid of the client does not matter. -/
  no_uuid : ∀ (uuid other : Option String) (today : Date) {supplied : OptionSet},
    entry.Declared supplied → "uuid" ∉ entry.declared →
    entry.call ⟨uuid, today⟩ supplied = entry.call ⟨other, today⟩ supplied

/-! ### Calls with the same merged options -/

section

variable {name : String} {entry : Entry} {context context' : Context}
  {supplied supplied' options options' : OptionSet}

/-- Two calls with the same merged options are the same, whatever contexts and options they come
from. A call looks at nothing else. -/
theorem call_eq_of_merge (h : (entry.defaults context supplied).merge supplied = .ok options)
    (h' : (entry.defaults context' supplied').merge supplied' = .ok options) :
    entry.call context supplied = entry.call context' supplied' := by
  cases entry with
  | single op =>
    show op.call context supplied = op.call context' supplied'
    rw [Operation.call, Operation.call, Operation.request_eq_plan h, Operation.request_eq_plan h']
  | ownerUser =>
    -- The operations that it is made of have no default that looks at the context.
    have hrest : Access.provideRole context options = Access.provideRole context' options := rfl
    have hmember : ∀ id,
        Access.createMember context options id = Access.createMember context' options id :=
      fun _ => rfl
    show Access.createUserUnderOwner context supplied = Access.createUserUnderOwner context' supplied'
    rw [Access.createUserUnderOwner, Access.createUserUnderOwner,
      show Access.ownerUserDefaults.merge supplied = .ok options from h,
      show Access.ownerUserDefaults.merge supplied' = .ok options from h']
    rfl

/-- Merged options with the same values are equal. They have the same keys in the same order,
which are the declared ones. -/
theorem Listed.merged_eq (hlisted : Listed name entry)
    (h : (entry.defaults context supplied).merge supplied = .ok options)
    (h' : (entry.defaults context' supplied').merge supplied' = .ok options')
    (hvalues : ∀ key, options.value key = options'.value key) : options = options' := by
  have hkeys : options.keys = options'.keys := by
    rw [Defaults.keys_of_merge h, Defaults.keys_of_merge h', hlisted.keys_defaults,
      hlisted.keys_defaults]
  refine OrderedMap.ext_get? hkeys fun key hkey => ?_
  rw [OptionSet.get?_of_mem hkey, OptionSet.get?_of_mem (hkeys ▸ hkey), hvalues]

/-- Two calls are the same when each option is named with the same value in both, or has
it by default. -/
theorem Listed.call_eq (hlisted : Listed name entry) (hdeclared : entry.Declared supplied)
    (hdeclared' : entry.Declared supplied')
    (hvalues : ∀ key, (supplied.get? key).getD (OptionSet.value (entry.defaults context supplied) key)
      = (supplied'.get? key).getD (OptionSet.value (entry.defaults context' supplied') key)) :
    entry.call context supplied = entry.call context' supplied' := by
  obtain ⟨options, hmerge⟩ := merge_of_declared context hdeclared
  obtain ⟨options', hmerge'⟩ := merge_of_declared context' hdeclared'
  have heq : options = options' := by
    refine hlisted.merged_eq hmerge hmerge' fun key => ?_
    rw [Defaults.value_of_merge hmerge, Defaults.value_of_merge hmerge', hvalues]
  exact call_eq_of_merge hmerge (heq ▸ hmerge')

/-! ### What a default depends on -/

/-- The default of an option is the same in two calls on one day, unless it is the uuid or
looks at the options of the caller. -/
theorem Listed.value_defaults_eq (hlisted : Listed name entry)
    (htoday : context.today = context'.today) {key : String}
    (huuid : key ≠ "uuid" ∨ context.uuid = context'.uuid)
    (hnamed : name = "bind" → ∀ k, k = "product" ∨ k = "pool" →
      supplied.contains k = supplied'.contains k) :
    OptionSet.value (entry.defaults context supplied) key =
      OptionSet.value (entry.defaults context' supplied') key := by
  cases hlisted with
  | ownerUser => rfl
  | @single _ op hmem =>
    have hnodup := Operation.nodup_declared_all _ hmem
    by_cases hkey : key ∈ op.declared
    · -- A declared option has its own default. What that sees is the same on both sides.
      obtain ⟨parameter, hparameter, rfl⟩ := List.mem_map.mp hkey
      show OptionSet.value (op.defaults context supplied) parameter.1 =
        OptionSet.value (op.defaults context' supplied') parameter.1
      rw [Operation.value_defaults hnodup hparameter, Operation.value_defaults hnodup hparameter]
      refine Default.evaluate_congr htoday ?_ fun k hk => ?_
      · have huses := Operation.uuid_all _ hmem parameter hparameter
        rcases huuid with hne | huuid
        · rw [if_neg hne] at huses
          exact Or.inl huses
        · exact Or.inr huuid
      · obtain ⟨hbind, hread⟩ := Operation.default_reads_all _ hmem parameter hparameter k hk
        exact hnamed hbind k hread
    · -- An option that is not declared has no default in either.
      have hnone : ∀ (c : Context) (s : OptionSet), key ∉ (op.defaults c s).keys := fun c s h =>
        hkey (Operation.mem_keys_defaults.mp h)
      show OptionSet.value (op.defaults context supplied) key =
        OptionSet.value (op.defaults context' supplied') key
      rw [OptionSet.value_of_not_mem (hnone _ _), OptionSet.value_of_not_mem (hnone _ _)]

/-- Where an operation takes a uuid, its default is the uuid of the client, or null if the client
has none. -/
theorem Listed.value_defaults_uuid (hlisted : Listed name entry)
    (hdeclared : "uuid" ∈ entry.declared) :
    OptionSet.value (entry.defaults context supplied) "uuid" = uuidValue context.uuid := by
  cases hlisted with
  | ownerUser => exact absurd hdeclared (by decide)
  | @single _ op hmem =>
    obtain ⟨⟨key, default⟩, hparameter, hkey⟩ := List.mem_map.mp hdeclared
    dsimp only at hkey
    subst hkey
    have huuid : default = .consumerUuid := by
      simpa using Operation.uuid_all _ hmem _ hparameter
    have hvalue : OptionSet.value (op.defaults context supplied) "uuid" =
        default.evaluate context supplied :=
      Operation.value_defaults (Operation.nodup_declared_all _ hmem) hparameter
    show OptionSet.value (op.defaults context supplied) "uuid" = _
    rw [hvalue, huuid]
    rfl

/-! ### Two calls of one entry -/

/-- Options that are all declared stay so when one more declared option is set. -/
theorem declared_insert {key : String} {v : Json} (h : entry.Declared supplied)
    (hkey : key ∈ entry.declared) : entry.Declared (supplied.insert key v) := by
  intro other hother
  rcases OrderedMap.mem_keys_insert.mp hother with hother | rfl
  · exact h other hother
  · exact hkey

/-- To name one more option does not show in whether another one is named. -/
theorem contains_insert_of_ne {key other : String} {v : Json} (h : other ≠ key) :
    supplied.contains other = (supplied.insert key v).contains other := by
  simp [OrderedMap.contains, h]

/-- The order in which a caller names the options does not matter. Two option sets with
the same pairs in another order make the same call. -/
theorem Listed.call_eq_of_perm (hlisted : Listed name entry) (hdeclared : entry.Declared supplied)
    (hperm : supplied.entries.Perm supplied'.entries) :
    entry.call context supplied = entry.call context supplied' := by
  have hkeys : supplied.keys.Perm supplied'.keys := hperm.map Prod.fst
  have hdeclared' : entry.Declared supplied' := fun key hkey =>
    hdeclared key (hkeys.mem_iff.mpr hkey)
  have hcontains : ∀ key, supplied.contains key = supplied'.contains key := by
    intro key
    simp only [OrderedMap.contains, hkeys.mem_iff]
  refine hlisted.call_eq hdeclared hdeclared' fun key => ?_
  rw [OrderedMap.get?_of_perm hperm, hlisted.value_defaults_eq rfl (Or.inr rfl)
    fun _ k _ => hcontains k]

/-- To leave out an option is the same as to name it with its default. The product and the
pool of `bind` are the exception: the default of the quantity depends on whether they are
named. -/
theorem Listed.call_insert_default (hlisted : Listed name entry)
    (hdeclared : entry.Declared supplied) {key : String} (hkey : key ∈ entry.declared)
    (habsent : key ∉ supplied.keys) (hbind : ¬ (name = "bind" ∧ (key = "product" ∨ key = "pool"))) :
    entry.call context (entry.namingDefault context supplied key) = entry.call context supplied := by
  refine hlisted.call_eq (declared_insert hdeclared hkey) hdeclared fun other => ?_
  have hdefault :
      OptionSet.value (entry.defaults context (entry.namingDefault context supplied key)) other =
        OptionSet.value (entry.defaults context supplied) other := by
    refine hlisted.value_defaults_eq rfl (Or.inr rfl) fun hname k hk => ?_
    have hne : k ≠ key := fun e => hbind ⟨hname, e ▸ hk⟩
    exact (contains_insert_of_ne hne).symm
  rw [hdefault, namingDefault, OrderedMap.get?_insert]
  by_cases hother : key = other
  · subst hother
    rw [if_pos rfl, OrderedMap.get?_eq_none_iff.mpr habsent]
    rfl
  · rw [if_neg hother]

/-- Where an operation takes a uuid, it does not matter whether the uuid comes from the
caller or from the client. -/
theorem Listed.call_insert_uuid (hlisted : Listed name entry) (hdeclared : entry.Declared supplied)
    (huuid : "uuid" ∈ entry.declared) (habsent : "uuid" ∉ supplied.keys) (uuid : String)
    (other : Option String) (today : Date) :
    entry.call ⟨some uuid, today⟩ supplied =
      entry.call ⟨other, today⟩ (supplied.insert "uuid" (.string uuid)) := by
  refine hlisted.call_eq hdeclared (declared_insert hdeclared huuid) fun key => ?_
  rw [OrderedMap.get?_insert]
  by_cases hkey : "uuid" = key
  · -- The one option that differs: the client's uuid by default, the same one named.
    subst hkey
    rw [if_pos rfl, OrderedMap.get?_eq_none_iff.mpr habsent, hlisted.value_defaults_uuid huuid]
    rfl
  · have hdefault :
        OptionSet.value (entry.defaults ⟨some uuid, today⟩ supplied) key =
          OptionSet.value
            (entry.defaults ⟨other, today⟩ (supplied.insert "uuid" (.string uuid))) key := by
      refine hlisted.value_defaults_eq ?_ (Or.inl fun e => hkey e.symm) ?_
      · rfl
      · rintro - k (rfl | rfl)
        · exact contains_insert_of_ne (by decide)
        · exact contains_insert_of_ne (by decide)
    rw [if_neg hkey, hdefault]

/-- Where an operation does not take a uuid, the uuid of the client does not matter. -/
theorem Listed.call_eq_of_no_uuid (hlisted : Listed name entry)
    (hdeclared : entry.Declared supplied) (huuid : "uuid" ∉ entry.declared)
    (uuid other : Option String) (today : Date) :
    entry.call ⟨uuid, today⟩ supplied = entry.call ⟨other, today⟩ supplied := by
  refine hlisted.call_eq hdeclared hdeclared fun key => ?_
  by_cases hkey : key = "uuid"
  · subst hkey
    have hnone : ∀ c : Context, "uuid" ∉ (entry.defaults c supplied).keys := fun c h =>
      huuid (mem_keys_defaults.mp h)
    rw [OptionSet.value_of_not_mem (hnone _), OptionSet.value_of_not_mem (hnone _)]
  · have hdefault : OptionSet.value (entry.defaults ⟨uuid, today⟩ supplied) key =
        OptionSet.value (entry.defaults ⟨other, today⟩ supplied) key := by
      refine hlisted.value_defaults_eq ?_ (Or.inl hkey) fun _ _ _ => rfl
      rfl
    rw [hdefault]

/-- Every operation of the catalogue has all the parts of `DecidedByValues`. -/
theorem Listed.decidedByValues (hlisted : Listed name entry) : DecidedByValues name entry where
  values h h' hvalues := call_eq_of_merge h (hlisted.merged_eq h h' hvalues ▸ h')
  order _ _ _ hdeclared hperm := hlisted.call_eq_of_perm hdeclared hperm
  named_default _ _ _ hdeclared hkey habsent hbind :=
    hlisted.call_insert_default hdeclared hkey habsent hbind
  named_uuid uuid other today _ hdeclared huuid habsent :=
    hlisted.call_insert_uuid hdeclared huuid habsent uuid other today
  no_uuid uuid other today _ hdeclared huuid :=
    hlisted.call_eq_of_no_uuid hdeclared huuid uuid other today

end

/-! ### The exception -/

/-- Calls of one operation that have different requests differ: a server tells them apart. -/
theorem call_ne_of_request_ne {op : Operation} {context : Context} {supplied supplied' : OptionSet}
    {request request' : Request} (h : op.request context supplied = .ok request)
    (h' : op.request context supplied' = .ok request') (hne : request ≠ request') :
    (Entry.single op).call context supplied ≠ (Entry.single op).call context supplied' :=
  mt (Operation.call_eq_iff h h').mp hne

/-- There is a call that changes when the caller names the option with its default. -/
def DefaultMatters (entry : Entry) (key : String) : Prop :=
  ∃ context supplied, entry.Declared supplied ∧ key ∈ entry.declared ∧ key ∉ supplied.keys ∧
    entry.call context (entry.namingDefault context supplied key) ≠ entry.call context supplied

/-- Naming the product of `bind` with its default takes away the quantity, and naming the
pool takes away the date. -/
theorem bind_defaultMatters {key : String} (hkey : key = "product" ∨ key = "pool") :
    DefaultMatters (.single Consumers.bindEntitlements) key := by
  refine ⟨⟨some "c1", ⟨2026, 1, 31⟩⟩, .empty, fun _ h => (nomatch h), ?_, fun h => (nomatch h), ?_⟩
  · rcases hkey with rfl | rfl
    · decide
    · decide
  · rcases hkey with rfl | rfl
    · exact call_ne_of_request_ne rfl rfl (by decide +kernel)
    · exact call_ne_of_request_ne rfl rfl (by decide +kernel)

/-- Every call of every entry depends on the values of its merged options alone. The
exception to naming a default, the product and the pool of `bind`, is one. -/
theorem call_decided_by_merged_values :
    (∀ name entry, Listed name entry → DecidedByValues name entry) ∧
      ∀ key, key = "product" ∨ key = "pool" →
        DefaultMatters (.single Consumers.bindEntitlements) key :=
  ⟨fun _ _ hlisted => hlisted.decidedByValues, fun _ hkey => bind_defaultMatters hkey⟩

/-- A registered client asks for a pool as its own consumer. Another client that names the
consumer sends the same request. -/
theorem call_decided_by_merged_values_get_pool :
    let entry := Entry.single Entitlements.getPool
    let supplied : OptionSet := .ofList [("pool_id", .string "p 1")]
    Listed "get_pool" entry ∧ entry.Declared supplied ∧ "uuid" ∈ entry.declared ∧
      "uuid" ∉ supplied.keys ∧
      entry.call ⟨some "c1", ⟨2026, 1, 31⟩⟩ supplied =
        entry.call ⟨some "c2", ⟨2026, 1, 31⟩⟩ (supplied.insert "uuid" (.string "c1")) ∧
      ((entry.call ⟨some "c1", ⟨2026, 1, 31⟩⟩ supplied).run replay []).sent =
        [⟨.get, "/pools/p%201", Query.empty.push "consumer" "c1", none, none⟩] := by
  dsimp only
  have hlisted : Listed "get_pool" (.single Entitlements.getPool) :=
    .single (by simp [Operation.all, Entitlements.catalogue])
  have hdeclared : (Entry.single Entitlements.getPool).Declared
      (.ofList [("pool_id", .string "p 1")]) := by
    intro key hkey
    simp at hkey
    subst hkey
    decide
  refine ⟨hlisted, hdeclared, by decide, by decide, ?_, by rfl⟩
  exact (call_decided_by_merged_values.1 _ _ hlisted).named_uuid "c1" (some "c2") _ hdeclared
    (by decide) (by decide)

end Entry

end EntitlementClient
