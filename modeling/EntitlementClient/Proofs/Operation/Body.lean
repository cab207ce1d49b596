import EntitlementClient.Proofs.Operation.Validation

/-!
# `EntitlementClient.Proofs.Operation.Body`: the members of a body

A body is made of parts, one after the other. `BodyPart.members` lists what a part sets,
and the body is the map of all that its parts set (`assemble_eq`). So when the parts set
each name once, the members of the body are just these, in the order of the parts
(`entries_assemble`). Compacting takes away the members that are null and no others
(`Body.mem_compact`).
-/

set_option autoImplicit false

namespace EntitlementClient

/-! ### Parts -/

/-- The options under the given keys, with their names in camel case. -/
def OptionSet.wireFields (options : OptionSet) (keys : List String) : List (String × Json) :=
  keys.filterMap fun key => (options.get? key).map fun v => (Wire.toCamel key, v)

/-- Options that are all there are all among the fields. -/
theorem OptionSet.wireFields_of_mem {options : OptionSet} {keys : List String}
    (h : ∀ key ∈ keys, key ∈ options.keys) :
    options.wireFields keys = keys.map fun key => (Wire.toCamel key, options.value key) := by
  unfold wireFields
  induction keys with
  | nil => rfl
  | cons key rest ih =>
    have hkey := OptionSet.get?_of_mem (h key List.mem_cons_self)
    have hrest := ih fun other hother => h other (List.mem_cons_of_mem key hother)
    rw [List.filterMap_cons, hkey, hrest]
    rfl

/-- The members that a part of a body sets. -/
def BodyPart.members (options : OptionSet) : BodyPart → List (String × Json)
  | .fields keys => options.wireFields keys
  | .allFields => (options.mapFields none).entries
  | .member name key shape => [(name, shape.apply (options.value key))]
  | .memberIfAny name key shape =>
    if (options.value key).asList.isEmpty then [] else [(name, shape.apply (options.value key))]
  | .typedAttributes name key typeKey =>
    [(name, (overrideAttribute "type" (options.value typeKey) (options.value key)).nameValuePairs)]

variable {options : OptionSet} {parts : List BodyPart}

/-- Adding a part sets its members in the body that is there, one after the other. -/
theorem BodyPart.addTo_eq {part : BodyPart} {body : Body} :
    part.addTo options body = body.insertAll (part.members options) := by
  cases part with
  | fields keys => rfl
  | allFields => rfl
  | member name key shape => rfl
  | memberIfAny name key shape =>
    show (if (options.value key).asList.isEmpty = true then body else _) =
      body.insertAll (if (options.value key).asList.isEmpty = true then [] else _)
    split
    · rfl
    · rfl
  | typedAttributes name key typeKey => rfl

/-- A body is the map of the members that its parts set. Where two parts set one name, the later
value takes the place of the earlier one. -/
theorem assemble_eq :
    assemble options parts = .ofList (parts.flatMap (BodyPart.members options)) := by
  have hrun : ∀ body : Body, parts.foldl (fun body part => part.addTo options body) body =
      body.insertAll (parts.flatMap (BodyPart.members options)) := by
    induction parts with
    | nil => exact fun body => rfl
    | cons part rest ih =>
      intro body
      rw [List.foldl_cons, ih, BodyPart.addTo_eq, List.flatMap_cons, OrderedMap.insertAll_append]
  exact hrun .empty

/-- When the parts set each name once, the members of the body are what the parts set, in
order. -/
theorem entries_assemble
    (h : ((parts.flatMap (BodyPart.members options)).map Prod.fst).Nodup) :
    (assemble options parts).entries = parts.flatMap (BodyPart.members options) := by
  rw [assemble_eq, OrderedMap.entries_ofList h]

/-! ### Compacting -/

namespace Body

/-- Compacting drops the members that are null and keeps the others in their order. -/
theorem entries_compact {body : Body} :
    body.compact.entries = body.entries.filter fun member => !member.2.isNull := rfl

/-- A compacted body has the members that are not null, and no others. -/
theorem mem_compact {body : Body} {name : String} {v : Json} :
    (name, v) ∈ body.compact.entries ↔ (name, v) ∈ body.entries ∧ v ≠ .null := by
  rw [entries_compact, List.mem_filter]
  simp [← Json.isNull_iff]

end Body

end EntitlementClient
