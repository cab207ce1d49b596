import EntitlementClient.Proofs.Catalogue.Paths
import EntitlementClient.Proofs.Operation.Body

/-!
# `EntitlementClient.Proofs.Catalogue.Made`: what is known of a request that was made

`Operation.Makes` says that an operation makes a request of merged options.
`Makes.plan_cases` lists everything that this takes, and the other lemmas read it off: the
merged options are the declared ones (`Makes.mem_keys`), a required option has a value
(`Makes.value_ne_null`), and the body consists of the members that its parts set
(`Makes.body_compacted`, `Makes.body_verbatim`). `QueryPart.pairs_addTo_options` does the
same for a query.

`ReadsDeclared.exists_makes` says when there is a request: the requirements are met, and
the options in the path are scalars.
-/

set_option autoImplicit false

namespace EntitlementClient

/-- Options under their own names add their pairs, each key at its first place. -/
theorem QueryPart.pairs_addTo_options {options : OptionSet} {keys : List String} {q query : Query}
    (h : (QueryPart.options keys).addTo options q = .ok query) :
    query.pairs = q.pairs ++ keys.eraseDups.flatMap fun key => (options.value key).pairs key := by
  rw [addTo] at h
  cases hselect : options.select keys with
  | error e =>
    rw [hselect] at h
    cases h
  | ok selected =>
    rw [hselect] at h
    cases h
    exact Query.pairs_pushOptions_select hselect

/-- A part of a path can be rendered when its options are scalars. A part that is left out when
its option is null asks no more than that. -/
theorem PathPart.exists_render {options : OptionSet} {part : PathPart}
    (h : ∀ key ∈ part.reads, (options.value key).IsScalar) :
    ∃ text, part.render options = .ok text := by
  cases part with
  | text words => exact ⟨words, rfl⟩
  | option key =>
    obtain ⟨segment, -, hsegment, -⟩ := (h key List.mem_cons_self).segment
    exact ⟨segment, OptionSet.segment_eq_ok_iff.mpr hsegment⟩
  | whenSet lead key =>
    obtain ⟨segment, -, hsegment, -⟩ := (h key List.mem_cons_self).segment
    rw [render, OptionSet.segment_eq_ok_iff.mpr hsegment]
    split
    · exact ⟨_, rfl⟩
    · exact ⟨_, rfl⟩

/-- A request is made when the options can be merged, every requirement is met, and the options in
the path are scalars. -/
theorem Operation.ReadsDeclared.exists_makes {op : Operation} {context : Context}
    {supplied merged : OptionSet} (hreads : op.ReadsDeclared)
    (hmerge : (op.defaults context supplied).merge supplied = .ok merged)
    (hcheck : ∀ requirement ∈ op.requirements, requirement.check merged = .ok ())
    (hpath : ∀ part ∈ op.path, ∀ key ∈ part.reads, (merged.value key).IsScalar) :
    ∃ request, op.request context supplied = .ok request ∧
      op.Makes context supplied merged request := by
  obtain ⟨request, hrequest⟩ := hreads.request_ok_iff.mpr
    ⟨merged, hmerge, hcheck, fun part hpart => PathPart.exists_render (hpath part hpart)⟩
  exact ⟨request, hrequest, hmerge, (request_eq_plan hmerge).symm.trans hrequest⟩

namespace Operation.Makes

variable {op : Operation} {context : Context} {supplied merged : OptionSet} {request : Request}

/-- The merged options are those that the operation declares, no more and no fewer. -/
theorem mem_keys (h : op.Makes context supplied merged request) {key : String} :
    key ∈ merged.keys ↔ key ∈ op.declared := by
  rw [Defaults.keys_of_merge h.merge, Operation.mem_keys_defaults]

/-- An option that has to be present is not null when a request has been made. -/
theorem value_ne_null (h : op.Makes context supplied merged request) {keys : List String}
    (hrequired : .present keys ∈ op.requirements) {key : String} (hkey : key ∈ keys) :
    merged.value key ≠ .null := by
  have hcheck := Operation.checkAll_eq_ok_iff.mp h.plan_cases.1 _ hrequired
  have hkeys : keys.isEmpty = false := by
    cases keys with
    | nil => cases hkey
    | cons first rest => rfl
  have hvalue := OptionSet.requireThat_eq_ok_iff.mp hcheck key (by rw [hkeys]; exact hkey)
  intro hnull
  rw [hnull] at hvalue
  cases hvalue

/-! ### Bodies -/

/-- The body is the one planned, made of the merged options. -/
theorem body_eq (h : op.Makes context supplied merged request) :
    request.body = op.body.map (BodyPlan.render merged) := by
  obtain ⟨-, path, query, -, -, rfl⟩ := h.plan_cases
  rfl

/-- A body that is compacted has the members that its parts set, without those that are null. -/
theorem body_compacted (h : op.Makes context supplied merged request) {parts : List BodyPart}
    (hbody : op.body = some (.compacted parts)) :
    request.body = some (.object (assemble merged parts).compact.entries) := by
  rw [h.body_eq, hbody]
  rfl

/-- What the last part of a compacted body sets stands last, and is not dropped when it is
not null. The parts set each name once. -/
theorem body_last (h : op.Makes context supplied merged request) {parts : List BodyPart}
    {last : BodyPart} {name : String} {v : Json}
    (hbody : op.body = some (.compacted (parts ++ [last])))
    (hlast : last.members merged = [(name, v)]) (hv : v.isNull = false)
    (hnodup : (((parts ++ [last]).flatMap (BodyPart.members merged)).map Prod.fst).Nodup) :
    request.body = some (.object ((parts.flatMap (BodyPart.members merged)).filter
      (fun member => !member.2.isNull) ++ [(name, v)])) := by
  rw [h.body_compacted hbody, Body.entries_compact, entries_assemble hnodup, List.flatMap_append,
    List.filter_append, List.flatMap_singleton, hlast]
  simp [hv]

/-- A body that is sent as it is has all members that its parts set, null or not, in their order.
The parts must not set a name twice. -/
theorem body_verbatim (h : op.Makes context supplied merged request) {parts : List BodyPart}
    (hbody : op.body = some (.verbatim parts))
    (hnodup : ((parts.flatMap (BodyPart.members merged)).map Prod.fst).Nodup) :
    request.body = some (.object (parts.flatMap (BodyPart.members merged))) := by
  rw [h.body_eq, hbody, ← entries_assemble hnodup]
  rfl

/-- Options that a body takes over are all there when they are declared. Each has its name on the
wire and its merged value, even if that is null. -/
theorem wireFields (h : op.Makes context supplied merged request) {keys : List String}
    (hkeys : ∀ key ∈ keys, key ∈ op.declared) :
    merged.wireFields keys = keys.map fun key => (Wire.toCamel key, merged.value key) :=
  OptionSet.wireFields_of_mem fun key hkey => h.mem_keys.mpr (hkeys key hkey)

end Operation.Makes

end EntitlementClient
