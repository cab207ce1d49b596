import Mathlib.Data.List.Basic
import EntitlementClient.Proofs.Operation.Body
import EntitlementClient.Proofs.Operation.Call
import EntitlementClient.Proofs.Operation.Defaults

/-!
# `EntitlementClient.Proofs.Operation.Apart`: options that are the same apart from one

When two sets of options have the same keys and differ in the value of one
(`OptionSet.SameApart`), the parts of a description that do not read it come to the same:
its requirements, its path, and the parts of its query and its body.
`Operation.plan_congr` puts this together. What is left to show is that the parts that
read the option make the same of both values.

`Operation.call_insert_congr` carries it to calls. Options of the caller that differ in
one value are merged to options that differ in it, or refused for the same reason.
-/

set_option autoImplicit false

namespace EntitlementClient

/-- The options have the same keys, and the same values apart from that of `key`. -/
structure OptionSet.SameApart (key : String) (options options' : OptionSet) : Prop where
  keys : options.keys = options'.keys
  value : ∀ other, other ≠ key → options.value other = options'.value other

section

variable {key : String} {options options' : OptionSet}

/-- A look-up of any other option finds the same in both, or nothing in both. -/
theorem OptionSet.SameApart.get? (h : SameApart key options options') {other : String}
    (hne : other ≠ key) : options.get? other = options'.get? other := by
  by_cases hmem : other ∈ options.keys
  · rw [get?_of_mem hmem, get?_of_mem (h.keys ▸ hmem), h.value other hne]
  · rw [OrderedMap.get?_eq_none_iff.mpr hmem, OrderedMap.get?_eq_none_iff.mpr (h.keys ▸ hmem)]

/-! ### Requirements and path -/

/-- A test of options that are named does not see the one that they differ in. The list of
names must not be empty, for the empty list stands for all options. -/
theorem OptionSet.SameApart.requireThat (h : SameApart key options options') {keys : List String}
    (hkeys : keys ≠ []) (hkey : key ∉ keys) (test : Json → Bool) :
    options.requireThat keys test = options'.requireThat keys test := by
  have hfailing : options.failing keys test = options'.failing keys test := by
    have hsome : keys.isEmpty = false := by simpa using hkeys
    simp only [failing, hsome]
    refine List.filter_congr fun other hother => ?_
    rw [h.value other fun heq => hkey (heq ▸ hother)]
  rw [OptionSet.requireThat, OptionSet.requireThat, hfailing]

/-- A requirement that names options sees only those. The one that names none looks at all
options, so it is left out here. -/
theorem Requirement.check_congr (h : options.SameApart key options') {requirement : Requirement}
    (hsome : requirement.reads ≠ []) (hkey : key ∉ requirement.reads) :
    requirement.check options = requirement.check options' := by
  cases requirement with
  | present keys => exact h.requireThat hsome hkey _
  -- This one names no option, and looks at all of them.
  | allPresent => exact absurd rfl hsome
  | anObject other => exact h.requireThat hsome hkey _
  | nonEmptyList other => exact h.requireThat hsome hkey _

/-- Requirements in a row that name options see only those. -/
theorem Operation.checkAll_congr (h : options.SameApart key options')
    {requirements : List Requirement}
    (hreads : ∀ requirement ∈ requirements, requirement.reads ≠ [] ∧ key ∉ requirement.reads) :
    checkAll options requirements = checkAll options' requirements := by
  induction requirements with
  | nil => rfl
  | cons requirement rest ih =>
    obtain ⟨⟨hsome, hkey⟩, hrest⟩ := List.forall_mem_cons.mp hreads
    rw [checkAll, checkAll, Requirement.check_congr h hsome hkey, ih hrest]

/-- The segment of an option is decided by its value. -/
theorem OptionSet.segment_congr {other : String}
    (h : options.value other = options'.value other) :
    options.segment other = options'.segment other := by
  rw [segment, segment, h]

/-- A part of a path that does not read the option comes to the same. -/
theorem PathPart.render_congr (h : options.SameApart key options') {part : PathPart}
    (hkey : key ∉ part.reads) : part.render options = part.render options' := by
  have hvalue : ∀ other ∈ part.reads, options.value other = options'.value other :=
    fun other hother => h.value other fun heq => hkey (heq ▸ hother)
  cases part with
  | text words => rfl
  | option other => exact OptionSet.segment_congr (hvalue other List.mem_cons_self)
  | whenSet lead other =>
    have hother := hvalue other List.mem_cons_self
    rw [render, render, OptionSet.segment_congr hother, OptionSet.isNull, OptionSet.isNull, hother]

/-- A path sees only the options in its parts. -/
theorem renderPath_congr (h : options.SameApart key options') {parts : List PathPart}
    (hreads : ∀ part ∈ parts, key ∉ part.reads) :
    renderPath options parts = renderPath options' parts := by
  have hparts : renderParts options parts = renderParts options' parts := by
    induction parts with
    | nil => rfl
    | cons part rest ih =>
      obtain ⟨hkey, hrest⟩ := List.forall_mem_cons.mp hreads
      rw [renderParts, renderParts, PathPart.render_congr h hkey, ih hrest]
  rw [renderPath, renderPath, hparts]

/-! ### Query and body -/

/-- So does a part of a query, whatever query it is added to. -/
theorem QueryPart.addTo_congr (h : options.SameApart key options') {part : QueryPart}
    (hkey : key ∉ part.reads) (q : Query) : part.addTo options q = part.addTo options' q := by
  have hvalue : ∀ other ∈ part.reads, options.value other = options'.value other :=
    fun other hother => h.value other fun heq => hkey (heq ▸ hother)
  cases part with
  | options keys =>
    have hselect : options.select keys = options'.select keys := by
      rw [OptionSet.select_eq, OptionSet.select_eq, h.keys]
      rw [List.map_congr_left fun other hother => by rw [hvalue other hother]]
    rw [addTo, addTo, hselect]
  | renamed name other => rw [addTo, addTo, hvalue other List.mem_cons_self]
  | joined name other => rw [addTo, addTo, hvalue other List.mem_cons_self]
  | attributes name other => rw [addTo, addTo, hvalue other List.mem_cons_self]

/-- Parts that each come to the same make the same query in a row. -/
theorem renderQuery_congr {parts : List QueryPart}
    (h : ∀ part ∈ parts, ∀ q, part.addTo options q = part.addTo options' q) (q : Query) :
    renderQuery options q parts = renderQuery options' q parts := by
  induction parts generalizing q with
  | nil => rfl
  | cons part rest ih =>
    obtain ⟨hfirst, hrest⟩ := List.forall_mem_cons.mp h
    simp only [renderQuery, hfirst q, ih hrest]

/-- A part of a body that names options sees only those. -/
theorem BodyPart.members_congr (h : options.SameApart key options') {part : BodyPart}
    (hall : part ≠ .allFields) (hkey : key ∉ part.reads) :
    part.members options = part.members options' := by
  have hne : ∀ other ∈ part.reads, other ≠ key := fun other hother heq => hkey (heq ▸ hother)
  cases part with
  | fields keys =>
    refine List.filterMap_congr fun other hother => ?_
    rw [h.get? (hne other hother)]
  | allFields => exact absurd rfl hall
  | member name other shape => rw [members, members, h.value other (hne other List.mem_cons_self)]
  | memberIfAny name other shape =>
    rw [members, members, h.value other (hne other List.mem_cons_self)]
  | typedAttributes name other typeKey =>
    rw [members, members, h.value other (hne other List.mem_cons_self),
      h.value typeKey (hne typeKey (List.mem_cons_of_mem other List.mem_cons_self))]

/-- Parts that each give the same members make the same body. -/
theorem assemble_congr {parts : List BodyPart}
    (h : ∀ part ∈ parts, part.members options = part.members options') :
    assemble options parts = assemble options' parts := by
  rw [assemble_eq, assemble_eq, List.flatMap_congr h]

namespace Operation

/-! ### Requests and calls -/

variable {op : Operation} {context : Context} {supplied : OptionSet} {v v' : Json}

/-- The request is the same when neither the requirements nor the path read the option in
which the options differ, and query and body come to the same. -/
theorem plan_congr (h : options.SameApart key options')
    (hrequirements : ∀ requirement ∈ op.requirements,
      requirement.reads ≠ [] ∧ key ∉ requirement.reads)
    (hpath : ∀ part ∈ op.path, key ∉ part.reads)
    (hquery : ∀ part ∈ op.query, ∀ q, part.addTo options q = part.addTo options' q)
    (hbody : ∀ body ∈ op.body, body.render options = body.render options') :
    op.plan options = op.plan options' := by
  have hjson : op.body.map (BodyPlan.render options) = op.body.map (BodyPlan.render options') := by
    cases hplan : op.body with
    | none => rfl
    | some body => exact congrArg some (hbody body hplan)
  rw [plan, plan, checkAll_congr h hrequirements, renderPath_congr h hpath,
    renderQuery_congr hquery, hjson]

/-- The defaults of a call do not see the values that the caller gives. They see at most which
options are named. -/
theorem defaults_insert_congr :
    op.defaults context (supplied.insert key v) = op.defaults context (supplied.insert key v') := by
  have hevaluate : ∀ default : Default, default.evaluate context (supplied.insert key v) =
      default.evaluate context (supplied.insert key v') := fun default =>
    Default.evaluate_congr rfl (Or.inr rfl) fun other _ => by simp [OrderedMap.contains]
  simp only [defaults, hevaluate]

/-- A value that the caller gives is the merged one. -/
theorem value_of_merge_insert {defaults : Defaults}
    (h : defaults.merge (supplied.insert key v) = .ok options) : options.value key = v := by
  rw [Defaults.value_of_merge h, OrderedMap.get?_insert, if_pos rfl]
  rfl

/-- The other merged values do not depend on it. So merged options differ at most in the value
that the caller gives. -/
theorem sameApart_of_merge {defaults : Defaults}
    (h : defaults.merge (supplied.insert key v) = .ok options)
    (h' : defaults.merge (supplied.insert key v') = .ok options') :
    options.SameApart key options' where
  keys := by rw [Defaults.keys_of_merge h, Defaults.keys_of_merge h']
  value other hne := by
    rw [Defaults.value_of_merge h, Defaults.value_of_merge h', OrderedMap.get?_insert,
      OrderedMap.get?_insert, if_neg hne.symm, if_neg hne.symm]

/-- Two values that the caller can give are the same to a call when every plan makes the
same of them. -/
theorem call_insert_congr
    (h : ∀ {options options' : OptionSet}, options.SameApart key options' →
      options.value key = v → options'.value key = v' → op.plan options = op.plan options') :
    op.call context (supplied.insert key v) = op.call context (supplied.insert key v') := by
  have hundeclared : (op.defaults context (supplied.insert key v')).undeclared
        (supplied.insert key v) =
      (op.defaults context (supplied.insert key v')).undeclared (supplied.insert key v') := by
    rw [Defaults.undeclared, Defaults.undeclared, OrderedMap.keys_insert, OrderedMap.keys_insert]
  have hrequest : op.request context (supplied.insert key v) =
      op.request context (supplied.insert key v') := by
    rw [request, request, defaults_insert_congr]
    cases hmerge : (op.defaults context (supplied.insert key v')).merge
        (supplied.insert key v) with
    | error e =>
      -- What is refused are names, and the names are the same.
      rw [Defaults.merge_eq_error_iff, hundeclared, ← Defaults.merge_eq_error_iff] at hmerge
      rw [hmerge]
    | ok options =>
      have hnone := (Defaults.merge_eq_ok_iff.mp hmerge).1
      rw [hundeclared] at hnone
      have hmerge' := Defaults.merge_eq_ok_iff.mpr ⟨hnone, rfl⟩
      rw [hmerge']
      exact h (sameApart_of_merge hmerge hmerge') (value_of_merge_insert hmerge)
        (value_of_merge_insert hmerge')
  rw [call, call, hrequest]

end Operation

end

end EntitlementClient
