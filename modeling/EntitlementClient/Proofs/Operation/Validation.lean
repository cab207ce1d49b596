import EntitlementClient.Operation.Basic
import EntitlementClient.Proofs.Error
import EntitlementClient.Proofs.Options.Merge
import EntitlementClient.Proofs.Outcome
import EntitlementClient.Proofs.Query

/-!
# `EntitlementClient.Proofs.Operation.Validation`: how making a request can fail

`Operation.reads` lists every option that the description of an operation reads: in its
defaults, requirements, path, query and body. An operation that reads declared options
only (`Operation.ReadsDeclared`) never asks the merged options for one that they do not
have.

The request of such an operation can fail in two ways
(`Operation.ReadsDeclared.request_error`). When options were supplied that are not
declared, it fails with all of them, before anything else is looked at. When there are
none, the failure is about the value of a required option or of one in the path
(`ClientError.RejectsValues`). So the error about undeclared options appears exactly when
there are some (`request_eq_unknownParameter_iff`). Otherwise there is a request exactly
when every requirement is met and every part of the path can be rendered
(`request_ok_iff`): making the query never fails.
-/

set_option autoImplicit false

namespace EntitlementClient

/-! ### What a description reads -/

/-- The supplied options that a default looks at. -/
def Default.reads : Default → List String
  | .unlessSupplied key otherwise => key :: otherwise.reads
  | _ => []

/-- The options that a requirement names. -/
def Requirement.reads : Requirement → List String
  | .present keys => keys
  | .allPresent => []
  | .anObject key => [key]
  | .nonEmptyList key => [key]

/-- The options in a part of a path. -/
def PathPart.reads : PathPart → List String
  | .text _ => []
  | .option key => [key]
  | .whenSet _ key => [key]

/-- The options in a part of a query. -/
def QueryPart.reads : QueryPart → List String
  | .options keys => keys
  | .renamed _ key => [key]
  | .joined _ key => [key]
  | .attributes _ key => [key]

/-- The options that a part of an object names. -/
def BodyPart.reads : BodyPart → List String
  | .fields keys => keys
  | .allFields => []
  | .member _ key _ => [key]
  | .memberIfAny _ key _ => [key]
  | .typedAttributes _ key typeKey => [key, typeKey]

/-- The options that a body names. -/
def BodyPlan.reads : BodyPlan → List String
  | .compacted parts => parts.flatMap BodyPart.reads
  | .verbatim parts => parts.flatMap BodyPart.reads
  | .bare key _ => [key]

namespace Operation

/-- The declared parameters, in order. -/
def declared (op : Operation) : List String := op.parameters.map Prod.fst

/-- All options that the description names, wherever it does. -/
def reads (op : Operation) : List String :=
  op.parameters.flatMap (fun parameter => parameter.2.reads)
    ++ op.requirements.flatMap Requirement.reads ++ op.path.flatMap PathPart.reads
    ++ op.query.flatMap QueryPart.reads ++ op.body.toList.flatMap BodyPlan.reads

/-- The operation reads no option that it does not declare. -/
def ReadsDeclared (op : Operation) : Prop := ∀ key ∈ op.reads, key ∈ op.declared

instance (op : Operation) : Decidable op.ReadsDeclared :=
  inferInstanceAs (Decidable (∀ key ∈ op.reads, key ∈ op.declared))

/-- The supplied options that the operation does not declare, in the order supplied. -/
def undeclared (op : Operation) (supplied : OptionSet) : List String :=
  supplied.keys.filter fun key => key ∉ op.declared

end Operation

/-! ### Requirements -/

/-- A test of options succeeds when every one of them passes. A test that names no options is one
of all options. -/
theorem OptionSet.requireThat_eq_ok_iff {options : OptionSet} {keys : List String}
    {test : Json → Bool} :
    options.requireThat keys test = .ok () ↔
      ∀ key ∈ (if keys.isEmpty then options.keys else keys), test (options.value key) = true := by
  have hfailing : options.failing keys test = [] ↔
      ∀ key ∈ (if keys.isEmpty then options.keys else keys), test (options.value key) = true := by
    simp [failing, List.filter_eq_nil_iff]
  rw [← hfailing]
  unfold requireThat
  simp only [List.isEmpty_iff]
  split
  · rename_i hnone
    exact ⟨fun _ => hnone, fun _ => rfl⟩
  · rename_i hsome
    exact ⟨fun h => (nomatch h), fun h => absurd h hsome⟩

/-- An option that is not null has a value. -/
theorem OptionSet.require_of_ne_null {options : OptionSet} {key : String}
    (h : options.value key ≠ .null) : options.require [key] = .ok () := by
  refine requireThat_eq_ok_iff.mpr fun other hother => ?_
  obtain rfl := List.mem_singleton.mp hother
  simpa [← Json.isNull_iff] using h

/-- A test of options fails with those that do not pass. This is an error about their values. -/
theorem OptionSet.requireThat_error {options : OptionSet} {keys : List String}
    {test : Json → Bool} {e : ClientError} (h : options.requireThat keys test = .error e) :
    e.RejectsValues := by
  unfold requireThat at h
  dsimp only at h
  split at h
  · cases h
  · cases h
    exact trivial

/-- A requirement fails with options that have no value, or not the required one. -/
theorem Requirement.check_error {options : OptionSet} {requirement : Requirement} {e : ClientError}
    (h : requirement.check options = .error e) : e.RejectsValues := by
  -- Every requirement is one test of some keys.
  cases requirement with
  | present keys => exact OptionSet.requireThat_error h
  | allPresent => exact OptionSet.requireThat_error h
  | anObject key => exact OptionSet.requireThat_error h
  | nonEmptyList key => exact OptionSet.requireThat_error h

/-- Of requirements in a row, the first that fails decides the error. It is one about values,
whichever requirement that is. -/
theorem Operation.checkAll_error {options : OptionSet} {requirements : List Requirement}
    {e : ClientError} (h : checkAll options requirements = .error e) : e.RejectsValues := by
  induction requirements with
  | nil => cases h
  | cons requirement rest ih =>
    rw [checkAll, bind_eq_error_iff] at h
    rcases h with h | ⟨-, -, h⟩
    · exact Requirement.check_error h
    · exact ih h

/-- Requirements in a row succeed when each of them does. -/
theorem Operation.checkAll_eq_ok_iff {options : OptionSet} {requirements : List Requirement} :
    checkAll options requirements = .ok () ↔
      ∀ requirement ∈ requirements, requirement.check options = .ok () := by
  induction requirements with
  | nil => simp [checkAll]
  | cons requirement rest ih =>
    rw [checkAll, bind_eq_ok_iff, List.forall_mem_cons, ih]
    constructor
    · rintro ⟨⟨⟩, hfirst, hrest⟩
      exact ⟨hfirst, hrest⟩
    · rintro ⟨hfirst, hrest⟩
      exact ⟨(), hfirst, hrest⟩

/-! ### Paths -/

/-- An option is no path segment when it has no value, or a list or an object. -/
theorem OptionSet.segment_error {options : OptionSet} {key : String} {e : ClientError}
    (h : options.segment key = .error e) : e.RejectsValues := by
  unfold segment at h
  split at h
  · cases h
    exact trivial
  · split at h
    · cases h
    · cases h
      exact trivial

/-- A part of a path fails when its option is no segment. -/
theorem PathPart.render_error {options : OptionSet} {part : PathPart} {e : ClientError}
    (h : part.render options = .error e) : e.RejectsValues := by
  cases part with
  | text words => cases h
  | option key => exact OptionSet.segment_error h
  | whenSet lead key =>
    rw [render] at h
    split at h
    · cases h
    · cases hsegment : options.segment key with
      | ok text => simp [hsegment, Except.map] at h
      | error e' =>
        rw [hsegment] at h
        cases h
        exact OptionSet.segment_error hsegment

/-- Of the parts of a path, the first that fails decides the error. -/
theorem renderParts_error {options : OptionSet} {parts : List PathPart} {e : ClientError}
    (h : renderParts options parts = .error e) : e.RejectsValues := by
  induction parts with
  | nil => cases h
  | cons part rest ih =>
    rw [renderParts, bind_eq_error_iff] at h
    rcases h with h | ⟨text, -, h⟩
    · exact PathPart.render_error h
    · rw [bind_eq_error_iff] at h
      rcases h with h | ⟨texts, -, h⟩
      · exact ih h
      · cases h

/-- A path fails as its parts do. -/
theorem renderPath_error {options : OptionSet} {parts : List PathPart} {e : ClientError}
    (h : renderPath options parts = .error e) : e.RejectsValues := by
  unfold renderPath at h
  cases hparts : renderParts options parts with
  | ok texts => simp [hparts, Except.map] at h
  | error e' =>
    rw [hparts] at h
    cases h
    exact renderParts_error hparts

/-- A path is rendered exactly when each of its parts is. -/
theorem renderPath_ok_iff {options : OptionSet} {parts : List PathPart} :
    (∃ path, renderPath options parts = .ok path) ↔
      ∀ part ∈ parts, ∃ text, part.render options = .ok text := by
  have hparts : (∃ texts, renderParts options parts = .ok texts) ↔
      ∀ part ∈ parts, ∃ text, part.render options = .ok text := by
    induction parts with
    | nil => simp [renderParts]
    | cons part rest ih =>
      rw [List.forall_mem_cons, ← ih]
      constructor
      · rintro ⟨texts, h⟩
        rw [renderParts, bind_eq_ok_iff] at h
        obtain ⟨text, hfirst, h⟩ := h
        obtain ⟨rest, hrest, -⟩ := bind_eq_ok_iff.mp h
        exact ⟨⟨text, hfirst⟩, rest, hrest⟩
      · rintro ⟨⟨text, hfirst⟩, rest, hrest⟩
        refine ⟨text :: rest, ?_⟩
        rw [renderParts, hfirst, hrest]
        rfl
  -- Joining the texts cannot fail.
  rw [← hparts, renderPath]
  cases renderParts options parts with
  | ok texts => exact ⟨fun _ => ⟨texts, rfl⟩, fun _ => ⟨_, rfl⟩⟩
  | error e => exact ⟨fun ⟨_, h⟩ => (nomatch h), fun ⟨_, h⟩ => (nomatch h)⟩

/-! ### Queries -/

/-- Options that are all there can be selected. -/
theorem OptionSet.select_ok {options : OptionSet} {keys : List String}
    (h : ∀ key ∈ keys, key ∈ options.keys) :
    options.select keys = .ok (.ofList (keys.map fun key => (key, options.value key))) := by
  have hnone : (keys.filter fun key => key ∉ options.keys) = [] := by
    rw [List.filter_eq_nil_iff]
    intro key hkey
    simpa using h key hkey
  rw [select_eq, if_pos hnone]

/-- A part of a query is added when the options that it reads are there. -/
theorem QueryPart.addTo_ok {options : OptionSet} {part : QueryPart}
    (h : ∀ key ∈ part.reads, key ∈ options.keys) (q : Query) :
    ∃ q', part.addTo options q = .ok q' := by
  cases part with
  | options keys =>
    have hselected := OptionSet.select_ok h
    exact ⟨_, congrArg (Except.map q.pushOptions) hselected⟩
  | renamed name key => exact ⟨_, rfl⟩
  | joined name key => exact ⟨_, rfl⟩
  | attributes name key => exact ⟨_, rfl⟩

/-- A query is made when the options that its parts read are there. -/
theorem renderQuery_ok {options : OptionSet} {parts : List QueryPart}
    (h : ∀ part ∈ parts, ∀ key ∈ part.reads, key ∈ options.keys) (q : Query) :
    ∃ q', renderQuery options q parts = .ok q' := by
  induction parts generalizing q with
  | nil => exact ⟨q, rfl⟩
  | cons part rest ih =>
    obtain ⟨q', hadded⟩ := QueryPart.addTo_ok (h part (List.mem_cons_self ..)) q
    obtain ⟨q'', hrest⟩ := ih (fun part hpart => h part (List.mem_cons_of_mem _ hpart)) q'
    refine ⟨q'', ?_⟩
    rw [renderQuery, hadded]
    exact hrest

namespace Operation

variable {op : Operation} {context : Context} {supplied options : OptionSet}

/-! ### Requests -/

/-- The defaults of a call have the declared parameters as keys. -/
@[simp] theorem mem_keys_defaults {key : String} :
    key ∈ (op.defaults context supplied).keys ↔ key ∈ op.declared := by
  simp [defaults, declared]

/-- Merging refuses the options that the operation does not declare. The defaults name exactly
those that it does. -/
theorem undeclared_defaults (op : Operation) (context : Context) (supplied : OptionSet) :
    (op.defaults context supplied).undeclared supplied = op.undeclared supplied := by
  unfold Defaults.undeclared undeclared
  refine List.filter_congr fun key _ => ?_
  simp [OrderedMap.contains]

/-- The options in the query are among those that the operation reads. -/
theorem mem_reads_of_query {part : QueryPart} {key : String} (hpart : part ∈ op.query)
    (hkey : key ∈ part.reads) : key ∈ op.reads := by
  have hquery : key ∈ op.query.flatMap QueryPart.reads := List.mem_flatMap.mpr ⟨part, hpart, hkey⟩
  simp only [reads, List.mem_append]
  exact Or.inl (Or.inr hquery)

/-- Once the options are merged, the query can be made: every option in it is declared, so it is
there. -/
theorem ReadsDeclared.renderQuery_ok (hreads : op.ReadsDeclared)
    (hmerge : (op.defaults context supplied).merge supplied = .ok options) :
    ∃ q, renderQuery options .empty op.query = .ok q := by
  -- The merged options have every declared key, and the query reads no other.
  refine EntitlementClient.renderQuery_ok ?_ .empty
  intro part hpart key hkey
  rw [Defaults.keys_of_merge hmerge, mem_keys_defaults]
  exact hreads key (mem_reads_of_query hpart hkey)

/-- Once the options are merged, only their values can be refused. No option that is read is
absent. -/
theorem ReadsDeclared.plan_error (hreads : op.ReadsDeclared)
    (hmerge : (op.defaults context supplied).merge supplied = .ok options) {e : ClientError}
    (h : op.plan options = .error e) : e.RejectsValues := by
  obtain ⟨q, hq⟩ := hreads.renderQuery_ok hmerge
  simp only [plan, bind_eq_error_iff] at h
  rcases h with h | ⟨-, -, h | ⟨path, -, h | ⟨q', -, h⟩⟩⟩
  · exact checkAll_error h
  · exact renderPath_error h
  · rw [hq] at h
    cases h
  · cases h

/-- The options of a call are ones with which its request can be made: they are declared,
meet every requirement, and fit into every part of the path. -/
def Sendable (op : Operation) (context : Context) (supplied : OptionSet) : Prop :=
  ∃ options, (op.defaults context supplied).merge supplied = .ok options ∧
    (∀ requirement ∈ op.requirements, requirement.check options = .ok ()) ∧
    ∀ part ∈ op.path, ∃ text, part.render options = .ok text

/-- There is a request exactly when the options are ones with which it can be made. `Sendable`
says so without the steps of the computation. -/
theorem ReadsDeclared.request_ok_iff (hreads : op.ReadsDeclared) :
    (∃ request, op.request context supplied = .ok request) ↔ op.Sendable context supplied := by
  constructor
  · rintro ⟨request, h⟩
    rw [Operation.request, bind_eq_ok_iff] at h
    obtain ⟨options, hmerge, h⟩ := h
    simp only [plan, bind_eq_ok_iff] at h
    obtain ⟨⟨⟩, hcheck, path, hpath, -⟩ := h
    exact ⟨options, hmerge, checkAll_eq_ok_iff.mp hcheck, renderPath_ok_iff.mp ⟨path, hpath⟩⟩
  · rintro ⟨options, hmerge, hcheck, hparts⟩
    obtain ⟨path, hpath⟩ := renderPath_ok_iff.mpr hparts
    obtain ⟨q, hq⟩ := hreads.renderQuery_ok hmerge
    refine ⟨{ method := op.method
              path := path
              query := q
              body := op.body.map (BodyPlan.render options)
              accept := op.accept }, ?_⟩
    rw [Operation.request, hmerge]
    show op.plan options = _
    rw [plan, checkAll_eq_ok_iff.mpr hcheck, hpath, hq]
    rfl

/-- A request fails with the undeclared options if there are any, and else with an error about
values. The undeclared options are reported first. -/
theorem ReadsDeclared.request_error (hreads : op.ReadsDeclared) {e : ClientError}
    (h : op.request context supplied = .error e) :
    (op.undeclared supplied ≠ [] ∧ e = .unknownParameter (op.undeclared supplied)) ∨
      (op.undeclared supplied = [] ∧ e.RejectsValues) := by
  rw [request, bind_eq_error_iff] at h
  rcases h with h | ⟨options, hmerge, h⟩
  · rw [Defaults.merge_eq_error_iff, undeclared_defaults] at h
    exact Or.inl h
  · refine Or.inr ⟨?_, hreads.plan_error hmerge h⟩
    rw [← undeclared_defaults op context supplied]
    exact (Defaults.merge_eq_ok_iff.mp hmerge).1

/-- Undeclared options come before anything else that is wrong. All of them are named. -/
theorem request_of_undeclared (h : op.undeclared supplied ≠ []) :
    op.request context supplied = .error (.unknownParameter (op.undeclared supplied)) := by
  have hmerge : (op.defaults context supplied).merge supplied =
      .error (.unknownParameter (op.undeclared supplied)) := by
    rw [Defaults.merge_eq_error_iff, undeclared_defaults]
    exact ⟨h, rfl⟩
  rw [request, hmerge]
  rfl

/-- The error about undeclared options appears exactly when there are some, and names them all. -/
theorem ReadsDeclared.request_eq_unknownParameter_iff (hreads : op.ReadsDeclared)
    (context : Context) (supplied : OptionSet) (keys : List String) :
    op.request context supplied = .error (.unknownParameter keys) ↔
      op.undeclared supplied ≠ [] ∧ keys = op.undeclared supplied := by
  constructor
  · intro h
    rcases hreads.request_error h with ⟨hsome, hkeys⟩ | ⟨-, hvalues⟩
    · cases hkeys
      exact ⟨hsome, rfl⟩
    · exact hvalues.elim
  · rintro ⟨hsome, rfl⟩
    exact request_of_undeclared hsome

/-- Every failure of a request is an error about options. So it is known before anything
is sent. -/
theorem ReadsDeclared.isLocal_of_request_error (hreads : op.ReadsDeclared) {e : ClientError}
    (h : op.request context supplied = .error e) : e.IsLocal := by
  rcases hreads.request_error h with ⟨-, rfl⟩ | ⟨-, hvalues⟩
  · exact trivial
  · exact hvalues.isLocal

end Operation

end EntitlementClient
