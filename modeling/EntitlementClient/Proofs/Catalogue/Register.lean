import EntitlementClient.Proofs.Catalogue.Made
import EntitlementClient.Proofs.Operation.Call
import EntitlementClient.Proofs.Query

/-!
# `EntitlementClient.Proofs.Catalogue.Register`: what the registration of a consumer sends

A registration takes eleven options. `RegisterOptions` has one field for each, with the
default where the caller named none (`RegisterOptions.of`), and says what becomes of them:
the members of the body (`RegisterOptions.members`), the pairs of the query
(`RegisterOptions.pairs`) and the path.

`Consumers.register_sends` shows that every call with declared options sends just that.
The environment is the only option that can keep a call from sending, and only when it is
a list or an object. All other options may be anything: null, a scalar, a list or an
object.
-/

set_option autoImplicit false

namespace EntitlementClient

namespace Consumers

open Operation

/-! ### The options of a registration -/

/-- The options of a registration. -/
structure RegisterOptions where
  /-- What the consumer is called. -/
  name : Json
  /-- The label of its type. -/
  type : Json
  /-- Its uuid. -/
  uuid : Json
  /-- What it says about itself. -/
  facts : Json
  /-- The user who registers it. -/
  username : Json
  /-- The owner to which it will belong. -/
  owner : Json
  /-- The activation keys. -/
  activationKeys : Json
  /-- The products that are installed on it. -/
  installedProducts : Json
  /-- The environment that it joins. -/
  environment : Json
  /-- What it can do. -/
  capabilities : Json
  /-- The hypervisor that it runs. -/
  hypervisorId : Json

namespace RegisterOptions

/-- The options of the caller, with the default where there is none. -/
def of (context : Context) (supplied : OptionSet) : RegisterOptions where
  name := (supplied.get? "name").getD .null
  type := (supplied.get? "type").getD (.string "system")
  uuid := (supplied.get? "uuid").getD (uuidValue context.uuid)
  facts := (supplied.get? "facts").getD (.object [])
  username := (supplied.get? "username").getD .null
  owner := (supplied.get? "owner").getD .null
  activationKeys := (supplied.get? "activation_keys").getD (.array [])
  installedProducts := (supplied.get? "installed_products").getD (.array [])
  environment := (supplied.get? "environment").getD .null
  capabilities := (supplied.get? "capabilities").getD (.array [])
  hypervisorId := (supplied.get? "hypervisor_id").getD .null

/-- The options that merged options hold. -/
def read (options : OptionSet) : RegisterOptions where
  name := options.value "name"
  type := options.value "type"
  uuid := options.value "uuid"
  facts := options.value "facts"
  username := options.value "username"
  owner := options.value "owner"
  activationKeys := options.value "activation_keys"
  installedProducts := options.value "installed_products"
  environment := options.value "environment"
  capabilities := options.value "capabilities"
  hypervisorId := options.value "hypervisor_id"

/-- Merged options hold what the caller named, and else the defaults. So what the request is made
of can be said of the caller's options. -/
theorem read_of_merge {context : Context} {supplied merged : OptionSet}
    (h : (register.defaults context supplied).merge supplied = .ok merged) :
    read merged = of context supplied := by
  have hvalue : ∀ parameter ∈ register.parameters, merged.value parameter.1 =
      (supplied.get? parameter.1).getD (parameter.2.evaluate context supplied) :=
    fun _ => value_of_merge (by decide) h
  simp only [register, uuidParameter, List.forall_mem_cons] at hvalue
  obtain ⟨hname, htype, huuid, hfacts, husername, howner, hkeys, hproducts, henvironment,
    hcapabilities, hhypervisor, -⟩ := hvalue
  rw [read, hname, htype, huuid, hfacts, husername, howner, hkeys, hproducts, henvironment,
    hcapabilities, hhypervisor]
  rfl

/-! ### What becomes of the options -/

/-- A member, unless its value is null. -/
def unlessNull (name : String) (v : Json) : List (String × Json) :=
  if v = .null then [] else [(name, v)]

/-- An object as it is, any other value as the only member of an object. -/
def wrapped (field : String) (v : Json) : Json :=
  if v.isObject = true then v else .object [(field, v)]

/-- The id of an object, null if it has none. Any other value is an id. -/
def ownId (v : Json) : Json := if v.isObject = true then (v.member? "id").getD .null else v

/-- The members of the body, in order. -/
def members (r : RegisterOptions) : List (String × Json) :=
  [("type", .object [("label", r.type)])] ++
    unlessNull "name" r.name ++ unlessNull "facts" r.facts ++ unlessNull "uuid" r.uuid ++
    (if r.hypervisorId = .null then []
      else [("hypervisorId", wrapped "hypervisorId" r.hypervisorId)]) ++
    (if r.capabilities.asList = [] then []
      else [("capabilities", .array (r.capabilities.asList.map fun x => .object [("name", x)]))]) ++
    [("installedProducts",
      .array (r.installedProducts.asList.map fun x => .object [("id", ownId x)]))]

/-- The texts of the activation keys that are not null. -/
def keyTexts (r : RegisterOptions) : List String :=
  (r.activationKeys.asList.filter fun key => !key.isNull).map Json.sentText

/-- The pairs of the query, in order. -/
def pairs (r : RegisterOptions) : List (String × String) :=
  r.username.pairs "username" ++ r.owner.pairs "owner" ++
    if r.keyTexts = [] then [] else [("activation_keys", String.intercalate "," r.keyTexts)]

/-- The members that are not null, of a list of one. -/
theorem filter_singleton (name : String) (v : Json) :
    [(name, v)].filter (fun member => !member.2.isNull) = unlessNull name v := by
  by_cases hnull : v = .null
  · simp [unlessNull, hnull, Json.isNull]
  · have hfalse : v.isNull = false := Bool.eq_false_iff.mpr (mt Json.isNull_iff.mp hnull)
    simp [unlessNull, hnull, hfalse]

/-- A reference is null when the value is, and then it is no member. Otherwise it is the wrapped
value. -/
theorem unlessNull_reference (name field : String) (v : Json) :
    unlessNull name (v.reference field) =
      if v = .null then [] else [(name, wrapped field v)] := by
  cases v <;> simp [unlessNull, Json.reference, wrapped, Json.isObject]

/-- The references to a value are one object for each element of its list. Each has the id
of its element as its only member. -/
theorem idReferences_eq (v : Json) :
    v.idReferences = .array (v.asList.map fun x => .object [("id", ownId x)]) := by
  have hitem : ∀ x : Json, x.idReference = .object [("id", ownId x)] := by
    intro x
    cases x <;> rfl
  rw [Json.idReferences, funext hitem]

/-- A list of at least one element travels in one pair, and cutting its value at the
commas gives back the texts if none of them holds a comma. -/
theorem splitOn_keyTexts {r : RegisterOptions} (hsome : r.keyTexts ≠ [])
    (hcomma : ∀ text ∈ r.keyTexts, ',' ∉ text.toList) :
    (String.intercalate "," r.keyTexts).toList.splitOn ',' = r.keyTexts.map String.toList := by
  rw [String.toList_intercalate]
  refine List.splitOn_intercalate ',' ?_ (by simpa using hsome)
  intro text htext
  obtain ⟨key, hkey, rfl⟩ := List.mem_map.mp htext
  exact hcomma key hkey

end RegisterOptions

variable {context : Context} {supplied merged : OptionSet} {request : Request}

/-! ### Path, query and body -/

/-- Without an environment a consumer is registered at `/consumers`. -/
theorem renderPath_register_of_null (hnull : merged.value "environment" = .null) :
    renderPath merged register.path = .ok "/consumers" := by
  have hskip : merged.isNull "environment" = true := by rw [OptionSet.isNull, hnull]; rfl
  simp only [register, renderPath, renderParts, PathPart.render, hskip, if_true]
  rfl

/-- With an environment it is registered below that environment. -/
theorem renderPath_register_of_segment {segment : String}
    (hsegment : OptionSet.segmentText? (merged.value "environment") = some segment) :
    renderPath merged register.path = .ok ("/environments/" ++ segment ++ "/consumers") := by
  have hset : merged.isNull "environment" = false := OptionSet.isNull_of_segmentText? hsegment
  simp only [register, renderPath, renderParts, PathPart.render, hset, Bool.false_eq_true, if_false,
    OptionSet.segment_eq_ok_iff.mpr hsegment]
  show Except.ok (String.join ["/environments/" ++ segment, "/consumers"]) = _
  rw [String.join_cons, String.join_cons]
  rfl

/-- The query holds the pairs of the user, of the owner and of the activation keys, in this order.
The keys are one text with commas, and one that is null is left out of it. -/
theorem renderQuery_register {query : Query}
    (h : renderQuery merged .empty register.query = .ok query) :
    query.pairs = (RegisterOptions.read merged).pairs := by
  simp only [register, renderQuery, QueryPart.addTo, bind_eq_ok_iff] at h
  obtain ⟨first, hfirst, second, hsecond, hquery⟩ := h
  cases hquery
  cases hsecond
  have hpairs : first.pairs =
      (merged.value "username").pairs "username" ++ (merged.value "owner").pairs "owner" := by
    have hkeys : ["username", "owner"].eraseDups = ["username", "owner"] := by decide
    rw [QueryPart.pairs_addTo_options hfirst, hkeys]
    simp [Query.empty]
  rw [Json.filterMap_scalarText?]
  show (if (RegisterOptions.read merged).keyTexts.isEmpty = true then _ else _ : Query).pairs = _
  by_cases hnone : (RegisterOptions.read merged).keyTexts = []
  · rw [if_pos (List.isEmpty_iff.mpr hnone), RegisterOptions.pairs, if_pos hnone, List.append_nil]
    exact hpairs
  · rw [if_neg (mt List.isEmpty_iff.mp hnone), RegisterOptions.pairs, if_neg hnone]
    exact congrArg (· ++ _) hpairs

/-- The parts of the body of a registration. -/
def registerParts : List BodyPart :=
  [.member "type" "type" (.memberOf "label"), .fields ["name", "facts", "uuid"],
    .member "hypervisorId" "hypervisor_id" (.reference "hypervisorId"),
    .memberIfAny "capabilities" "capabilities" (.named "name"),
    .member "installedProducts" "installed_products" .idReferences]

/-- The members that the parts set, before those that are null are dropped. They are named here
once, so that `body_register` has only to drop the nulls. -/
theorem flatMap_members_register (h : register.Makes context supplied merged request) :
    registerParts.flatMap (BodyPart.members merged) =
      [("type", .object [("label", merged.value "type")])] ++ [("name", merged.value "name")] ++
        [("facts", merged.value "facts")] ++ [("uuid", merged.value "uuid")] ++
        [("hypervisorId", (merged.value "hypervisor_id").reference "hypervisorId")] ++
        (if (merged.value "capabilities").asList.isEmpty = true then []
          else [("capabilities", (merged.value "capabilities").flattenNamed "name")]) ++
        [("installedProducts", (merged.value "installed_products").idReferences)] := by
  have hfields : merged.wireFields ["name", "facts", "uuid"] =
      [("name", merged.value "name"), ("facts", merged.value "facts"),
        ("uuid", merged.value "uuid")] := h.wireFields (by decide)
  simp only [registerParts, List.flatMap_cons, List.flatMap_nil, BodyPart.members, hfields]
  rfl

/-- The body holds the members of the options, in order, without those that are null. -/
theorem body_register (h : register.Makes context supplied merged request) :
    request.body = some (.object (RegisterOptions.read merged).members) := by
  have hmembers := flatMap_members_register h
  have hnodup : ((registerParts.flatMap (BodyPart.members merged)).map Prod.fst).Nodup := by
    rw [hmembers]
    by_cases hnone : (merged.value "capabilities").asList.isEmpty = true
    · simp [hnone]
    · simp [hnone]
  have hplan : register.body = some (.compacted registerParts) := rfl
  rw [h.body_compacted hplan, Body.entries_compact, entries_assemble hnodup, hmembers]
  simp only [List.filter_append, RegisterOptions.filter_singleton,
    RegisterOptions.unlessNull_reference, RegisterOptions.idReferences_eq]
  by_cases hnone : (merged.value "capabilities").asList = []
  · simp only [RegisterOptions.members, RegisterOptions.read, hnone, List.isEmpty_nil, if_true]
    rfl
  · have hsome : (merged.value "capabilities").asList.isEmpty = false := by simpa using hnone
    simp only [RegisterOptions.members, RegisterOptions.read, hnone, hsome, Bool.false_eq_true,
      if_false]
    rfl

/-! ### The call -/

/-- The request is the one that registers a consumer with the options. -/
structure RegisterOptions.SentAs (r : RegisterOptions) (request : Request) : Prop where
  /-- It posts. -/
  method : request.method = .post
  /-- Without an environment it goes to the consumers. -/
  path : r.environment = .null → request.path = "/consumers"
  /-- With an environment it goes to the consumers of the environment. -/
  environment : r.environment ≠ .null → ∃ segment word,
    OptionSet.segmentText? r.environment = some segment ∧ r.environment.wording? = some word ∧
      Text.Spells segment.toList word.toList ∧
      request.path = "/environments/" ++ segment ++ "/consumers"
  /-- The members of the body stand in this order. -/
  body : request.body = some (.object r.members)
  /-- The pairs of the query stand in this order. -/
  query : request.query.pairs = r.pairs
  /-- The activation keys can be told apart where none of them holds a comma. -/
  keys : r.keyTexts ≠ [] → (∀ text ∈ r.keyTexts, ',' ∉ text.toList) →
    (String.intercalate "," r.keyTexts).toList.splitOn ',' = r.keyTexts.map String.toList
  /-- It asks for JSON. -/
  accept : request.accept = none

/-- The request of a registration is the one that its options come to: its path, its query and its
body. -/
theorem sentAs_of_makes (h : register.Makes context supplied merged request)
    (henvironment : merged.value "environment" = .null ∨ (merged.value "environment").IsScalar) :
    (RegisterOptions.read merged).SentAs request := by
  obtain ⟨-, path, query, hpath, hquery, hrequest⟩ := h.plan_cases
  have hpath' : request.path = path := by rw [hrequest]
  exact {
    method := by rw [hrequest]; rfl
    path := by
      intro hnull
      rw [renderPath_register_of_null hnull] at hpath
      cases hpath
      exact hpath'
    environment := by
      intro hset
      -- An environment that is not null is a scalar, and then the path has its segment.
      have hscalar := henvironment.resolve_left hset
      obtain ⟨segment, word, hsegment, hword, hspells⟩ := hscalar.segment
      rw [renderPath_register_of_segment hsegment] at hpath
      cases hpath
      exact ⟨segment, word, hsegment, hword, hspells, hpath'⟩
    body := body_register h
    query := by
      rw [hrequest]
      exact renderQuery_register hquery
    keys := RegisterOptions.splitOn_keyTexts
    accept := by rw [hrequest]; rfl }

/-- Take any options that a registration declares, with an environment that is null or a
scalar. The call sends one request and returns what the server answers. The request is the
one that registers a consumer with these options, and with the defaults of those that are
not named. -/
theorem register_sends (context : Context) (supplied : OptionSet)
    (hdeclared : ∀ key ∈ supplied.keys, key ∈ register.declared)
    (henvironment : supplied.value "environment" = .null ∨
      (supplied.value "environment").IsScalar)
    {σ : Type} (serve : Call.Server σ) (s : σ) :
    ∃ request, (register.call context supplied).run serve s =
        ⟨[request], (serve s request).1, (serve s request).2⟩ ∧
      (RegisterOptions.of context supplied).SentAs request := by
  have hentry : (Entry.single register).Declared supplied := hdeclared
  obtain ⟨merged, hmerge⟩ := Entry.merge_of_declared context hentry
  have hread := RegisterOptions.read_of_merge hmerge
  have hvalue : merged.value "environment" = supplied.value "environment" := by
    have hfield := congrArg RegisterOptions.environment hread
    exact hfield
  rw [← hvalue] at henvironment
  -- Every part of the path can be rendered, so there is a request.
  have hreads : register.ReadsDeclared := by decide +kernel
  obtain ⟨request, hrequest⟩ : ∃ request, register.request context supplied = .ok request := by
    refine hreads.request_ok_iff.mpr ⟨merged, hmerge, ?_, ?_⟩
    · exact fun requirement hrequirement => absurd hrequirement List.not_mem_nil
    · refine renderPath_ok_iff.mp ?_
      rcases henvironment with hnull | hscalar
      · exact ⟨_, renderPath_register_of_null hnull⟩
      · obtain ⟨segment, -, hsegment, -⟩ := hscalar.segment
        exact ⟨_, renderPath_register_of_segment hsegment⟩
  have hmakes : register.Makes context supplied merged request :=
    ⟨hmerge, by rwa [request_eq_plan hmerge] at hrequest⟩
  refine ⟨request, by rw [run_call, hrequest], ?_⟩
  rw [← hread]
  exact sentAs_of_makes hmakes henvironment

/-- A consumer is registered in an environment, with three activation keys of which one is
null. -/
theorem register_sends_in_environment :
    let context : Context := ⟨some "sticky", ⟨2026, 1, 31⟩⟩
    let supplied : OptionSet := .ofList
      [("name", .string "box2"), ("environment", .string "env 1"),
        ("activation_keys", .array [.string "ak1", .null, .ofNat 2]), ("facts", .null),
        ("installed_products", .array [.object [("id", .ofNat 7)], .string "37060"])]
    let request : Request := ⟨.post, "/environments/env%201/consumers",
      ⟨[("activation_keys", "ak1,2")]⟩,
      some (.object [("type", .object [("label", .string "system")]), ("name", .string "box2"),
        ("uuid", .string "sticky"),
        ("installedProducts",
          .array [.object [("id", .ofNat 7)], .object [("id", .string "37060")]])]), none⟩
    (∀ key ∈ supplied.keys, key ∈ register.declared) ∧
      (supplied.value "environment" = .null ∨ (supplied.value "environment").IsScalar) ∧
      ((register.call context supplied).run replay []).sent = [request] ∧
      (RegisterOptions.of context supplied).SentAs request := by
  intro context supplied request
  have hdeclared : ∀ key ∈ supplied.keys, key ∈ register.declared := by decide
  have hscalar : supplied.value "environment" = .null ∨
      (supplied.value "environment").IsScalar := Or.inr trivial
  obtain ⟨request', hrun, hsent⟩ := register_sends context supplied hdeclared hscalar replay []
  have hrequest : ((register.call context supplied).run replay []).sent = [request] := by
    decide +kernel
  have heq : request' = request := by
    rw [hrun] at hrequest
    exact List.singleton_inj.mp hrequest
  rw [heq] at hsent
  exact ⟨hdeclared, hscalar, hrequest, hsent⟩

end Consumers

end EntitlementClient
