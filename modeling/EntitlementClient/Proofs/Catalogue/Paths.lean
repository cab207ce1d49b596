import EntitlementClient.Proofs.Catalogue.Entry
import EntitlementClient.Proofs.Operation.Path

/-!
# `EntitlementClient.Proofs.Catalogue.Paths`: the paths of the catalogue keep their form

Every template of every operation is well-formed (`Operation.wellFormed_all`): the options
in a path stand between slashes, each on a level of its own, also where two or three of
them follow each other and where one of them is left out.

`Entry.paths_spell_options` puts this together with what `Text.Spells` says of a segment.
Every request of every call, against any server, goes to the template of its operation
with a segment in each slot that spells the option (`SpellsPath`). The slash, the question
mark and the number sign of a path all come from the template. And what a call says with
the options in its path can be read off the path: two requests on one template that differ
in the wording of such an option go to different paths.

The wording does not tell the number 1 from the string "1", and these two do go to one
path. That is why the statement is about wordings and not about values.
-/

set_option autoImplicit false

namespace EntitlementClient

/-- The templates of the catalogue are well-formed, whichever options are left out. The catalogue
and the templates of each path are finite, so this is computed. -/
theorem Operation.wellFormed_all :
    ∀ entry ∈ Operation.all, ∀ symbols ∈ templates entry.2.path, WellFormed symbols := by
  decide +kernel

/-- The operation makes a request of the options of a caller, which merged with the
defaults are `merged`. -/
structure Operation.Makes (op : Operation) (context : Context) (supplied merged : OptionSet)
    (request : Request) : Prop where
  /-- The options are merged. -/
  merge : (op.defaults context supplied).merge supplied = .ok merged
  /-- The request is made of them. -/
  plan : op.plan merged = .ok request

/-- The path is the template, with a segment in each slot that spells the option. -/
structure SpellsPath (options : OptionSet) (symbols : List PathSymbol)
    (texts : String → List Char) (path : String) : Prop where
  /-- It is the template with its slots filled. -/
  path_eq : path.toList = fill texts symbols
  /-- The text of a slot is a segment that spells the wording of the option. -/
  spells : ∀ key, .slot key ∈ symbols →
    ∃ word, (options.value key).wording? = some word ∧ Text.Spells (texts key) word.toList
  /-- No option brings along a character that ends a segment, a path or a query. -/
  not_mem : ∀ key, .slot key ∈ symbols → ∀ c ∈ ['/', '?', '#'], c ∉ texts key

/-- No slot has a slash in it, so the slashes of a path are those of its template. -/
theorem SpellsPath.slash_not_mem {options : OptionSet} {symbols : List PathSymbol}
    {texts : String → List Char} {path : String} (h : SpellsPath options symbols texts path) :
    ∀ key, .slot key ∈ symbols → '/' ∉ texts key := by
  intro key hkey
  exact h.not_mem key hkey '/' (by decide)

variable {op : Operation} {context context' : Context}
  {supplied supplied' merged merged' : OptionSet} {request request' : Request}

namespace Operation

/-- A request is made of merged options: they are the defaults with what the caller supplied. -/
theorem exists_makes (h : op.request context supplied = .ok request) :
    ∃ merged, op.Makes context supplied merged request := by
  rw [Operation.request, bind_eq_ok_iff] at h
  obtain ⟨merged, hmerge, hplan⟩ := h
  exact ⟨merged, hmerge, hplan⟩

/-- All that it takes to make a request of merged options: the requirements are met, the path and
the query can be rendered, and the body is made of the same options. -/
theorem Makes.plan_cases (h : op.Makes context supplied merged request) :
    Operation.checkAll merged op.requirements = .ok () ∧
      ∃ path query, renderPath merged op.path = .ok path ∧
        renderQuery merged .empty op.query = .ok query ∧
        request = ⟨op.method, path, query, op.body.map (BodyPlan.render merged), op.accept⟩ := by
  have hplan := h.plan
  simp only [Operation.plan, bind_eq_ok_iff] at hplan
  obtain ⟨_, hchecked, path, hpath, query, hquery, hrequest⟩ := hplan
  cases hrequest
  exact ⟨hchecked, path, query, hpath, hquery, rfl⟩

/-- The path of a request is the template of its operation, with the segment of its option in each
slot. -/
theorem Makes.fills (h : op.Makes context supplied merged request) :
    Fills merged (template merged op.path) request.path.toList := by
  obtain ⟨-, path, query, hpath, -, rfl⟩ := h.plan_cases
  exact fills_of_renderPath hpath

/-- The path of a request spells the options in the slots of the template of its operation. -/
theorem Makes.spellsPath (h : op.Makes context supplied merged request) :
    SpellsPath merged (template merged op.path) merged.slotText request.path := by
  have hspells : ∀ key, .slot key ∈ template merged op.path →
      ∃ word, (merged.value key).wording? = some word ∧
        Text.Spells (merged.slotText key) word.toList := by
    intro key hkey
    obtain ⟨segment, hsegment⟩ := h.fills.segment key hkey
    obtain ⟨word, hword, hspells⟩ := OptionSet.spells_of_segmentText? hsegment
    refine ⟨word, hword, ?_⟩
    rw [OptionSet.slotText, hsegment]
    exact hspells
  refine ⟨h.fills.text_eq, hspells, fun key hkey c hc => ?_⟩
  obtain ⟨word, -, hword⟩ := hspells key hkey
  exact hword.segmentText.not_mem hc

/-- The template of an operation in the catalogue is well formed, whatever the options
are. The catalogue is finite, and `wellFormed_all` went through it. -/
theorem wellFormed_template {name : String} (hmem : (name, op) ∈ all) (options : OptionSet) :
    WellFormed (template options op.path) :=
  wellFormed_all _ hmem _ (template_mem options op.path)

/-- Two requests on one template that differ in what an option in the path says go to
different paths. -/
theorem Makes.path_ne {name : String} (hmem : (name, op) ∈ all)
    (h : op.Makes context supplied merged request)
    (h' : op.Makes context' supplied' merged' request')
    (htemplate : template merged op.path = template merged' op.path) {key : String}
    (hkey : .slot key ∈ template merged op.path)
    (hwording : (merged.value key).wording? ≠ (merged'.value key).wording?) :
    request.path ≠ request'.path := by
  intro hpath
  have hfirst := h.spellsPath
  have hsecond := h'.spellsPath
  rw [← htemplate] at hsecond
  have hfill : fill merged.slotText (template merged op.path) =
      fill merged'.slotText (template merged op.path) := by
    rw [← hfirst.path_eq, ← hsecond.path_eq, hpath]
  -- The slot is a level of its own on both paths, so it is filled alike.
  have htexts : merged.slotText key = merged'.slotText key :=
    (wellFormed_template hmem merged).fill_inj hfirst.slash_not_mem hsecond.slash_not_mem hfill hkey
  obtain ⟨word, hword, hspells⟩ := hfirst.spells key hkey
  obtain ⟨word', hword', hspells'⟩ := hsecond.spells key hkey
  rw [← htexts] at hspells'
  have heq : word = word' := String.toList_inj.mp (hspells.unique hspells')
  rw [hword, hword', heq] at hwording
  exact hwording rfl

end Operation

namespace Entry

/-- Take a call of the catalogue. Each request that it sends, whatever the server answers,
goes to one of the templates of the operation that makes it, with a segment in each slot
that spells the option. Two such requests of one operation on the same template that
differ in the wording of an option in the path, with any options and in any context, go to
different paths. -/
theorem paths_spell_options {name : String} {entry : Entry} (hlisted : Listed name entry) :
    (∀ (context : Context) (supplied : OptionSet) {σ : Type} (serve : Call.Server σ) (s : σ),
      ∀ request ∈ ((entry.call context supplied).run serve s).sent,
        ∃ op options merged texts, entry.Part supplied op options ∧
          op.Makes context options merged request ∧
          template merged op.path ∈ templates op.path ∧
          SpellsPath merged (template merged op.path) texts request.path) ∧
    ∀ (context context' : Context) (supplied supplied' : OptionSet) (op : Operation)
      (options options' merged merged' : OptionSet) (request request' : Request),
      entry.Part supplied op options → entry.Part supplied' op options' →
      op.Makes context options merged request → op.Makes context' options' merged' request' →
      template merged op.path = template merged' op.path →
      (∃ key, .slot key ∈ template merged op.path ∧
        (merged.value key).wording? ≠ (merged'.value key).wording?) →
      request.path ≠ request'.path := by
  constructor
  · intro context supplied σ serve s request hsent
    obtain ⟨op, options, hpart, hrequest⟩ := request_of_mem_sent hsent
    obtain ⟨merged, hmakes⟩ := Operation.exists_makes hrequest
    exact ⟨op, options, merged, merged.slotText, hpart, hmakes, template_mem merged op.path,
      hmakes.spellsPath⟩
  · -- What a slot spells can be read off the path, so another wording is another path.
    rintro context context' supplied supplied' op options options' merged merged' request request'
      hpart - hmakes hmakes' htemplate ⟨key, hkey, hwording⟩
    obtain ⟨name', hmem⟩ := hpart.named hlisted
    exact hmakes.path_ne hmem hmakes' htemplate hkey hwording

/-- A role id with a slash and one in which the slash is already escaped go to different paths. -/
theorem paths_spell_options_delete_role_user :
    let entry := Entry.single Access.deleteRoleUser
    let context : Context := ⟨none, ⟨2026, 1, 31⟩⟩
    let supplied : OptionSet := .ofList [("role_id", .string "a/b"), ("username", .ofNat 7)]
    let escaped : OptionSet := .ofList [("role_id", .string "a%2Fb"), ("username", .ofNat 7)]
    let symbols := template supplied Access.deleteRoleUser.path
    let request : Request := ⟨.delete, "/roles/a%2Fb/users/7", .empty, none, none⟩
    let request' : Request := ⟨.delete, "/roles/a%252Fb/users/7", .empty, none, none⟩
    Listed "delete_role_user" entry ∧
      request ∈ ((entry.call context supplied).run replay []).sent ∧
      (∃ op options merged texts, entry.Part supplied op options ∧
        op.Makes context options merged request ∧
        template merged op.path ∈ templates op.path ∧
        SpellsPath merged (template merged op.path) texts request.path) ∧
      Access.deleteRoleUser.Makes context supplied supplied request ∧
      Access.deleteRoleUser.Makes context escaped escaped request' ∧
      symbols = template escaped Access.deleteRoleUser.path ∧
      (.slot "role_id" ∈ symbols ∧
        (supplied.value "role_id").wording? ≠ (escaped.value "role_id").wording?) ∧
      request.path ≠ request'.path := by
  intro entry context supplied escaped symbols request request'
  have hlisted : Listed "delete_role_user" entry :=
    .single (by simp [Operation.all, Access.catalogue])
  have hmakes : Access.deleteRoleUser.Makes context supplied supplied request := ⟨rfl, rfl⟩
  have hmakes' : Access.deleteRoleUser.Makes context escaped escaped request' := ⟨rfl, rfl⟩
  have hsent : request ∈ ((entry.call context supplied).run replay []).sent := by
    decide +kernel
  have hslot : .slot "role_id" ∈ symbols := by decide +kernel
  have hwording : (supplied.value "role_id").wording? ≠ (escaped.value "role_id").wording? := by
    decide
  have hpaths := paths_spell_options hlisted
  refine ⟨hlisted, hsent, hpaths.1 context supplied replay [] request hsent, hmakes, hmakes',
    rfl, ⟨hslot, hwording⟩, ?_⟩
  exact hpaths.2 context context supplied escaped _ _ _ _ _ _ _ .single .single hmakes hmakes' rfl
    ⟨"role_id", hslot, hwording⟩

end Entry

end EntitlementClient
