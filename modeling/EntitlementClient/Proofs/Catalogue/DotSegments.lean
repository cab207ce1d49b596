import EntitlementClient.Proofs.Catalogue.Paths

/-!
# `EntitlementClient.Proofs.Catalogue.DotSegments`: when a path leads to another resource

Encoding keeps every option on its own level of a path, but three texts are not encoded
and name nothing on their level: the empty one, the point and the two points. A path with
one of the last two is read as another path by whoever resolves it.

`Entry.resolves_to_itself_iff` says exactly when that happens: a segment is one of the
three when the option is that string, and the path is resolved to itself when no option in
it is a point or two points. No number, no boolean and no other string does any harm, and
neither does the fixed text of any template. `Entry.delete_role_user_resolves_to_user` is
what follows when an option is: taking a user out of the role `..` is a request that
deletes the user.
-/

set_option autoImplicit false

namespace EntitlementClient

variable {op : Operation} {context : Context} {supplied merged : OptionSet} {request : Request}

/-- A segment that names nothing is the empty text, a point or two points. It comes from the
option that is the same string: no number and no truth value is written so. -/
theorem Operation.Makes.slotText_eq_unnamed (h : op.Makes context supplied merged request)
    {key word : String} (hkey : .slot key ∈ template merged op.path)
    (hword : word ∈ OptionSet.unnamed) :
    merged.slotText key = word.toList ↔ merged.value key = .string word := by
  obtain ⟨segment, hsegment⟩ := h.fills.segment key hkey
  rw [← OptionSet.segmentText?_eq_unnamed hword, OptionSet.slotText, hsegment, Option.getD_some,
    String.toList_inj, Option.some.injEq]

/-- The path of a request is resolved to itself exactly when no option in it is a dot segment. The
levels of the template that are no slots are no dot segments (`wellFormed_all`). -/
theorem Operation.Makes.removeDots_eq_self_iff {name : String} (hmem : (name, op) ∈ all)
    (h : op.Makes context supplied merged request) :
    Text.removeDots request.path.toList = request.path.toList ↔
      ∀ key, .slot key ∈ template merged op.path →
        merged.value key ≠ .string "." ∧ merged.value key ≠ .string ".." := by
  have hpath := h.spellsPath
  rw [hpath.path_eq, (wellFormed_template hmem merged).removeDots_eq_self_iff hpath.slash_not_mem]
  refine forall₂_congr fun key hkey => ?_
  have hone : merged.slotText key = ".".toList ↔ merged.value key = .string "." :=
    h.slotText_eq_unnamed hkey (by decide)
  have htwo : merged.slotText key = "..".toList ↔ merged.value key = .string ".." :=
    h.slotText_eq_unnamed hkey (by decide)
  calc ¬ Text.IsDots (merged.slotText key)
      ↔ ¬ (merged.value key = .string "." ∨ merged.value key = .string "..") :=
        not_congr (or_congr hone htwo)
    _ ↔ merged.value key ≠ .string "." ∧ merged.value key ≠ .string ".." := not_or

namespace Entry

/-- Take a request that a call of the catalogue sends, whatever the server answers. A
segment in its path is empty, a point or two points exactly when the option is that
string. The path is resolved to itself exactly when no option in it is a point or two
points. -/
theorem resolves_to_itself_iff {name : String} {entry : Entry} (hlisted : Listed name entry)
    {σ : Type} {serve : Call.Server σ} {s : σ}
    (hsent : request ∈ ((entry.call context supplied).run serve s).sent) :
    ∃ op options merged texts, entry.Part supplied op options ∧
      op.Makes context options merged request ∧
      SpellsPath merged (template merged op.path) texts request.path ∧
      (∀ key, .slot key ∈ template merged op.path → ∀ word ∈ ["", ".", ".."],
        (texts key = word.toList ↔ merged.value key = .string word)) ∧
      (Text.removeDots request.path.toList = request.path.toList ↔
        ∀ key, .slot key ∈ template merged op.path →
          merged.value key ≠ .string "." ∧ merged.value key ≠ .string "..") := by
  obtain ⟨op, options, hpart, hrequest⟩ := request_of_mem_sent hsent
  obtain ⟨merged, hmakes⟩ := Operation.exists_makes hrequest
  obtain ⟨name', hmem⟩ := hpart.named hlisted
  refine ⟨op, options, merged, merged.slotText, hpart, hmakes, hmakes.spellsPath, ?_, ?_⟩
  · intro key hkey word hword
    exact hmakes.slotText_eq_unnamed hkey hword
  · exact hmakes.removeDots_eq_self_iff hmem

/-- An option that is an ordinary string leaves the path as it is, also when it holds dots
and slashes. -/
theorem resolves_to_itself_get_user :
    let entry := Entry.single Access.getUser
    let context : Context := ⟨none, ⟨2026, 1, 31⟩⟩
    let supplied : OptionSet := .ofList [("username", .string "../ada")]
    let request : Request := ⟨.get, "/users/..%2Fada", .empty, none, none⟩
    Listed "get_user" entry ∧ request ∈ ((entry.call context supplied).run replay []).sent ∧
      ∃ op options merged texts, entry.Part supplied op options ∧
        op.Makes context options merged request ∧
        SpellsPath merged (template merged op.path) texts request.path ∧
        (∀ key, .slot key ∈ template merged op.path → ∀ word ∈ ["", ".", ".."],
          (texts key = word.toList ↔ merged.value key = .string word)) ∧
        (Text.removeDots request.path.toList = request.path.toList ↔
          ∀ key, .slot key ∈ template merged op.path →
            merged.value key ≠ .string "." ∧ merged.value key ≠ .string "..") := by
  intro entry context supplied request
  have hlisted : Listed "get_user" entry := .single (by simp [Operation.all, Access.catalogue])
  have hsent : request ∈ ((entry.call context supplied).run replay []).sent := by decide +kernel
  exact ⟨hlisted, hsent, resolves_to_itself_iff hlisted hsent⟩

/-- A path is not always resolved to itself: taking the user `ada` out of the role `..`
sends a request whose path is resolved to the one on which `delete_user` deletes her. -/
theorem delete_role_user_resolves_to_user :
    let context : Context := ⟨none, ⟨2026, 1, 31⟩⟩
    let supplied : OptionSet := .ofList [("role_id", .string ".."), ("username", .string "ada")]
    let request : Request := ⟨.delete, "/roles/../users/ada", .empty, none, none⟩
    Listed "delete_role_user" (.single Access.deleteRoleUser) ∧
      (((Entry.single Access.deleteRoleUser).call context supplied).run replay []).sent = [request] ∧
      Text.removeDots request.path.toList = "/users/ada".toList ∧
      Access.deleteUser.request context (.ofList [("username", .string "ada")]) =
        .ok { request with path := "/users/ada" } := by
  intro context supplied request
  have hlisted : Listed "delete_role_user" (.single Access.deleteRoleUser) :=
    .single (by simp [Operation.all, Access.catalogue])
  exact ⟨hlisted, by decide +kernel, by decide +kernel, rfl⟩

end Entry

end EntitlementClient
