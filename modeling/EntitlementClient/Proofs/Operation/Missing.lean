import EntitlementClient.Proofs.Operation.Validation

/-!
# `EntitlementClient.Proofs.Operation.Missing`: which missing options a call reports

The checks of an operation run one after the other, first its requirements and then the
options in its path, and the first that fails ends the call. So a call that reports
missing options names those of one check only. `Operation.plan_missing` says of which one:
a requirement, which names all of its options that fail, or a part of the path, which
names one option.

`Operation.firstChecked` are the options that the very first check looks at. When one of
them is null, that check fails, and it names the option (`mem_of_plan_missing`). Whatever
else an operation needs is reported together with them only if its first check looks at it
too.
-/

set_option autoImplicit false

namespace EntitlementClient

/-- The options that a requirement tests. On no key in particular, it tests all declared ones. -/
def Requirement.tested (declared : List String) : Requirement → List String
  | .present keys => if keys.isEmpty then declared else keys
  | .allPresent => declared
  | .anObject key => [key]
  | .nonEmptyList key => [key]

/-- The option without which a part of a path cannot be rendered. -/
def PathPart.mandatory : PathPart → List String
  | .option key => [key]
  | _ => []

/-- The options in a path without which it cannot be rendered, from left to right. -/
def mandatory (parts : List PathPart) : List String := parts.flatMap PathPart.mandatory

/-- The options that the first check of an operation looks at: its first requirement, or
the first option in its path when it has none. -/
def Operation.firstChecked (op : Operation) : List String :=
  match op.requirements with
  | requirement :: _ => requirement.tested op.declared
  | [] => (mandatory op.path).head?.toList

/-! ### Requirements -/

/-- A test that fails reports all options that do not pass it, and there is one. -/
theorem OptionSet.requireThat_missing {options : OptionSet} {keys failed : List String}
    {test : Json → Bool}
    (h : options.requireThat keys test = .error (.missingRequiredParameter failed)) :
    failed = options.failing keys test ∧ failed ≠ [] := by
  unfold requireThat at h
  dsimp only at h
  split at h
  · cases h
  · rename_i hsome
    cases h
    exact ⟨rfl, fun hnone => hsome (List.isEmpty_iff.mpr hnone)⟩

/-- A test that null fails reports every tested option that is null. -/
theorem OptionSet.requireThat_of_null {options : OptionSet} {keys : List String}
    {test : Json → Bool} {key : String} (htest : test .null = false)
    (hkey : key ∈ if keys.isEmpty then options.keys else keys) (hnull : options.value key = .null) :
    ∃ failed, options.requireThat keys test = .error (.missingRequiredParameter failed) ∧
      key ∈ failed := by
  have hmem : key ∈ options.failing keys test := by
    rw [failing, List.mem_filter, hnull, htest]
    exact ⟨hkey, rfl⟩
  have hsome : ¬ (options.failing keys test).isEmpty = true := by
    rw [List.isEmpty_iff]
    exact List.ne_nil_of_mem hmem
  refine ⟨options.failing keys test, ?_, hmem⟩
  unfold requireThat
  dsimp only
  rw [if_neg hsome]

/-- Every requirement names all options that it tests and that are null. So a requirement never
reports them one at a time. -/
theorem Requirement.check_of_null {options : OptionSet} {requirement : Requirement} {key : String}
    (hkey : key ∈ requirement.tested options.keys) (hnull : options.value key = .null) :
    ∃ failed, requirement.check options = .error (.missingRequiredParameter failed) ∧
      key ∈ failed := by
  cases requirement with
  | present keys => exact OptionSet.requireThat_of_null rfl hkey hnull
  | allPresent => exact OptionSet.requireThat_of_null rfl hkey hnull
  | anObject key' => exact OptionSet.requireThat_of_null rfl hkey hnull
  | nonEmptyList key' => exact OptionSet.requireThat_of_null rfl hkey hnull

/-! ### Paths -/

/-- An option is null when it has the value null or is not there. -/
theorem OptionSet.isNull_iff {options : OptionSet} {key : String} :
    options.isNull key = true ↔ options.value key = .null :=
  Json.isNull_iff

/-- An option is missing from a path when it is null, and then it is named alone. A value of the
wrong kind is another error. -/
theorem OptionSet.segment_missing {options : OptionSet} {key : String} {keys : List String}
    (h : options.segment key = .error (.missingRequiredParameter keys)) :
    options.isNull key = true ∧ keys = [key] := by
  unfold segment at h
  split at h
  · rename_i hnull
    cases h
    exact ⟨isNull_iff.mpr hnull, rfl⟩
  · split at h
    · cases h
    · cases h

/-- The parts of a path that can be missing are the mandatory options. A part that may be left out
is left out when its option is null. -/
theorem PathPart.render_missing {options : OptionSet} {part : PathPart} {keys : List String}
    (h : part.render options = .error (.missingRequiredParameter keys)) :
    ∃ key, part = .option key ∧ options.isNull key = true ∧ keys = [key] := by
  cases part with
  | text words => cases h
  | option key =>
    obtain ⟨hnull, hkeys⟩ := OptionSet.segment_missing h
    exact ⟨key, rfl, hnull, hkeys⟩
  | whenSet lead key =>
    -- It is rendered only when its option is not null.
    rw [render] at h
    split at h
    · cases h
    · rename_i hset
      cases hsegment : options.segment key with
      | ok text => simp [hsegment, Except.map] at h
      | error e =>
        rw [hsegment] at h
        cases h
        exact absurd (OptionSet.segment_missing hsegment).1 hset

/-- The mandatory option of a part that was rendered is not null. -/
theorem PathPart.isNull_of_render {options : OptionSet} {part : PathPart} {text : String}
    (h : part.render options = .ok text) : ∀ key ∈ part.mandatory, ¬ options.isNull key = true := by
  intro key hkey hnull
  cases part with
  | option key' =>
    rw [mandatory, List.mem_singleton] at hkey
    subst hkey
    rw [render, OptionSet.segment, OptionSet.isNull_iff.mp hnull] at h
    cases h
  | text words => cases hkey
  | whenSet lead key' => cases hkey

/-- A path reports the first of its mandatory options that is null, and no other. The parts are
rendered one after the other, and the first that fails ends it. -/
theorem renderParts_missing {options : OptionSet} {parts : List PathPart} {keys : List String}
    (h : renderParts options parts = .error (.missingRequiredParameter keys)) :
    ∃ key, (mandatory parts).find? options.isNull = some key ∧ keys = [key] := by
  induction parts with
  | nil => cases h
  | cons part rest ih =>
    have hmandatory : mandatory (part :: rest) = part.mandatory ++ mandatory rest := rfl
    rw [hmandatory, List.find?_append]
    rw [renderParts, bind_eq_error_iff] at h
    rcases h with h | ⟨text, htext, h⟩
    · obtain ⟨key, rfl, hnull, rfl⟩ := PathPart.render_missing h
      refine ⟨key, ?_, rfl⟩
      rw [PathPart.mandatory, List.find?_cons_of_pos hnull]
      rfl
    · -- This part was rendered, so the first one that is null is among the rest.
      rw [List.find?_eq_none.mpr (PathPart.isNull_of_render htext), Option.none_or]
      rw [bind_eq_error_iff] at h
      rcases h with h | ⟨texts, -, h⟩
      · exact ih h
      · cases h

/-! ### Plans -/

namespace Operation

variable {op : Operation} {context : Context} {supplied options : OptionSet} {keys : List String}

/-- The options that a plan reports missing are those of a requirement, or when all
requirements are met the first one in the path that is null. -/
theorem ReadsDeclared.plan_missing (hreads : op.ReadsDeclared)
    (hmerge : (op.defaults context supplied).merge supplied = .ok options)
    (h : op.plan options = .error (.missingRequiredParameter keys)) :
    checkAll options op.requirements = .error (.missingRequiredParameter keys) ∨
      checkAll options op.requirements = .ok () ∧
        ∃ key, (mandatory op.path).find? options.isNull = some key ∧ keys = [key] := by
  obtain ⟨q, hq⟩ := hreads.renderQuery_ok hmerge
  simp only [plan, bind_eq_error_iff] at h
  rcases h with h | ⟨⟨⟩, hcheck, h | ⟨path, -, h | ⟨q', -, h⟩⟩⟩
  · exact Or.inl h
  · refine Or.inr ⟨hcheck, ?_⟩
    unfold renderPath at h
    cases hparts : renderParts options op.path with
    | ok texts => simp [hparts, Except.map] at h
    | error e =>
      rw [hparts] at h
      cases h
      exact renderParts_missing hparts
  · rw [hq] at h
    cases h
  · cases h

/-- An option that the first check looks at and that is null is among those reported missing. So
all of these are reported together. -/
theorem ReadsDeclared.mem_of_plan_missing (hreads : op.ReadsDeclared)
    (hmerge : (op.defaults context supplied).merge supplied = .ok options)
    (hkeys : options.keys = op.declared)
    (h : op.plan options = .error (.missingRequiredParameter keys)) {key : String}
    (hkey : key ∈ op.firstChecked) (hnull : options.value key = .null) : key ∈ keys := by
  have hcases := hreads.plan_missing hmerge h
  unfold firstChecked at hkey
  cases hrequirements : op.requirements with
  | cons requirement rest =>
    rw [hrequirements] at hkey hcases
    dsimp only at hkey
    rw [← hkeys] at hkey
    obtain ⟨failed, hcheck, hmem⟩ := Requirement.check_of_null hkey hnull
    -- The first requirement fails, so it is the one that reports.
    have hall : checkAll options (requirement :: rest) =
        .error (.missingRequiredParameter failed) := by
      rw [checkAll, hcheck]
      rfl
    rcases hcases with hfailed | ⟨hmet, -⟩
    · rw [hall] at hfailed
      cases hfailed
      exact hmem
    · rw [hall] at hmet
      cases hmet
  | nil =>
    rw [hrequirements] at hkey hcases
    dsimp only at hkey
    rw [Option.mem_toList, List.head?_eq_some_iff] at hkey
    obtain ⟨rest, hpath⟩ := hkey
    rcases hcases with hfailed | ⟨-, first, hfirst, rfl⟩
    · cases hfailed
    · rw [hpath, List.find?_cons_of_pos (OptionSet.isNull_iff.mpr hnull)] at hfirst
      cases hfirst
      exact List.mem_singleton_self key

end Operation

end EntitlementClient
