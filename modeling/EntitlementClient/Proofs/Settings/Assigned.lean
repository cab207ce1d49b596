import EntitlementClient.Proofs.Duration
import EntitlementClient.Settings.Basic

/-!
# `EntitlementClient.Proofs.Settings.Assigned`: settings assigned from values

`Setting.Accepts` says which values have the type of a setting, and `Settings.Has` which
values say of a setting what the settings do. A duration has many texts, so settings have
more than one value for it.

`Settings.taking` is the settings with those of others for some names. Assigning a value
that others have copies one setting from them (`Settings.assign?_of_has`), and no value
can be assigned that does not have the type of the setting
(`Settings.accepts_of_assign?`). Assigning what layers have for one setting after the
other copies all of those (`Settings.assignFrom?_of_has`), by induction over the settings.
From this `Settings.ofLayers?_eq_some_iff` says which settings layers come to: those that
have the winning value of every setting.
-/

set_option autoImplicit false

namespace EntitlementClient

namespace Setting

/-- The list of settings has all of them. -/
theorem mem_all (setting : Setting) : setting ∈ all := by cases setting <;> decide

/-- No two settings have the same name. -/
theorem name_injective {setting other : Setting} (h : setting.name = other.name) :
    setting = other := by
  cases setting <;> cases other <;> first | rfl | exact absurd h (by decide)

/-- Whether a value has the type of the setting. -/
def Accepts (v : ConfigValue) : Setting → Prop
  | host | basePath | userAgent => ∃ words, v = .text words
  | port => ∃ n : Nat, n < UInt16.size ∧ v = .integer n
  | maxBodySize => ∃ n : Nat, n < UInt64.size ∧ v = .integer n
  | useTls | skipVerification => ∃ b, v = .bool b
  | trustedAuthorities => v = .null ∨ ∃ path, v = .text path
  | timeout => ∃ words duration, v = .text words ∧ Duration.ofText? words = some duration

end Setting

namespace Settings

/-- Whether a value says of a setting what the settings do. -/
def Has (s : Settings) (v : ConfigValue) : Setting → Prop
  | .host => v = .text s.host
  | .port => v = .integer s.port.toNat
  | .basePath => v = .text s.basePath
  | .useTls => v = .bool s.useTls
  | .skipVerification => v = .bool s.skipVerification
  | .trustedAuthorities => v = (s.trustedAuthorities.map ConfigValue.text).getD .null
  | .timeout => ∃ words, v = .text words ∧ Duration.ofText? words = some s.timeout
  | .userAgent => v = .text s.userAgent
  | .maxBodySize => v = .integer s.maxBodySize.toNat

/-- The settings with those of others that have one of the names. -/
def taking (s other : Settings) (names : List String) : Settings where
  host := if Setting.host.name ∈ names then other.host else s.host
  port := if Setting.port.name ∈ names then other.port else s.port
  basePath := if Setting.basePath.name ∈ names then other.basePath else s.basePath
  useTls := if Setting.useTls.name ∈ names then other.useTls else s.useTls
  skipVerification :=
    if Setting.skipVerification.name ∈ names then other.skipVerification else s.skipVerification
  trustedAuthorities :=
    if Setting.trustedAuthorities.name ∈ names then other.trustedAuthorities
    else s.trustedAuthorities
  timeout := if Setting.timeout.name ∈ names then other.timeout else s.timeout
  userAgent := if Setting.userAgent.name ∈ names then other.userAgent else s.userAgent
  maxBodySize := if Setting.maxBodySize.name ∈ names then other.maxBodySize else s.maxBodySize

variable {s other : Settings} {setting : Setting} {v : ConfigValue}

/-! ### Settings taken from others -/

/-- Only which settings are named matters. -/
theorem taking_congr {names names' : List String}
    (h : ∀ setting : Setting, setting.name ∈ names ↔ setting.name ∈ names') :
    s.taking other names = s.taking other names' := by
  simp only [taking, h]

/-- To take every setting from others is to have the others. -/
theorem taking_all {names : List String} (h : ∀ setting : Setting, setting.name ∈ names) :
    s.taking other names = other := by
  simp only [taking, h, if_true]

/-- Settings that take from themselves stay as they are. -/
theorem taking_self (names : List String) : s.taking s names = s := by
  simp only [taking, ite_self]

/-- To take some settings and then some more from the same others is to take all of these
at once. -/
theorem taking_taking (names names' : List String) :
    (s.taking other names).taking other names' = s.taking other (names ++ names') := by
  have hite {α : Type} (p q : Prop) [Decidable p] [Decidable q] (x y : α) :
      (if q then x else if p then x else y) = if p ∨ q then x else y := by
    by_cases hp : p <;> by_cases hq : q <;> simp [hp, hq]
  simp only [taking, List.mem_append, hite]

/-- A value is had by the settings that the setting comes from: the others if it is named, and
else these. -/
theorem has_taking {names : List String} :
    (s.taking other names).Has v setting ↔
      if setting.name ∈ names then other.Has v setting else s.Has v setting := by
  by_cases h : setting.name ∈ names
  · rw [if_pos h]
    cases setting <;> simp only [Has, taking, if_pos h]
  · rw [if_neg h]
    cases setting <;> simp only [Has, taking, if_neg h]

/-! ### One setting -/

/-- A text is read from a text only. -/
theorem text?_eq_some {words : String} (h : text? v = some words) : v = .text words := by
  cases v with
  | text => exact congrArg ConfigValue.text (Option.some.inj h)
  | null | bool | integer | real | collection => cases h

/-- A truth value is read from a truth value only. -/
theorem bool?_eq_some {b : Bool} (h : bool? v = some b) : v = .bool b := by
  cases v with
  | bool => exact congrArg ConfigValue.bool (Option.some.inj h)
  | null | integer | real | text | collection => cases h

/-- A text that may be missing is read from null or from a text. -/
theorem optionalText?_eq_some {path : Option String} (h : optionalText? v = some path) :
    v = .null ∨ ∃ words, v = .text words := by
  cases v with
  | null => exact .inl rfl
  | text words => exact .inr ⟨words, rfl⟩
  | bool | integer | real | collection => cases h

/-- A natural number below the bound is read. -/
theorem natBelow?_integer {bound n : Nat} (h : n < bound) :
    natBelow? bound (.integer n) = some n := by
  have hrange : (0 ≤ (n : Int) && (n : Int) < bound) = true := by
    rw [decide_eq_true (Int.natCast_nonneg n), Bool.true_and]
    exact decide_eq_true (Int.ofNat_lt.mpr h)
  exact if_pos hrange

/-- A number is read from an integer only, and it is below the bound. -/
theorem natBelow?_eq_some {bound n : Nat} (h : natBelow? bound v = some n) :
    n < bound ∧ v = .integer n := by
  cases v with
  | integer i =>
    rw [natBelow?] at h
    split at h
    · rename_i hrange
      simp only [Bool.and_eq_true, decide_eq_true_eq] at hrange
      cases h
      refine ⟨by omega, ?_⟩
      rw [Int.toNat_of_nonneg hrange.1]
    · cases h
  | null | bool | real | text | collection => cases h

/-- Assigning a value copies the setting from any settings that have it. So it does not matter in
which of its forms the value is written. -/
theorem assign?_of_has (h : other.Has v setting) :
    s.assign? v setting = some (s.taking other [setting.name]) := by
  -- A text or a truth value is taken as it is. A number is read back from its machine word.
  cases setting with
  | host | basePath | useTls | skipVerification | userAgent =>
    obtain rfl := h
    rfl
  | port =>
    obtain rfl := h
    rw [assign?, natBelow?_integer other.port.toNat_lt, Option.map_some, UInt16.ofNat_toNat]
    rfl
  | trustedAuthorities =>
    have hread : optionalText? v = some other.trustedAuthorities := by
      obtain rfl := h
      cases other.trustedAuthorities <;> rfl
    rw [assign?, hread]
    rfl
  | timeout =>
    obtain ⟨words, rfl, hwords⟩ := h
    have hread : (text? (.text words)).bind Duration.ofText? = some other.timeout := hwords
    rw [assign?, hread]
    rfl
  | maxBodySize =>
    obtain rfl := h
    rw [assign?, natBelow?_integer other.maxBodySize.toNat_lt, Option.map_some,
      UInt64.ofNat_toNat]
    rfl

/-- Settings have the value that each of their settings is written as. -/
theorem has_get (setting : Setting) : s.Has (.ofJson (s.get setting)) setting := by
  cases setting with
  | host | port | basePath | useTls | skipVerification | userAgent | maxBodySize => rfl
  | trustedAuthorities =>
    show ConfigValue.ofJson ((s.trustedAuthorities.map Json.string).getD .null) = _
    cases s.trustedAuthorities <;> rfl
  | timeout => exact ⟨_, rfl, s.timeout.ofText?_text⟩

/-- A value that settings have has the type of the setting. -/
theorem Has.accepts (h : s.Has v setting) : setting.Accepts v := by
  cases setting with
  | host | basePath | useTls | skipVerification | userAgent => exact ⟨_, h⟩
  | port => exact ⟨_, s.port.toNat_lt, h⟩
  | maxBodySize => exact ⟨_, s.maxBodySize.toNat_lt, h⟩
  | trustedAuthorities =>
    rw [Has] at h
    cases hpath : s.trustedAuthorities with
    | none => exact .inl (by rw [h, hpath]; rfl)
    | some path => exact .inr ⟨path, by rw [h, hpath]; rfl⟩
  | timeout =>
    obtain ⟨words, hv, hwords⟩ := h
    exact ⟨words, _, hv, hwords⟩

/-- A value that is assigned has the type of the setting. -/
theorem accepts_of_assign? {assigned : Settings} (h : s.assign? v setting = some assigned) :
    setting.Accepts v := by
  cases setting with
  | host | basePath | userAgent =>
    obtain ⟨words, hwords, -⟩ := Option.map_eq_some_iff.mp h
    exact ⟨words, text?_eq_some hwords⟩
  | port | maxBodySize =>
    obtain ⟨n, hn, -⟩ := Option.map_eq_some_iff.mp h
    exact ⟨n, natBelow?_eq_some hn⟩
  | useTls | skipVerification =>
    obtain ⟨b, hb, -⟩ := Option.map_eq_some_iff.mp h
    exact ⟨b, bool?_eq_some hb⟩
  | trustedAuthorities =>
    obtain ⟨path, hpath, -⟩ := Option.map_eq_some_iff.mp h
    exact optionalText?_eq_some hpath
  | timeout =>
    obtain ⟨duration, hduration, -⟩ := Option.map_eq_some_iff.mp h
    obtain ⟨words, hwords, hduration⟩ := Option.bind_eq_some_iff.mp hduration
    exact ⟨words, duration, text?_eq_some hwords, hduration⟩

/-- Values that have the types of their settings are had by some settings. -/
theorem exists_has {value : Setting → ConfigValue}
    (h : ∀ setting : Setting, setting.Accepts (value setting)) :
    ∃ s : Settings, ∀ setting, s.Has (value setting) setting := by
  obtain ⟨host, hhost⟩ := h .host
  obtain ⟨port, hbound, hport⟩ := h .port
  obtain ⟨basePath, hbasePath⟩ := h .basePath
  obtain ⟨useTls, huseTls⟩ := h .useTls
  obtain ⟨skipVerification, hskipVerification⟩ := h .skipVerification
  obtain ⟨timeout, duration, htimeout, hduration⟩ := h .timeout
  obtain ⟨userAgent, huserAgent⟩ := h .userAgent
  obtain ⟨size, hlimit, hsize⟩ := h .maxBodySize
  have htrusted : ∃ path : Option String,
      value .trustedAuthorities = (path.map ConfigValue.text).getD .null := by
    rcases h .trustedAuthorities with hnull | ⟨path, hpath⟩
    · exact ⟨none, hnull⟩
    · exact ⟨some path, hpath⟩
  obtain ⟨trusted, htrusted⟩ := htrusted
  -- One setting for each value. The numbers fit in their words, so they come back from them.
  refine ⟨⟨host, .ofNat port, basePath, useTls, skipVerification, trusted, duration, userAgent,
    .ofNat size⟩, fun setting => ?_⟩
  cases setting with
  | host => exact hhost
  | port => rw [Has, hport, UInt16.toNat_ofNat_of_lt' hbound]
  | basePath => exact hbasePath
  | useTls => exact huseTls
  | skipVerification => exact hskipVerification
  | trustedAuthorities => exact htrusted
  | timeout => exact ⟨timeout, htimeout, hduration⟩
  | userAgent => exact huserAgent
  | maxBodySize => rw [Has, hsize, UInt64.toNat_ofNat_of_lt' hlimit]

/-- Settings that have the same value for every setting are equal. -/
theorem Has.unique {value : Setting → ConfigValue} (h : ∀ setting, s.Has (value setting) setting)
    (h' : ∀ setting, other.Has (value setting) setting) : s = other := by
  -- Assigning a value that both have copies the setting from either.
  have hone : ∀ setting : Setting, s.taking other [setting.name] = s := by
    intro setting
    have hassigned := (assign?_of_has (s := s) (h' setting)).symm.trans (assign?_of_has (h setting))
    rwa [taking_self, Option.some.injEq] at hassigned
  have hall : ∀ settings : List Setting, s.taking other (settings.map Setting.name) = s := by
    intro settings
    induction settings with
    | nil => rfl
    | cons setting rest ih =>
      have htaken := @taking_taking s other [setting.name] (rest.map Setting.name)
      rw [hone setting, ih] at htaken
      exact htaken.symm
  rw [← hall Setting.all]
  exact taking_all fun setting => List.mem_map_of_mem setting.mem_all

/-! ### Settings from layers -/

variable {layers : List Layer} {settings : List Setting}

/-- Assigning what the layers have, setting after setting, copies those settings from any
settings that have it. -/
theorem assignFrom?_of_has
    (h : ∀ setting v, winner? layers setting = some v → other.Has v setting) :
    assignFrom? layers settings s = some (s.taking other
      ((settings.filter fun setting => (winner? layers setting).isSome).map Setting.name)) := by
  -- What was taken before stays under the settings that are taken now.
  induction settings generalizing s with
  | nil => rfl
  | cons setting rest ih =>
    rw [assignFrom?]
    cases hwinner : winner? layers setting with
    | none =>
      rw [List.filter_cons_of_neg (by simp [hwinner])]
      exact ih
    | some v =>
      rw [List.filter_cons_of_pos (by simp [hwinner])]
      show (s.assign? v setting).bind _ = _
      rw [assign?_of_has (h setting v hwinner), Option.bind_some, ih, taking_taking]
      rfl

/-- What the layers have for settings that are assigned has their types. -/
theorem accepts_of_assignFrom? {assigned : Settings} (h : assignFrom? layers settings s = some assigned)
    (hmem : setting ∈ settings) (hwinner : winner? layers setting = some v) : setting.Accepts v := by
  induction settings generalizing s with
  | nil => cases hmem
  | cons first rest ih =>
    rw [assignFrom?] at h
    rcases List.mem_cons.mp hmem with rfl | hmem
    · rw [hwinner] at h
      obtain ⟨_, hfirst, -⟩ := Option.bind_eq_some_iff.mp h
      exact accepts_of_assign? hfirst
    · cases hfirst : winner? layers first with
      | none =>
        rw [hfirst] at h
        exact ih h hmem
      | some w =>
        rw [hfirst] at h
        obtain ⟨_, -, hrest⟩ := Option.bind_eq_some_iff.mp h
        exact ih hrest hmem

/-- The value that counts for a setting: that of the layers, or else the default. -/
def winning (layers : List Layer) (setting : Setting) : ConfigValue :=
  (winner? layers setting).getD (.ofJson (Settings.default.get setting))

/-- Layers come to settings that have the winning value of every setting, if there are such
settings. -/
theorem ofLayers?_of_has (h : ∀ setting, s.Has (winning layers setting) setting) :
    ofLayers? layers = some s := by
  have hwinner : ∀ setting v, winner? layers setting = some v → s.Has v setting := by
    intro setting v hv
    have hs := h setting
    rwa [winning, hv] at hs
  rw [ofLayers?, assignFrom?_of_has hwinner, Option.some.injEq]
  refine Has.unique (fun setting => has_taking.mpr ?_) h
  split
  · exact h setting
  · rename_i hnone
    -- A setting that is not taken has no value in the layers, so its default counts.
    have habsent : winner? layers setting = none := by
      cases hv : winner? layers setting with
      | none => rfl
      | some v =>
        refine absurd (List.mem_map_of_mem (List.mem_filter.mpr ⟨setting.mem_all, ?_⟩)) hnone
        rw [hv]
        rfl
    rw [winning, habsent]
    exact has_get setting

/-- The settings of layers are those that have the winning value of every setting. There are no
others, for each of the settings is decided by its value. -/
theorem ofLayers?_eq_some_iff :
    ofLayers? layers = some s ↔ ∀ setting, s.Has (winning layers setting) setting := by
  refine ⟨fun h => ?_, ofLayers?_of_has⟩
  have haccepts : ∀ setting : Setting, setting.Accepts (winning layers setting) := by
    intro setting
    unfold winning
    cases hv : winner? layers setting with
    | none => exact (has_get setting).accepts
    | some v => exact accepts_of_assignFrom? h setting.mem_all hv
  obtain ⟨other, hother⟩ := exists_has haccepts
  rw [ofLayers?_of_has hother, Option.some.injEq] at h
  exact h ▸ hother

/-- Only the winning values matter. What a lower layer has for a setting that an upper one assigns
is never looked at. -/
theorem ofLayers?_congr {layers' : List Layer}
    (h : ∀ setting, winning layers setting = winning layers' setting) :
    ofLayers? layers = ofLayers? layers' := by
  refine Option.ext fun s => ?_
  show ofLayers? layers = some s ↔ ofLayers? layers' = some s
  rw [ofLayers?_eq_some_iff, ofLayers?_eq_some_iff]
  exact forall_congr' fun setting => by rw [h]

end Settings

end EntitlementClient
