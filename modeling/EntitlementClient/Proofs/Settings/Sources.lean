import EntitlementClient.Proofs.OrderedMap
import EntitlementClient.Proofs.Settings.Assigned
import EntitlementClient.Settings.Sources

/-!
# `EntitlementClient.Proofs.Settings.Sources`: settings loaded from a file and the environment

Each source assigns values to some of the settings. What a file assigns is said by its
format, which is any function from texts to layers: nothing here depends on how such a
text is read. In the environment the last variable of a setting counts
(`Environment.given?`). `Settings.sourced` is the value that wins for a setting: that of
the environment, else that of the file, else the default.

`Settings.load_eq_ok_iff` says that the settings that are loaded are those that have the
winning value of every setting, and `Settings.load_sourced` what follows. Settings are
loaded exactly when every winning value has the type of its setting, and what a file
assigns below the environment does not matter, whatever type it has.
-/

set_option autoImplicit false

namespace EntitlementClient

/-- The name of the environment variable for a setting. -/
def Setting.variable (setting : Setting) : String :=
  "CANDLEPIN_" ++ String.ofList (setting.name.toList.map Char.toUpper)

/-! ### The environment -/

namespace Environment

/-- What a variable assigns to a setting, if it is one of the setting's. -/
def assigned? (setting : Setting) (assignment : String × String) : Option ConfigValue :=
  match entry? assignment with
  | none => none
  | some entry => if setting.name = entry.1 then some entry.2 else none

/-- What the environment assigns to a setting: of its variables the last counts. -/
def given? (assignments : List (String × String)) (setting : Setting) : Option ConfigValue :=
  assignments.reverse.findSome? (assigned? setting)

/-- The variable of a setting assigns its value to the setting. -/
theorem assigned?_variable (setting : Setting) (text : String) :
    assigned? setting (setting.variable, text) = some (valueOf text) := by
  have hname : settingName? setting.variable = some setting.name.toList := by
    cases setting <;> decide +kernel
  have hpoint : setting.name.toList.takeWhile (· ≠ '.') = setting.name.toList := by
    cases setting <;> decide +kernel
  have hentry : entry? (setting.variable, text) = some (setting.name, valueOf text) := by
    unfold entry?
    rw [hname, Option.map_some, hpoint]
    simp
  rw [assigned?, hentry]
  exact if_pos rfl

/-- A look-up among the entries that assignments make finds what the first assignment of
the setting says. -/
theorem lookup_entries (assignments : List (String × String)) (setting : Setting) :
    (assignments.filterMap entry?).lookup setting.name =
      assignments.findSome? (assigned? setting) := by
  induction assignments with
  | nil => rfl
  | cons assignment rest ih =>
    rw [List.filterMap_cons, List.findSome?_cons, assigned?]
    cases entry? assignment with
    | none => exact ih
    | some entry =>
      obtain ⟨name, v⟩ := entry
      dsimp only
      by_cases hname : setting.name = name
      · simp [hname]
      · have hother : (setting.name == name) = false := by simpa using hname
        simp [List.lookup_cons, hname, hother, ih]

/-- The layer of assignments gives a setting what they say of it. -/
theorem get?_layer (assignments : List (String × String)) (setting : Setting) :
    (layer assignments).get? setting.name = given? assignments setting := by
  rw [layer, OrderedMap.ofList, OrderedMap.get?_insertAll_eq_lookup, ← List.filterMap_reverse,
    lookup_entries]
  exact Option.or_none

end Environment

namespace Settings

variable {format : FileFormat} {file : Option String} {layer : Layer}
  {assignments : List (String × String)} {setting : Setting}

/-! ### All sources -/

/-- The value that wins for a setting: that of the environment, else that of the file,
else the default. -/
def sourced (file : Layer) (assignments : List (String × String)) (setting : Setting) :
    ConfigValue :=
  ((Environment.given? assignments setting).or (file.get? setting.name)).getD
    (.ofJson (Settings.default.get setting))

/-- Of two layers the upper one wins, and the lower one where the upper one assigns nothing. -/
theorem winner?_pair (lower upper : Layer) (setting : Setting) :
    winner? [lower, upper] setting = (upper.get? setting.name).or (lower.get? setting.name) := by
  show List.findSome? (fun layer : Layer => layer.get? setting.name) [upper, lower] = _
  rw [List.findSome?_cons, List.findSome?_singleton]
  cases upper.get? setting.name with
  | none => rfl
  | some v => rfl

/-- What wins over the layers of the file and of the environment is what the sources say,
since a look-up in the environment's layer is a look-up among its variables. -/
theorem winning_eq_sourced :
    winning [layer, Environment.layer assignments] setting = sourced layer assignments setting := by
  rw [winning, winner?_pair, Environment.get?_layer, sourced]

/-- A file that can be read is one layer under that of the environment. A file that is not there
is an empty layer. -/
theorem load_eq (h : fileLayer? format file = some layer) :
    load format file assignments =
      (ofLayers? [layer, Environment.layer assignments]).elim (.error .value) .ok := by
  rw [load, h]
  dsimp only
  cases ofLayers? [layer, Environment.layer assignments] with
  | none => rfl
  | some s => rfl

/-- The settings that are loaded are those that have the winning value of every setting. -/
theorem load_eq_ok_iff {s : Settings} (h : fileLayer? format file = some layer) :
    load format file assignments = .ok s ↔
      ∀ setting, s.Has (sourced layer assignments setting) setting := by
  have hlayers : ofLayers? [layer, Environment.layer assignments] = some s ↔
      ∀ setting, s.Has (sourced layer assignments setting) setting := by
    rw [ofLayers?_eq_some_iff]
    exact forall_congr' fun setting => by rw [winning_eq_sourced]
  rw [← hlayers, load_eq h]
  cases ofLayers? [layer, Environment.layer assignments] with
  | none => simp
  | some s' => simp

/-- Settings are loaded exactly when every winning value has the type of its setting. -/
theorem exists_load_iff (h : fileLayer? format file = some layer) :
    (∃ s, load format file assignments = .ok s) ↔
      ∀ setting : Setting, setting.Accepts (sourced layer assignments setting) := by
  constructor
  · rintro ⟨s, hs⟩ setting
    exact ((load_eq_ok_iff h).mp hs setting).accepts
  · intro haccepts
    obtain ⟨s, hs⟩ := exists_has haccepts
    exact ⟨s, (load_eq_ok_iff h).mpr hs⟩

/-- A file that can be read is not why loading fails. What fails is a value that has not the type
of its setting. -/
theorem load_error {e : ConfigurationError} (h : fileLayer? format file = some layer)
    (hload : load format file assignments = .error e) : e = .value := by
  rw [load_eq h] at hload
  cases hlayers : ofLayers? [layer, Environment.layer assignments] with
  | none =>
    rw [hlayers] at hload
    cases hload
    rfl
  | some s =>
    rw [hlayers] at hload
    cases hload

/-- Files, of whatever formats, come to the same if they assign the same to the settings
that the environment does not assign. -/
theorem load_congr {format' : FileFormat} {file' : Option String} {layer' : Layer}
    (h : fileLayer? format file = some layer) (h' : fileLayer? format' file' = some layer')
    (hsame : ∀ setting : Setting, Environment.given? assignments setting = none →
      layer'.get? setting.name = layer.get? setting.name) :
    load format' file' assignments = load format file assignments := by
  rw [load_eq h, load_eq h']
  refine congrArg (fun found => Option.elim found _ _) (ofLayers?_congr fun setting => ?_)
  rw [winning_eq_sourced, winning_eq_sourced, sourced, sourced]
  cases hgiven : Environment.given? assignments setting with
  | none => rw [hsame setting hgiven]
  | some v => rfl

/-- Take any format of files, a file that is a mapping in it, or none, and any
environment. The settings that are loaded are those that have the winning value of every
setting: the one of the environment if a variable of the setting is set, else the one of
the file, else the default. There are such settings exactly when every winning value has
the type of its setting, and if one has not, loading fails for it. Another file that
differs only in settings that the environment assigns comes to the same, whatever it has
for them. The environment assigns a setting through the variable that is called
`CANDLEPIN_` and the setting's name. -/
theorem load_sourced (h : fileLayer? format file = some layer) (assignments : List (String × String)) :
    (∀ s, load format file assignments = .ok s ↔
      ∀ setting, s.Has (sourced layer assignments setting) setting) ∧
    ((∃ s, load format file assignments = .ok s) ↔
      ∀ setting : Setting, setting.Accepts (sourced layer assignments setting)) ∧
    ((∃ setting : Setting, ¬ setting.Accepts (sourced layer assignments setting)) →
      load format file assignments = .error .value) ∧
    (∀ (file' : Option String) (layer' : Layer), fileLayer? format file' = some layer' →
      (∀ setting : Setting, Environment.given? assignments setting = none →
        layer'.get? setting.name = layer.get? setting.name) →
      load format file' assignments = load format file assignments) ∧
    ∀ setting text, Environment.assigned? setting (Setting.variable setting, text) =
      some (Environment.valueOf text) := by
  refine ⟨fun s => load_eq_ok_iff h, exists_load_iff h, ?_, fun file' layer' h' => load_congr h h',
    Environment.assigned?_variable⟩
  rintro ⟨setting, hrefused⟩
  cases hload : load format file assignments with
  | ok s => exact absurd ((exists_load_iff h).mp ⟨s, hload⟩ setting) hrefused
  | error e => rw [load_error h hload]

/-- The environment assigns the port and the timeout, for which the file has a truth value
and a list. The file's host has an anchor, its key a line of its own, and it is loaded all
the same. A host that is a number keeps settings from being loaded. -/
theorem load_sourced_overridden :
    let assignments := [("CANDLEPIN_PORT", "9000"), ("candlepin_timeout", "1m 30s")]
    let overridden := "? host\n: &name example.com\nport: true\ntimeout: [3]\nuse_tls: false\n"
    let layer : Layer := .ofList [("host", .text "example.com"), ("port", .bool true),
      ("timeout", .collection), ("use_tls", .bool false)]
    let yaml : FileFormat := fun text =>
      if text = overridden then some layer
      else if text = "host: 5" then some (.ofList [("host", .integer 5)])
      else none
    fileLayer? yaml (some overridden) = some layer ∧
      load yaml (some overridden) assignments = .ok { Settings.default with
        host := "example.com", port := 9000, useTls := false, timeout := .ofSeconds 90 } ∧
      fileLayer? yaml (some "host: 5") = some (.ofList [("host", .integer 5)]) ∧
      load yaml (some "host: 5") assignments = .error .value := by
  intro assignments overridden layer yaml
  have hfile : fileLayer? yaml (some overridden) = some layer := by simp [fileLayer?, yaml]
  have hnumber : fileLayer? yaml (some "host: 5") = some (.ofList [("host", .integer 5)]) := by
    simp [fileLayer?, yaml, overridden]
  refine ⟨hfile, ((load_sourced hfile assignments).1 _).mpr fun setting => ?_, hnumber, ?_⟩
  · cases setting with
    | timeout => exact ⟨"1m 30s", by decide +kernel, by decide⟩
    | host | port | basePath | useTls | skipVerification | trustedAuthorities | userAgent
    | maxBodySize =>
      rw [Has]
      decide +kernel
  · obtain ⟨-, -, hrefused, -⟩ := load_sourced hnumber assignments
    refine hrefused ⟨.host, ?_⟩
    rintro ⟨words, hwords⟩
    have hwinner : sourced (.ofList [("host", .integer 5)]) assignments .host = .integer 5 := by
      decide +kernel
    rw [hwinner] at hwords
    cases hwords

end Settings

end EntitlementClient
