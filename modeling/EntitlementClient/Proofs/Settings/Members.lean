import EntitlementClient.Proofs.OrderedMap
import EntitlementClient.Proofs.Settings.Assigned

/-!
# `EntitlementClient.Proofs.Settings.Members`: settings as the members of an object

Reading an object copies the settings that its members name. So an object stands for the
defaults with the settings that it names (`Settings.ofJson?_object`), and the object that
names them all for the settings themselves.

A member need not be written as `Settings.toJson` writes it: a duration has many texts,
and `Settings.Holds` allows each of them. That the text that is written is one of them is
the round trip of durations.
-/

set_option autoImplicit false

namespace EntitlementClient

namespace Settings

variable {s : Settings} {setting : Setting} {members : List (String × Json)}

/-- Whether a value says the same of a setting as the settings do. A duration may be
written in any way. -/
def Holds (s : Settings) (setting : Setting) (v : Json) : Prop :=
  v = s.get setting ∨
    setting = .timeout ∧ ∃ text, v = .string text ∧ Duration.ofText? text = some s.timeout

/-- What the settings give for a setting says of it what they do. -/
theorem holds_get (s : Settings) (setting : Setting) : s.Holds setting (s.get setting) := .inl rfl

/-- A value that says the same of a setting as the settings do is read as one that they have. This
is where the ways to write a duration meet. -/
theorem Holds.has {v : Json} (h : s.Holds setting v) : s.Has (.ofJson v) setting := by
  rcases h with rfl | ⟨rfl, text, rfl, htext⟩
  · exact has_get setting
  · exact ⟨text, rfl, htext⟩

/-- The layer of the members of an object. -/
def layerOf (members : List (String × Json)) : Layer :=
  .ofList (members.map fun (name, v) => (name, .ofJson v))

/-- The layer of an object names what the members of the object do. -/
theorem mem_keys_layerOf {name : String} :
    name ∈ (layerOf members).keys ↔ name ∈ members.map Prod.fst := by
  rw [layerOf, OrderedMap.mem_keys_ofList, List.map_map]
  rfl

/-- What the layer has for a name is the value of a member of that name. -/
theorem mem_of_get?_layerOf {name : String} {v : ConfigValue}
    (h : (layerOf members).get? name = some v) : ∃ w, (name, w) ∈ members ∧ v = .ofJson w := by
  obtain ⟨⟨member, w⟩, hmem, heq⟩ := List.mem_map.mp
    (OrderedMap.mem_of_mem_entries_ofList (OrderedMap.get?_eq_some_iff.mp h))
  cases heq
  exact ⟨w, hmem, rfl⟩

/-- With one layer alone, that layer decides. -/
theorem winner?_singleton (layer : Layer) (setting : Setting) :
    winner? [layer] setting = layer.get? setting.name := by
  simp [winner?]

/-- The layer of members has a value for the settings that the members name. -/
theorem isSome_winner?_layerOf :
    (winner? [layerOf members] setting).isSome = true ↔ setting.name ∈ members.map Prod.fst := by
  rw [winner?_singleton, ← mem_keys_layerOf]
  cases hget : (layerOf members).get? setting.name with
  | none => simpa using OrderedMap.get?_eq_none_iff.mp hget
  | some v => simpa using OrderedMap.mem_keys_of_get? hget

/-- An object gives the defaults with the settings that its members name and hold. Members of
other names are passed over. -/
theorem ofJson?_of_holds (s : Settings)
    (h : ∀ setting v, (setting.name, v) ∈ members → s.Holds setting v) :
    ofJson? (.object members) = some (Settings.default.taking s (members.map Prod.fst)) := by
  have hwinner : ∀ setting v, winner? [layerOf members] setting = some v → s.Has v setting := by
    intro setting v hv
    rw [winner?_singleton] at hv
    obtain ⟨w, hmem, rfl⟩ := mem_of_get?_layerOf hv
    exact (h setting w hmem).has
  show assignFrom? [layerOf members] Setting.all .default = _
  rw [assignFrom?_of_has hwinner]
  refine congrArg some (taking_congr fun setting => ?_)
  rw [← isSome_winner?_layerOf, List.mem_map]
  constructor
  · rintro ⟨other, hother, hname⟩
    exact Setting.name_injective hname ▸ (List.mem_filter.mp hother).2
  · exact fun hsome => ⟨setting, List.mem_filter.mpr ⟨setting.mem_all, hsome⟩, rfl⟩

/-- **Settings and objects.** Settings are read back from the object that is written. An
object with some of its members stands for the defaults with just these settings, and so
does every object in which the members that have the name of a setting hold it. -/
theorem ofJson?_object (s : Settings) :
    ofJson? s.toJson = some s ∧
    (∀ chosen : List Setting,
      ofJson? (.object (chosen.map fun setting => (setting.name, s.get setting))) =
        some (Settings.default.taking s (chosen.map Setting.name))) ∧
    ∀ members : List (String × Json),
      (∀ setting v, (setting.name, v) ∈ members → s.Holds setting v) →
      ofJson? (.object members) = some (Settings.default.taking s (members.map Prod.fst)) := by
  have hchosen : ∀ chosen : List Setting,
      ofJson? (.object (chosen.map fun setting => (setting.name, s.get setting))) =
        some (Settings.default.taking s (chosen.map Setting.name)) := by
    intro chosen
    rw [ofJson?_of_holds s, List.map_map]
    · rfl
    · intro setting v hmem
      obtain ⟨other, -, heq⟩ := List.mem_map.mp hmem
      obtain ⟨hname, rfl⟩ := Prod.mk.inj heq
      exact Setting.name_injective hname ▸ holds_get s other
  refine ⟨?_, hchosen, fun members h => ofJson?_of_holds s h⟩
  rw [toJson, hchosen, taking_all]
  exact fun setting => List.mem_map_of_mem setting.mem_all

/-- A timeout is given in minutes, beside a name that no setting has. -/
theorem ofJson?_object_minutes :
    ofJson? (.object [("timeout", .string "90m"), ("comment", .null)]) =
      some { Settings.default with timeout := .ofSeconds 5400 } := by
  refine (ofJson?_object { Settings.default with timeout := .ofSeconds 5400 }).2.2 _ ?_
  intro setting v hmem
  have htimeout : setting = .timeout ∧ v = .string "90m" := by
    cases setting <;> simp_all [Setting.name]
  obtain ⟨rfl, rfl⟩ := htimeout
  exact .inr ⟨rfl, "90m", rfl, by decide⟩

end Settings

end EntitlementClient
