import EntitlementClient.Body
import EntitlementClient.Proofs.Wire.Case
import EntitlementClient.Proofs.Wire.Keys

/-!
# `EntitlementClient.Proofs.Wire.RoundTrip`: which values are read back exactly

Names change twice on their way: what the server sends is turned into snake case and back
when it is sent again, and what a caller names is turned into camel case and back when the
server echoes it. Both trips are exact for some names only, and the theorems here say for
which.

A value of the server comes back exactly when every name in it, at any depth, is in camel
case (`keysToWire_keysFromWire_iff`). Options come back exactly when each of them is in
plain snake case and no name in their values has a capital (`keysFromWire_mapFields_iff`):
the values are sent as they are, so their names make half of the trip only.

The forms of names are those of `Proofs.Wire.Case`. That no other name comes back needs no
comparison of names before and after: what a trip leads to has the form, and a value that
comes back is what the trip leads to.
-/

set_option autoImplicit false

namespace EntitlementClient

open Wire

namespace Json

/-! ### Values of the server -/

/-- The names of a value in snake case are in ASCII and have no capital. -/
theorem hasNoCapital_names_keysFromWire {v : Json} (hascii : ∀ name ∈ v.names, IsAscii name) :
    ∀ name ∈ v.keysFromWire.names, HasNoCapital name := by
  intro name hname
  obtain ⟨old, hold, rfl⟩ := mem_names_mapKeys hname
  exact hasNoCapital_toSnake (hascii old hold)

/-- A value whose names have no capital is its own form in snake case. Without a capital there is
nothing to change. -/
theorem keysFromWire_eq_self {v : Json} (hwell : v.WellFormed)
    (hascii : ∀ name ∈ v.names, IsAscii name)
    (h : ∀ name ∈ v.names, HasNoCapital name) : v.keysFromWire = v :=
  mapKeys_eq_self hwell fun name hname => toSnake_eq_self (hascii name hname) (h name hname)

/-- Take a value in which no object names a member twice and all names are in ASCII.
Turning its names into snake case and back into camel case gives the value, with its
members in their order, exactly when each name at any depth has no underscore and does not
begin with a capital. -/
theorem keysToWire_keysFromWire_iff {v : Json} (hwell : v.WellFormed)
    (hascii : ∀ name ∈ v.names, IsAscii name) :
    v.keysFromWire.keysToWire = v ↔ ∀ name ∈ v.names, IsCamel name := by
  constructor
  · intro h
    -- Each name of the value is one that the trip leads to.
    have himage : ∀ name ∈ v.names, ∃ old ∈ v.names, name = toCamel (toSnake old) := by
      intro name hname
      rw [← h] at hname
      obtain ⟨snake, hsnake, rfl⟩ := mem_names_mapKeys hname
      obtain ⟨old, hold, rfl⟩ := mem_names_mapKeys hsnake
      exact ⟨old, hold, rfl⟩
    have hunderscore : ∀ name ∈ v.names, '_' ∉ name.toList := by
      intro name hname
      obtain ⟨old, hold, rfl⟩ := himage name hname
      exact underscore_not_mem_toCamel (isAscii_toSnake (hascii old hold))
    intro name hname
    obtain ⟨old, hold, heq⟩ := himage name hname
    -- The old name is a name of the value too, so it has no underscore that could raise the head.
    have hhead := isUpper_head_toCamel (hascii old hold) (hunderscore old hold)
    exact ⟨hunderscore name hname, heq ▸ hhead⟩
  · intro h
    exact mapKeys_mapKeys_eq_self hwell fun name hname =>
      toCamel_toSnake (hascii name hname) (h name hname)

/-- A consumer with names of several words, a run of capitals, a digit, and an empty name
comes back. -/
theorem keysToWire_keysFromWire_consumer :
    let consumer : Json := .object [("idCert", .object [("cert", .string "C"), ("", .null)]),
      ("installedProducts", .array [.object [("productID2x", ofNat 1)]])]
    consumer.WellFormed ∧ (∀ name ∈ consumer.names, IsAscii name) ∧
      (∀ name ∈ consumer.names, IsCamel name) ∧ consumer.keysFromWire.keysToWire = consumer := by
  intro consumer
  have hwell : consumer.WellFormed := by decide +kernel
  have hascii : ∀ name ∈ consumer.names, IsAscii name := by decide +kernel
  have hcamel : ∀ name ∈ consumer.names, IsCamel name := by decide +kernel
  exact ⟨hwell, hascii, hcamel, (keysToWire_keysFromWire_iff hwell hascii).mpr hcamel⟩

end Json

/-! ### Options of a caller -/

namespace OptionSet

/-- Options that are named in plain snake case stay apart in camel case, and keep their order. -/
theorem entries_mapFields {options : OptionSet}
    (h : ∀ key ∈ options.keys, toSnake (toCamel key) = key) :
    (options.mapFields none).entries = options.entries.map fun p => (toCamel p.1, p.2) := by
  have hapart := Json.nodup_map_of_back options.nodup_keys h
  have hnames : (options.entries.map fun p => (toCamel p.1, p.2)).map Prod.fst =
      options.keys.map toCamel := by
    rw [OrderedMap.keys, List.map_map, List.map_map]
    rfl
  exact OrderedMap.entries_ofList (hnames ▸ hapart)

/-- The fields that are mapped for the wire come back with the names that snake case gives
them. -/
theorem keysFromWire_mapFields (options : OptionSet) :
    (options.mapFields none).toJson.keysFromWire =
      .ofMap (.ofList ((options.mapFields none).entries.map (Json.renameMember toSnake))) :=
  Json.mapKeys_object _

/-- If the options come back, each of them is what the trip makes of one of them, with its name
and its value. -/
theorem exists_of_keysFromWire_mapFields {options : OptionSet}
    (h : (options.mapFields none).toJson.keysFromWire = .ofMap options)
    {p : String × Json} (hp : p ∈ options.entries) :
    ∃ q ∈ options.entries, p = (toSnake (toCamel q.1), q.2.keysFromWire) := by
  rw [keysFromWire_mapFields, Json.ofMap, Json.ofMap, Json.object.injEq] at h
  rw [← h] at hp
  obtain ⟨camel, hcamel, rfl⟩ := List.mem_map.mp (OrderedMap.mem_of_mem_entries_ofList hp)
  obtain ⟨q, hq, rfl⟩ := List.mem_map.mp (OrderedMap.mem_of_mem_entries_ofList hcamel)
  exact ⟨q, hq, rfl⟩

/-- Options come back when their names are read back and their values are in snake case already.
-/
theorem keysFromWire_mapFields_eq {options : OptionSet}
    (hback : ∀ key ∈ options.keys, toSnake (toCamel key) = key)
    (hvalues : ∀ p ∈ options.entries, p.2.keysFromWire = p.2) :
    (options.mapFields none).toJson.keysFromWire = .ofMap options := by
  have hentries : (options.mapFields none).entries.map (Json.renameMember toSnake) =
      options.entries := by
    rw [entries_mapFields hback, List.map_map]
    refine Json.map_eq_self fun p hp => ?_
    show (toSnake (toCamel p.1), p.2.keysFromWire) = p
    rw [hback p.1 (List.mem_map_of_mem hp), hvalues p hp]
  rw [keysFromWire_mapFields, hentries, Json.ofMap, Json.ofMap,
    OrderedMap.entries_ofList options.nodup]

/-- Take options whose values name no member twice, and whose names are in ASCII, at the
top and at any depth. The object that they are sent as, with its names turned into snake
case again, is the object of the options, in their order, exactly when

* each option has no capital, does not begin with an underscore, and has a small letter
  after each underscore, and
* no name in the values has a capital. -/
theorem keysFromWire_mapFields_iff {options : OptionSet}
    (hwell : (Json.ofMap options).WellFormed)
    (hascii : ∀ name ∈ (Json.ofMap options).names, IsAscii name) :
    (options.mapFields none).toJson.keysFromWire = .ofMap options ↔
      (∀ key ∈ options.keys, IsSnake key) ∧
        ∀ p ∈ options.entries, ∀ name ∈ p.2.names, HasNoCapital name := by
  have hkeys : ∀ p ∈ options.entries, IsAscii p.1 := fun p hp =>
    hascii p.1 (Json.mem_names_object.mpr ⟨p, hp, Or.inl rfl⟩)
  have hnames : ∀ p ∈ options.entries, ∀ name ∈ p.2.names, IsAscii name := fun p hp name hname =>
    hascii name (Json.mem_names_object.mpr ⟨p, hp, Or.inr hname⟩)
  -- What comes back has come out of snake case, so it has its form.
  constructor
  · intro h
    constructor
    · intro key hkey
      obtain ⟨p, hp, rfl⟩ := List.mem_map.mp hkey
      obtain ⟨q, hq, rfl⟩ := exists_of_keysFromWire_mapFields h hp
      exact isSnake_toSnake (isAscii_toCamel (hkeys q hq)) (underscore_not_mem_toCamel (hkeys q hq))
    · intro p hp
      obtain ⟨q, hq, rfl⟩ := exists_of_keysFromWire_mapFields h hp
      exact Json.hasNoCapital_names_keysFromWire (hnames q hq)
  · rintro ⟨hsnake, hcapital⟩
    refine keysFromWire_mapFields_eq (fun key hkey => ?_) fun p hp => ?_
    · obtain ⟨p, hp, rfl⟩ := List.mem_map.mp hkey
      exact toSnake_toCamel (hkeys p hp) (hsnake p.1 hkey)
    · exact Json.keysFromWire_eq_self ((Json.wellFormed_object.mp hwell).2 p hp) (hnames p hp)
        (hcapital p hp)

/-- The options of an owner come back, with names in their values that would not come back
as options. -/
theorem keysFromWire_mapFields_owner :
    let options : OptionSet := .ofList [("display_name", .string "Admin"), ("parent_owner", .null),
      ("facts", .object [("cpu_", .ofNat 4), ("_2", .null)])]
    (Json.ofMap options).WellFormed ∧ (∀ name ∈ (Json.ofMap options).names, IsAscii name) ∧
      (options.mapFields none).toJson.keysFromWire = .ofMap options := by
  intro options
  have hwell : (Json.ofMap options).WellFormed := by decide +kernel
  have hascii : ∀ name ∈ (Json.ofMap options).names, IsAscii name := by decide +kernel
  refine ⟨hwell, hascii, (keysFromWire_mapFields_iff hwell hascii).mpr ⟨?_, ?_⟩⟩
  · decide +kernel
  · decide +kernel

end OptionSet

end EntitlementClient
