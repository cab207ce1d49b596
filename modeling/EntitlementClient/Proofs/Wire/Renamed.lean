import EntitlementClient.Proofs.OrderedMap
import EntitlementClient.Proofs.Wire.RoundTrip

/-!
# `EntitlementClient.Proofs.Wire.Renamed`: what becomes of each member

Renaming can give several members of an object one name. `Json.Renames` says what is asked
of a renamed value, by the kinds of values: a list keeps its length and its order, and an
object has each new name once, at its first place, with the value of the last member that
the name stands for (`Json.lastRenamed?`).

A value has one such form (`Renames.unique`), and `Json.mapKeys` gives it
(`renames_mapKeys`). `Json.keysFromWire_renames` says so for the names of the server, and
that a value with names in ASCII is not changed by a second renaming, whether names met in
the first one or not.
-/

set_option autoImplicit false

namespace EntitlementClient.Json

variable {rename : String → String}

/-! ### Members with one new name -/

/-- The last member whose new name is `name`. -/
def lastRenamed? (rename : String → String) (name : String) (members : List (String × Json)) :
    Option (String × Json) :=
  (members.filter fun member => rename member.1 = name).getLast?

/-- The last member of a new name is the first one from behind. -/
theorem lastRenamed?_eq_find? (name : String) (members : List (String × Json)) :
    lastRenamed? rename name members =
      members.reverse.find? fun member => rename member.1 = name := by
  rw [lastRenamed?, List.getLast?_eq_head?_reverse, ← List.filter_reverse, List.head?_filter]

/-- The last member of a name is a member and has the name. -/
theorem lastRenamed?_eq_some {name : String} {members : List (String × Json)}
    {member : String × Json} (h : lastRenamed? rename name members = some member) :
    member ∈ members ∧ rename member.1 = name := by
  have hmem := List.mem_filter.mp (List.mem_of_getLast? h)
  exact ⟨hmem.1, of_decide_eq_true hmem.2⟩

/-- Each new name has a last member. -/
theorem exists_lastRenamed? {name : String} {members : List (String × Json)}
    (h : name ∈ members.map fun member => rename member.1) :
    ∃ member, lastRenamed? rename name members = some member := by
  obtain ⟨member, hmember, rfl⟩ := List.mem_map.mp h
  have hne : (members.filter fun other => rename other.1 = rename member.1) ≠ [] :=
    List.ne_nil_of_mem (List.mem_filter.mpr ⟨hmember, decide_eq_true rfl⟩)
  exact ⟨_, List.getLast?_eq_some_getLast hne⟩

/-- The first of renamed members that has a name is what the first one with that new name
becomes. -/
theorem lookup_map_renameMember (name : String) (members : List (String × Json)) :
    (members.map (renameMember rename)).lookup name =
      (members.find? fun member => rename member.1 = name).map fun member =>
        member.2.mapKeys rename := by
  induction members with
  | nil => rfl
  | cons member rest ih =>
    rw [List.map_cons, renameMember, List.lookup_cons, List.find?_cons]
    by_cases hname : rename member.1 = name
    · subst hname
      simp
    · have hname' : (name == rename member.1) = false := by simpa using Ne.symm hname
      rw [hname', decide_eq_false hname]
      exact ih

/-- A name of a renamed object has the value of the last member that it stands for. The names that
meet in it are set one after the other. -/
theorem get?_renamed (name : String) (members : List (String × Json)) :
    (OrderedMap.ofList (members.map (renameMember rename))).get? name =
      (lastRenamed? rename name members).map fun member => member.2.mapKeys rename := by
  rw [OrderedMap.ofList, OrderedMap.get?_insertAll_eq_lookup, ← List.map_reverse,
    lookup_map_renameMember, lastRenamed?_eq_find?]
  exact Option.or_none

/-! ### Renamed values -/

/-- The second value is the first one with its names changed by `rename`. -/
inductive Renames (rename : String → String) : Json → Json → Prop where
  | null : Renames rename .null .null
  | bool (b : Bool) : Renames rename (.bool b) (.bool b)
  | number (n : Number) : Renames rename (.number n) (.number n)
  | string (s : String) : Renames rename (.string s) (.string s)
  /-- There are as many elements, each renamed at its place. -/
  | array {items renamed : List Json} (hlength : renamed.length = items.length)
      (hitems : ∀ (i : Nat) (v w : Json), items[i]? = some v → renamed[i]? = some w →
        Renames rename v w) :
      Renames rename (.array items) (.array renamed)
  /-- Each new name stands once, where it is first met, and has the last value. -/
  | object {members renamed : List (String × Json)}
      (hnames : renamed.map Prod.fst = (members.map fun member => rename member.1).eraseDups)
      (hvalues : ∀ (name old : String) (v w : Json), (name, w) ∈ renamed →
        lastRenamed? rename name members = some (old, v) → Renames rename v w) :
      Renames rename (.object members) (.object renamed)

/-- Renaming gives the renamed value, as `Renames` describes it. The recursion is that of the
value. -/
theorem renames_mapKeys (v : Json) : Renames rename v (v.mapKeys rename) := by
  induction v using inductionOn with
  | null => exact .null
  | bool b => exact .bool b
  | number n => exact .number n
  | string s => exact .string s
  | array items ih =>
    rw [mapKeys_array]
    refine .array (List.length_map _) fun i v w hv hw => ?_
    rw [List.getElem?_map, hv, Option.map_some, Option.some.injEq] at hw
    subst hw
    exact ih v (List.mem_of_getElem? hv)
  | object members ih =>
    rw [mapKeys_object, ofMap]
    refine .object ?_ fun name old v w hw hlast => ?_
    · show (OrderedMap.ofList _).keys = _
      rw [OrderedMap.keys_ofList, List.map_map]
      rfl
    · -- The name has one value, and that is what the last of its members becomes.
      have hvalue := OrderedMap.get?_eq_some_iff.mpr hw
      rw [get?_renamed, hlast, Option.map_some, Option.some.injEq] at hvalue
      subst hvalue
      exact ih (old, v) (lastRenamed?_eq_some hlast).1

/-- There is one renamed value, so `Renames` says all about it. -/
theorem Renames.unique {v w w' : Json} (h : Renames rename v w) (h' : Renames rename v w') :
    w = w' := by
  induction v using inductionOn generalizing w w' with
  | null | bool | number | string =>
    cases h
    cases h'
    rfl
  | array items ih =>
    obtain _ | _ | _ | _ | ⟨hlength, hitems⟩ := h
    obtain _ | _ | _ | _ | ⟨hlength', hitems'⟩ := h'
    rw [array.injEq]
    refine List.ext_getElem (hlength.trans hlength'.symm) fun i hi hi' => ?_
    have hv := List.getElem?_eq_getElem (l := items) (i := i) (hlength ▸ hi)
    exact ih _ (List.getElem_mem _) (hitems i _ _ hv (List.getElem?_eq_getElem hi))
      (hitems' i _ _ hv (List.getElem?_eq_getElem hi'))
  | object members ih =>
    obtain _ | _ | _ | _ | _ | @⟨_, renamed, hnames, hvalues⟩ := h
    obtain _ | _ | _ | _ | _ | @⟨_, renamed', hnames', hvalues'⟩ := h'
    have hsame := hnames.trans hnames'.symm
    rw [object.injEq]
    refine List.ext_getElem (by simpa using congrArg List.length hsame) fun i hi hi' => ?_
    have hname := List.getElem_of_eq hsame (i := i) (by simpa using hi)
    rw [List.getElem_map, List.getElem_map] at hname
    -- Both values belong to the last member of the name, which there is.
    have hmem : renamed[i].1 ∈ members.map fun member => rename member.1 := by
      rw [← List.mem_eraseDups, ← hnames]
      exact List.mem_map_of_mem (List.getElem_mem hi)
    obtain ⟨last, hlast⟩ := exists_lastRenamed? hmem
    exact Prod.ext hname (ih last (lastRenamed?_eq_some hlast).1
      (hvalues _ last.1 _ _ (List.getElem_mem hi) hlast)
      (hvalues' _ last.1 _ _ (List.getElem_mem hi') (hname ▸ hlast)))

/-! ### Values of the server -/

/-- Take any value. The value with its names in snake case is the one that has

* the same scalars, and lists of the same length with their elements in the same order, and
* objects in which the snake case of each name stands once, where it is first met, with
  what becomes of the last value that was under a name of that snake case.

When the names of the value are in ASCII, a second change to snake case changes nothing. -/
theorem keysFromWire_renames (v : Json) :
    (∀ w, v.keysFromWire = w ↔ Renames Wire.toSnake v w) ∧
      ((∀ name ∈ v.names, Wire.IsAscii name) → v.keysFromWire.keysFromWire = v.keysFromWire) := by
  have hrenames : Renames Wire.toSnake v v.keysFromWire := renames_mapKeys v
  refine ⟨fun w => ?_, fun hascii => ?_⟩
  · constructor
    · rintro rfl
      exact hrenames
    · exact hrenames.unique
  · refine keysFromWire_eq_self (wellFormed_keysFromWire v) (fun name hname => ?_)
      (hasNoCapital_names_keysFromWire hascii)
    obtain ⟨old, hold, rfl⟩ := mem_names_mapKeys hname
    exact Wire.isAscii_toSnake (hascii old hold)

/-- Facts under three names, two of which meet. The name that is left stands where the
first of them was and has the value of the second, and a second change leaves all of it as
it is. -/
theorem keysFromWire_renames_meeting :
    let facts : Json := .object [("cpuCores", .ofNat 4), ("net", .array [.object [("_a", .null)]]),
      ("cpu_cores", .object [("perSocket", .ofNat 2), ("per_Socket", .null)])]
    let renamed : Json := .object [("cpu_cores",
        .object [("per_socket", .ofNat 2), ("per__socket", .null)]),
      ("net", .array [.object [("_a", .null)]])]
    (∀ name ∈ facts.names, Wire.IsAscii name) ∧ Renames Wire.toSnake facts renamed ∧
      renamed.keysFromWire = renamed := by
  intro facts renamed
  have hascii : ∀ name ∈ facts.names, Wire.IsAscii name := by decide +kernel
  have hrenamed : facts.keysFromWire = renamed := by decide +kernel
  obtain ⟨hrenames, hagain⟩ := keysFromWire_renames facts
  refine ⟨hascii, (hrenames renamed).mp hrenamed, ?_⟩
  rw [← hrenamed]
  exact hagain hascii

end EntitlementClient.Json
