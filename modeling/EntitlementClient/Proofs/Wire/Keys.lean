import EntitlementClient.Proofs.OrderedMap
import EntitlementClient.Wire.Keys

/-!
# `EntitlementClient.Proofs.Wire.Keys`: what renaming does to a value

`Json.names` are the names of the members of a value, at any depth. Renaming gives a
well-formed value (`wellFormed_mapKeys`) that has no other names than the renamed ones
(`mem_names_mapKeys`), also where members become one. A well-formed value whose names all
stay is left alone (`mapKeys_eq_self`), and one whose names a second renaming gives back
is given back (`mapKeys_mapKeys_eq_self`), with its members in their order.

`Json.inductionOn` is the induction that these use: over the elements of a list and the
members of an object.
-/

set_option autoImplicit false

namespace EntitlementClient.Json

/-! ### Induction on values -/

/-- What holds of scalars, of a list when it holds of its elements, and of an object when
it holds of the values of its members, holds of every value. -/
theorem inductionOn {P : Json → Prop} (v : Json) (null : P .null) (bool : ∀ b, P (.bool b))
    (number : ∀ n, P (.number n)) (string : ∀ s, P (.string s))
    (array : ∀ items, (∀ item ∈ items, P item) → P (.array items))
    (object : ∀ members, (∀ member ∈ members, P member.2) → P (.object members)) : P v :=
  match v with
  | .null => null
  | .bool b => bool b
  | .number n => number n
  | .string s => string s
  | .array items => array items fun item hitem =>
    have hsmaller := List.sizeOf_lt_of_mem hitem
    inductionOn item null bool number string array object
  | .object members => object members fun member hmember =>
    have hsmaller := List.sizeOf_lt_of_mem hmember
    have hvalue : sizeOf member.2 < sizeOf member := by
      obtain ⟨name, value⟩ := member
      show sizeOf value < sizeOf (name, value)
      rw [Prod.mk.sizeOf_spec]
      omega
    inductionOn member.2 null bool number string array object
termination_by sizeOf v
decreasing_by
  all_goals
    simp only [Json.array.sizeOf_spec, Json.object.sizeOf_spec]
    omega

/-! ### Names -/

mutual

/-- The names of the members of a value, at any depth. -/
def names : Json → List String
  | .array items => namesItems items
  | .object members => namesMembers members
  | _ => []

/-- The names in the elements of a list. -/
def namesItems : List Json → List String
  | [] => []
  | v :: rest => v.names ++ namesItems rest

/-- The names of members and in their values. -/
def namesMembers : List (String × Json) → List String
  | [] => []
  | (name, v) :: rest => name :: (v.names ++ namesMembers rest)

end

/-- The names of an array are those of its items. -/
@[simp] theorem mem_names_array {items : List Json} {name : String} :
    name ∈ (array items).names ↔ ∃ item ∈ items, name ∈ item.names := by
  rw [names]
  induction items with
  | nil => simp [namesItems]
  | cons item rest ih => simp [namesItems, ih]

/-- The names of an object are those of its members, and those of the values of its members. -/
@[simp] theorem mem_names_object {members : List (String × Json)} {name : String} :
    name ∈ (object members).names ↔
      ∃ member ∈ members, name = member.1 ∨ name ∈ member.2.names := by
  rw [names]
  induction members with
  | nil => simp [namesMembers]
  | cons member rest ih => simp [namesMembers, ih, or_assoc]

/-- What holds of the names of a list holds of those of each element. -/
theorem forall_names_array {P : String → Prop} {items : List Json} :
    (∀ name ∈ (array items).names, P name) ↔ ∀ item ∈ items, ∀ name ∈ item.names, P name := by
  constructor
  · exact fun h item hitem name hname => h name (mem_names_array.mpr ⟨item, hitem, hname⟩)
  · intro h name hname
    obtain ⟨item, hitem, hname⟩ := mem_names_array.mp hname
    exact h item hitem name hname

/-- What holds of the names of an object holds of those of its members and of their values. -/
theorem forall_names_object {P : String → Prop} {members : List (String × Json)} :
    (∀ name ∈ (object members).names, P name) ↔
      (∀ member ∈ members, P member.1) ∧
        ∀ member ∈ members, ∀ name ∈ member.2.names, P name := by
  constructor
  · intro h
    refine ⟨fun member hmember => ?_, fun member hmember name hname => ?_⟩
    · exact h member.1 (mem_names_object.mpr ⟨member, hmember, Or.inl rfl⟩)
    · exact h name (mem_names_object.mpr ⟨member, hmember, Or.inr hname⟩)
  · rintro ⟨hmembers, hvalues⟩ name hname
    obtain ⟨member, hmember, rfl | hname⟩ := mem_names_object.mp hname
    · exact hmembers member hmember
    · exact hvalues member hmember name hname

/-- An array is well formed when its items are. -/
@[simp] theorem wellFormed_array {items : List Json} :
    (array items).WellFormed ↔ ∀ item ∈ items, item.WellFormed := by
  rw [WellFormed]
  induction items with
  | nil => simp [WellFormedItems]
  | cons item rest ih => simp [WellFormedItems, ih]

/-- An object is well formed when it names every member once and the values are well formed. -/
@[simp] theorem wellFormed_object {members : List (String × Json)} :
    (object members).WellFormed ↔
      (members.map Prod.fst).Nodup ∧ ∀ member ∈ members, member.2.WellFormed := by
  have hmembers : WellFormedMembers members ↔ ∀ member ∈ members, member.2.WellFormed := by
    induction members with
    | nil => simp [WellFormedMembers]
    | cons member rest ih => rw [WellFormedMembers, ih, List.forall_mem_cons]
  rw [WellFormed, hmembers]

mutual

/-- Whether a value is well formed can be decided. -/
def decWellFormed : (v : Json) → Decidable v.WellFormed
  | .array items => decWellFormedItems items
  | .object members =>
    have := decWellFormedMembers members
    inferInstanceAs (Decidable ((members.map Prod.fst).Nodup ∧ WellFormedMembers members))
  | .null | .bool _ | .number _ | .string _ => isTrue trivial

/-- Whether every value of a list is well formed can be decided. -/
def decWellFormedItems : (items : List Json) → Decidable (WellFormedItems items)
  | [] => isTrue trivial
  | v :: rest =>
    have := decWellFormed v
    have := decWellFormedItems rest
    inferInstanceAs (Decidable (v.WellFormed ∧ WellFormedItems rest))

/-- Whether the value of every member is well formed can be decided. -/
def decWellFormedMembers : (members : List (String × Json)) → Decidable (WellFormedMembers members)
  | [] => isTrue trivial
  | (_, v) :: rest =>
    have := decWellFormed v
    have := decWellFormedMembers rest
    inferInstanceAs (Decidable (v.WellFormed ∧ WellFormedMembers rest))

end

instance : DecidablePred WellFormed := decWellFormed

/-! ### Renaming -/

/-- A list whose elements are each mapped to themselves is left as it is. -/
theorem map_eq_self {α : Type} {f : α → α} {l : List α} (h : ∀ a ∈ l, f a = a) : l.map f = l :=
  (List.map_congr_left h).trans (List.map_id l)

variable {rename back : String → String}

/-- What a second function gives back stays apart on the way: two elements that met could not both
come back. -/
theorem nodup_map_of_back {α β : Type} {f : α → β} {g : β → α} {l : List α} (hl : l.Nodup)
    (h : ∀ a ∈ l, g (f a) = a) : (l.map f).Nodup := by
  have hback : (l.map f).map g = l := by
    rw [List.map_map]
    exact map_eq_self h
  exact List.Pairwise.of_map g (fun _ _ hne heq => hne (congrArg g heq)) (hback.symm ▸ hl)

/-- A member with its name changed, and the names in its value. -/
def renameMember (rename : String → String) (member : String × Json) : String × Json :=
  (rename member.1, member.2.mapKeys rename)

/-- The names in an array are changed item by item. -/
@[simp] theorem mapKeys_array (items : List Json) :
    (array items).mapKeys rename = array (items.map (mapKeys rename)) := by
  rw [mapKeys]
  induction items with
  | nil => rfl
  | cons item rest ih =>
    rw [array.injEq] at ih
    rw [mapKeysItems, ih, List.map_cons]

/-- The members of an object get their new names one after the other. Where two of them
come to have the same name, the later value takes the place of the earlier one. -/
@[simp] theorem mapKeys_object (members : List (String × Json)) :
    (object members).mapKeys rename = ofMap (.ofList (members.map (renameMember rename))) := by
  have hmembers : mapKeysMembers rename members = members.map (renameMember rename) := by
    induction members with
    | nil => rfl
    | cons member rest ih => rw [mapKeysMembers, ih, List.map_cons, renameMember]
  rw [mapKeys, hmembers]

/-- An object whose names stay apart keeps its members in their order, with their new names. -/
theorem mapKeys_object_of_nodup {members : List (String × Json)}
    (h : ((members.map Prod.fst).map rename).Nodup) :
    (object members).mapKeys rename = object (members.map (renameMember rename)) := by
  have hnames : (members.map (renameMember rename)).map Prod.fst =
      (members.map Prod.fst).map rename := by
    rw [List.map_map, List.map_map]
    rfl
  rw [mapKeys_object, ofMap, OrderedMap.entries_ofList (hnames ▸ h)]

/-- Renaming gives a well-formed value, whatever value it was: names that become equal are one
member. -/
theorem wellFormed_mapKeys (rename : String → String) (v : Json) :
    (v.mapKeys rename).WellFormed := by
  induction v using inductionOn with
  | null | bool | number | string => trivial
  | array items ih =>
    rw [mapKeys_array, wellFormed_array]
    intro item hitem
    obtain ⟨source, hsource, rfl⟩ := List.mem_map.mp hitem
    exact ih source hsource
  | object members ih =>
    rw [mapKeys_object, ofMap, wellFormed_object]
    -- The members of the map are among the renamed ones, not all of them if names meet.
    refine ⟨OrderedMap.nodup _, fun member hmember => ?_⟩
    obtain ⟨source, hsource, rfl⟩ :=
      List.mem_map.mp (OrderedMap.mem_of_mem_entries_ofList hmember)
    exact ih source hsource

/-- A value with the keys of the client names every member once, however the keys of the
wire met. -/
theorem wellFormed_keysFromWire (v : Json) : v.keysFromWire.WellFormed := wellFormed_mapKeys _ v

/-- A renamed value has renamed names only. -/
theorem mem_names_mapKeys {v : Json} {name : String} (h : name ∈ (v.mapKeys rename).names) :
    ∃ old ∈ v.names, name = rename old := by
  induction v using inductionOn with
  | null | bool | number | string => cases h
  | array items ih =>
    rw [mapKeys_array, mem_names_array] at h
    obtain ⟨item, hitem, hname⟩ := h
    obtain ⟨source, hsource, rfl⟩ := List.mem_map.mp hitem
    obtain ⟨old, hold, heq⟩ := ih source hsource hname
    exact ⟨old, mem_names_array.mpr ⟨source, hsource, hold⟩, heq⟩
  | object members ih =>
    rw [mapKeys_object, ofMap, mem_names_object] at h
    obtain ⟨member, hmember, hname⟩ := h
    obtain ⟨source, hsource, rfl⟩ :=
      List.mem_map.mp (OrderedMap.mem_of_mem_entries_ofList hmember)
    rcases hname with hname | hname
    · exact ⟨source.1, mem_names_object.mpr ⟨source, hsource, Or.inl rfl⟩, hname⟩
    · obtain ⟨old, hold, heq⟩ := ih source hsource hname
      exact ⟨old, mem_names_object.mpr ⟨source, hsource, Or.inr hold⟩, heq⟩

/-- A well-formed value whose names all stay is left alone. The induction goes over the value. -/
theorem mapKeys_eq_self {v : Json} (hwell : v.WellFormed)
    (h : ∀ name ∈ v.names, rename name = name) : v.mapKeys rename = v := by
  induction v using inductionOn with
  | null | bool | number | string => rfl
  | array items ih =>
    rw [wellFormed_array] at hwell
    rw [mapKeys_array, array.injEq]
    refine map_eq_self fun item hitem => ?_
    exact ih item hitem (hwell item hitem) (forall_names_array.mp h item hitem)
  | object members ih =>
    rw [wellFormed_object] at hwell
    obtain ⟨hmembers, hvalues⟩ := forall_names_object.mp h
    have hnames : (members.map Prod.fst).map rename = members.map Prod.fst := by
      refine map_eq_self fun name hname => ?_
      obtain ⟨member, hmember, rfl⟩ := List.mem_map.mp hname
      exact hmembers member hmember
    rw [mapKeys_object_of_nodup (hnames.symm ▸ hwell.1), object.injEq]
    refine map_eq_self fun member hmember => ?_
    have hvalue : member.2.mapKeys rename = member.2 :=
      ih member hmember (hwell.2 member hmember) (hvalues member hmember)
    rw [renameMember, hmembers member hmember, hvalue]

/-- A well-formed value is given back by a second renaming that gives all of its names back. On
the way no two names of an object meet. -/
theorem mapKeys_mapKeys_eq_self {v : Json} (hwell : v.WellFormed)
    (h : ∀ name ∈ v.names, back (rename name) = name) :
    (v.mapKeys rename).mapKeys back = v := by
  induction v using inductionOn with
  | null | bool | number | string => rfl
  | array items ih =>
    rw [wellFormed_array] at hwell
    rw [mapKeys_array, mapKeys_array, List.map_map, array.injEq]
    refine map_eq_self fun item hitem => ?_
    exact ih item hitem (hwell item hitem) (forall_names_array.mp h item hitem)
  | object members ih =>
    rw [wellFormed_object] at hwell
    obtain ⟨hmembers, hvalues⟩ := forall_names_object.mp h
    have hnames : ∀ name ∈ members.map Prod.fst, back (rename name) = name := by
      intro name hname
      obtain ⟨member, hmember, rfl⟩ := List.mem_map.mp hname
      exact hmembers member hmember
    -- Names that are given back do not meet on the way, so no member is lost.
    have hapart := nodup_map_of_back hwell.1 hnames
    have hrenamed : ((members.map (renameMember rename)).map Prod.fst).map back =
        members.map Prod.fst := by
      rw [List.map_map, List.map_map]
      exact List.map_congr_left fun member hmember => hnames member.1 (List.mem_map_of_mem hmember)
    rw [mapKeys_object_of_nodup hapart, mapKeys_object_of_nodup (hrenamed ▸ hwell.1),
      List.map_map, object.injEq]
    refine map_eq_self fun member hmember => ?_
    have hvalue : (member.2.mapKeys rename).mapKeys back = member.2 :=
      ih member hmember (hwell.2 member hmember) (hvalues member hmember)
    show (back (rename member.1), (member.2.mapKeys rename).mapKeys back) = member
    rw [hmembers member hmember, hvalue]

end EntitlementClient.Json
