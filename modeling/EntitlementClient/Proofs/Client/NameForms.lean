import EntitlementClient.Proofs.Client.Registration
import EntitlementClient.Proofs.Wire.Preimage
import EntitlementClient.Proofs.Wire.Renamed

/-!
# `EntitlementClient.Proofs.Client.NameForms`: an identity in both forms of names

The reply to a registration has the names of the server, and what callers see of it has
them in snake case. `RegistrationIdentity.ofJson_keysFromWire` says that the identity is
the same in both, or there is none in either.

Renaming can make a name that is read out of one that is not, and can make one member of
two. What rules it out is that only the head of a name can hide a capital
(`Proofs.Wire.Preimage`), so no name may begin with one, and that the texts do not stand
under both of their names.
-/

set_option autoImplicit false

namespace EntitlementClient

open OrderedMap (findEntry findEntry_eq_none_iff findEntry_eq_some_iff filter_eq_findEntry)
open Wire (HasNoCapitalHead toSnake eq_of_toSnake_eq toSnake_eq_id_cert_iff)

/-! ### Members after renaming -/

namespace Json

/-- A member whose new name no other member gets is found under it with what becomes of its value.
-/
theorem findEntry_renamed {rename : String → String} {members : List (String × Json)}
    {name old : String} (hnodup : (members.map Prod.fst).Nodup)
    (h : ∀ member ∈ members, rename member.1 = name ↔ member.1 = old) :
    findEntry name (OrderedMap.ofList (members.map (renameMember rename))).entries =
      (findEntry old members).map (mapKeys rename) := by
  show (OrderedMap.ofList (members.map (renameMember rename))).get? name = _
  have hfilter : (members.filter fun member => rename member.1 = name) =
      members.filter fun member => member.1 = old :=
    List.filter_congr fun member hmember => decide_eq_decide.mpr (h member hmember)
  rw [get?_renamed, lastRenamed?, hfilter, filter_eq_findEntry hnodup]
  cases findEntry old members with
  | none => rfl
  | some v => rfl

/-- A name that no member gets is not found among the renamed members. -/
theorem findEntry_renamed_eq_none {rename : String → String} {members : List (String × Json)}
    {name : String} (h : ∀ member ∈ members, rename member.1 ≠ name) :
    findEntry name (OrderedMap.ofList (members.map (renameMember rename))).entries = none := by
  rw [findEntry_eq_none_iff]
  show name ∉ (OrderedMap.ofList (members.map (renameMember rename))).keys
  rw [OrderedMap.mem_keys_ofList, List.map_map]
  intro hmem
  obtain ⟨member, hmember, hname⟩ := List.mem_map.mp hmem
  exact h member hmember hname

/-- A text or null is what becomes of itself only: a change of names keeps scalars, and makes
none. -/
theorem keysFromWire_eq_uuidValue_iff {v : Json} {s : Option String} :
    v.keysFromWire = uuidValue s ↔ v = uuidValue s := by
  cases v with
  | null | bool | number | string => exact Iff.rfl
  | array | object =>
    cases s with
    | none => exact iff_of_false (fun h => nomatch h) (fun h => nomatch h)
    | some s => exact iff_of_false (fun h => nomatch h) (fun h => nomatch h)

end Json

section

variable {members : List (String × Json)}

/-- A name without underscores that is its own snake case is read from the same member
before and after. -/
theorem findEntry_keysFromWire {name : String} (hnodup : (members.map Prod.fst).Nodup)
    (hheads : ∀ member ∈ members, HasNoCapitalHead member.1) (hname : '_' ∉ name.toList)
    (hself : toSnake name = name) :
    findEntry name (OrderedMap.ofList (members.map (Json.renameMember toSnake))).entries =
      (findEntry name members).map Json.keysFromWire := by
  refine Json.findEntry_renamed hnodup fun member hmember => ?_
  constructor
  · exact eq_of_toSnake_eq (hheads member hmember) hname
  · intro heq
    rw [heq, hself]

end

/-! ### The texts -/

namespace IdentityTexts

variable {texts : IdentityTexts}

/-- The same texts are held before and after. -/
theorem heldBy_keysFromWire {v : Json} (hwell : v.WellFormed)
    (hheads : ∀ name ∈ v.names, HasNoCapitalHead name) :
    texts.HeldBy v.keysFromWire ↔ texts.HeldBy v := by
  have hstring : ∀ {w : Json} {s : String}, w.keysFromWire = .string s ↔ w = .string s :=
    @fun w s => Json.keysFromWire_eq_uuidValue_iff (s := some s)
  cases v with
  | null | bool | number | string => exact Iff.rfl
  | array items =>
    rw [Json.keysFromWire, Json.mapKeys_array, heldBy_array_iff, heldBy_array_iff]
    match items with
    | [] => simp
    | [_] => simp
    | [cert, key] =>
      simp only [List.map_cons, List.map_nil, List.cons.injEq, and_true]
      exact and_congr hstring hstring
    | _ :: _ :: _ :: _ => simp
  | object members =>
    obtain ⟨hnodup, -⟩ := Json.wellFormed_object.mp hwell
    obtain ⟨hmembers, -⟩ := Json.forall_names_object.mp hheads
    rw [Json.keysFromWire, Json.mapKeys_object, Json.ofMap, heldBy_object_iff (OrderedMap.nodup _),
      heldBy_object_iff hnodup, findEntry_keysFromWire hnodup hmembers (by decide) (by decide),
      findEntry_keysFromWire hnodup hmembers (by decide) (by decide)]
    simp only [Option.map_eq_some_iff, hstring, exists_eq_right]

end IdentityTexts

/-! ### The identity -/

namespace RegistrationIdentity

variable {identity : RegistrationIdentity}

/-- The value under one of the names of the texts. -/
def textsValue? (members : List (String × Json)) : Option Json :=
  (findEntry "id_cert" members).or (findEntry "idCert" members)

/-- Texts are the value of a member. -/
theorem mem_of_textsValue? {members : List (String × Json)} {v : Json}
    (h : textsValue? members = some v) : ∃ name, (name, v) ∈ members := by
  rcases Option.or_eq_some_iff.mp h with h | ⟨-, h⟩
  · exact ⟨_, OrderedMap.mem_of_findEntry h⟩
  · exact ⟨_, OrderedMap.mem_of_findEntry h⟩

/-- The certificate of a consumer has two names: the one of the wire, and the one that the
keys of the client have. -/
theorem contains_textsNames_iff {name : String} :
    textsNames.contains name = true ↔ name = "id_cert" ∨ name = "idCert" := by
  rw [List.contains_iff_mem, textsNames, List.mem_cons, List.mem_singleton]

/-- Where one of the names is absent, the members with texts are those of the other name. -/
theorem textsMembers_eq_of_absent {members : List (String × Json)} {name other : String}
    (hnodup : (members.map Prod.fst).Nodup) (hother : findEntry other members = none)
    (hnames : ∀ n, textsNames.contains n = true ↔ n = name ∨ n = other) :
    textsMembers members = ((findEntry name members).map fun v => (name, v)).toList := by
  rw [textsMembers, ← filter_eq_findEntry hnodup]
  refine List.filter_congr fun member hmember => ?_
  have hne : member.1 ≠ other := fun heq =>
    findEntry_eq_none_iff.mp hother (heq ▸ List.mem_map_of_mem hmember)
  rw [Bool.eq_iff_iff, hnames, decide_eq_true_iff]
  exact or_iff_left hne

/-- An object that does not have both names has at most one member with texts. So reading them
never meets a second one. -/
theorem exists_textsMembers {members : List (String × Json)} (hnodup : (members.map Prod.fst).Nodup)
    (honce : findEntry "idCert" members = none ∨ findEntry "id_cert" members = none) :
    ∃ name, textsMembers members = ((textsValue? members).map fun v => (name, v)).toList := by
  rcases honce with hnone | hnone
  · refine ⟨"id_cert", ?_⟩
    rw [textsValue?, hnone, Option.or_none]
    exact textsMembers_eq_of_absent hnodup hnone fun n => contains_textsNames_iff
  · refine ⟨"idCert", ?_⟩
    rw [textsValue?, hnone, Option.none_or]
    exact textsMembers_eq_of_absent hnodup hnone fun n => contains_textsNames_iff.trans or_comm

/-- Among members with distinct names, of which only one names the certificate, an
identity is held exactly when a look-up of each of its parts finds that part. -/
theorem heldBy_object_iff {members : List (String × Json)} (hnodup : (members.map Prod.fst).Nodup)
    (honce : findEntry "idCert" members = none ∨ findEntry "id_cert" members = none) :
    identity.HeldBy (.object members) ↔
      (findEntry "uuid" members).getD .null = uuidValue identity.uuid ∧
        ∃ v, textsValue? members = some v ∧ identity.texts.HeldBy v := by
  obtain ⟨name, hmembers⟩ := exists_textsMembers hnodup honce
  constructor
  · rintro ⟨huuid, honly, htexts⟩
    refine ⟨huuid, ?_⟩
    rw [hmembers] at honly
    cases hvalue : textsValue? members with
    | none =>
      rw [hvalue] at honly
      cases honly
    | some v =>
      rw [hvalue] at honly
      cases honly
      exact ⟨_, rfl, htexts⟩
  · rintro ⟨huuid, v, hvalue, htexts⟩
    rw [hvalue] at hmembers
    exact .object huuid hmembers htexts

/-- An array holds an identity exactly when it is the uuid and then the certificate with
its key. -/
theorem heldBy_array_iff {items : List Json} :
    identity.HeldBy (.array items) ↔
      ∃ v, items = [uuidValue identity.uuid, v] ∧ identity.texts.HeldBy v := by
  constructor
  · rintro ⟨⟩
    exact ⟨_, rfl, ‹_›⟩
  · rintro ⟨v, rfl, htexts⟩
    exact .list htexts

/-- After a change of names there is one name of the texts, with what was under either of
the two. -/
theorem textsValue?_keysFromWire {members : List (String × Json)}
    (hnodup : (members.map Prod.fst).Nodup)
    (hheads : ∀ member ∈ members, HasNoCapitalHead member.1)
    (honce : findEntry "idCert" members = none ∨ findEntry "id_cert" members = none) :
    let renamed := (OrderedMap.ofList (members.map (Json.renameMember toSnake))).entries
    findEntry "idCert" renamed = none ∧
      textsValue? renamed = (textsValue? members).map Json.keysFromWire := by
  intro renamed
  have hcamel : findEntry "idCert" renamed = none := by
    refine Json.findEntry_renamed_eq_none fun member hmember heq => ?_
    -- Only the camel case itself could give it, but that has a capital.
    rw [eq_of_toSnake_eq (hheads member hmember) (by decide) heq] at heq
    exact absurd heq (by decide)
  refine ⟨hcamel, ?_⟩
  have hsnake : ∀ name other : String, findEntry other members = none →
      (∀ n, n = "id_cert" ∨ n = "idCert" ↔ n = name ∨ n = other) →
      findEntry "id_cert" renamed = (findEntry name members).map Json.keysFromWire := by
    intro name other hother hnames
    refine Json.findEntry_renamed hnodup fun member hmember => ?_
    have hne : member.1 ≠ other := fun heq =>
      findEntry_eq_none_iff.mp hother (heq ▸ List.mem_map_of_mem hmember)
    rw [toSnake_eq_id_cert_iff (hheads member hmember), hnames]
    exact or_iff_left hne
  rw [textsValue?, hcamel, Option.or_none, textsValue?]
  rcases honce with hnone | hnone
  · rw [hnone, Option.or_none]
    exact hsnake "id_cert" "idCert" hnone fun n => Iff.rfl
  · rw [hnone, Option.none_or]
    exact hsnake "idCert" "id_cert" hnone fun n => or_comm

/-- The same identity is held before and after. -/
theorem heldBy_keysFromWire {v : Json} (hwell : v.WellFormed)
    (hheads : ∀ name ∈ v.names, HasNoCapitalHead name)
    (honce : v.member? "idCert" = none ∨ v.member? "id_cert" = none) :
    identity.HeldBy v.keysFromWire ↔ identity.HeldBy v := by
  cases v with
  | null | bool | number | string => exact Iff.rfl
  | array items =>
    rw [Json.wellFormed_array] at hwell
    rw [Json.keysFromWire, Json.mapKeys_array, heldBy_array_iff, heldBy_array_iff]
    match items with
    | [] => simp
    | [_] => simp
    | [uuid, texts] =>
      have htexts : identity.texts.HeldBy texts.keysFromWire ↔ identity.texts.HeldBy texts :=
        IdentityTexts.heldBy_keysFromWire (hwell texts (by simp))
          (Json.forall_names_array.mp hheads texts (by simp))
      have huuid : uuid.keysFromWire = uuidValue identity.uuid ↔ uuid = uuidValue identity.uuid :=
        Json.keysFromWire_eq_uuidValue_iff
      simp only [List.map_cons, List.map_nil, List.cons.injEq, and_true]
      constructor
      · rintro ⟨_, ⟨hu, rfl⟩, hheld⟩
        exact ⟨texts, ⟨huuid.mp hu, rfl⟩, htexts.mp hheld⟩
      · rintro ⟨_, ⟨hu, rfl⟩, hheld⟩
        exact ⟨_, ⟨huuid.mpr hu, rfl⟩, htexts.mpr hheld⟩
    | _ :: _ :: _ :: _ => simp
  | object members =>
    obtain ⟨hnodup, hvalues⟩ := Json.wellFormed_object.mp hwell
    obtain ⟨hmembers, hinner⟩ := Json.forall_names_object.mp hheads
    obtain ⟨hcamel, htexts⟩ := textsValue?_keysFromWire hnodup hmembers honce
    have huuid : (findEntry "uuid" (OrderedMap.ofList
        (members.map (Json.renameMember toSnake))).entries).getD .null =
          ((findEntry "uuid" members).getD .null).keysFromWire := by
      rw [findEntry_keysFromWire hnodup hmembers (by decide) (by decide)]
      exact Option.getD_map Json.keysFromWire Json.null _
    rw [Json.keysFromWire, Json.mapKeys_object, Json.ofMap,
      heldBy_object_iff (OrderedMap.nodup _) (Or.inl hcamel), heldBy_object_iff hnodup honce, huuid,
      htexts, Json.keysFromWire_eq_uuidValue_iff]
    refine and_congr_right fun _ => ?_
    have hheld : ∀ w, textsValue? members = some w →
        (identity.texts.HeldBy w.keysFromWire ↔ identity.texts.HeldBy w) := by
      intro w hw
      obtain ⟨name, hmember⟩ := mem_of_textsValue? hw
      exact IdentityTexts.heldBy_keysFromWire (hvalues _ hmember) (hinner _ hmember)
    constructor
    · rintro ⟨_, hvalue, htexts⟩
      obtain ⟨w, hw, rfl⟩ := Option.map_eq_some_iff.mp hvalue
      exact ⟨w, hw, (hheld w hw).mp htexts⟩
    · rintro ⟨w, hw, htexts⟩
      exact ⟨_, Option.map_eq_some_iff.mpr ⟨w, hw, rfl⟩, (hheld w hw).mpr htexts⟩

/-- Take a value in which no object names a member twice and no name, at any depth, begins
with a capital, and which does not have both `idCert` and `id_cert`. The value and the
value with its names in snake case give the same identity, or both of them are refused. -/
theorem ofJson_keysFromWire {v : Json} (hwell : v.WellFormed)
    (hheads : ∀ name ∈ v.names, HasNoCapitalHead name)
    (honce : ¬ ((v.member? "idCert").isSome = true ∧ (v.member? "id_cert").isSome = true)) :
    (∃ identity, ofJson v = .ok identity ∧ ofJson v.keysFromWire = .ok identity) ∨
      ∃ e e', ofJson v = .error e ∧ ofJson v.keysFromWire = .error e' := by
  have hsame : ∀ identity : RegistrationIdentity,
      identity.HeldBy v.keysFromWire ↔ identity.HeldBy v := by
    refine fun identity => heldBy_keysFromWire hwell hheads ?_
    cases hcamel : v.member? "idCert" with
    | none => exact Or.inl rfl
    | some _ => exact Or.inr (by simpa [hcamel] using honce)
  have hrenamed := Json.wellFormed_keysFromWire v
  rcases ofJson_cases hwell with ⟨identity, hheld, hread⟩ | ⟨hnone, problem, hread⟩
  · refine Or.inl ⟨identity, hread, ?_⟩
    rw [ofJson, (read_eq_ok_iff hrenamed).mpr ((hsame identity).mpr hheld)]
  · refine Or.inr ?_
    rcases ofJson_cases hrenamed with ⟨identity, hheld, -⟩ | ⟨-, problem', hread'⟩
    · exact absurd ((hsame identity).mp hheld) (hnone identity)
    · exact ⟨_, _, hread, hread'⟩

/-- The reply to a registration, with members that are not read and a text under the name
of a text in a place where none is read. -/
theorem ofJson_keysFromWire_consumer :
    let consumer : Json := .object [("createdBy", .object [("cert", .null)]), ("uuid", .string "c1"),
      ("idCert", .object [("serialId", .ofNat 7), ("key", .string "K"), ("cert", .string "C")]),
      ("installedProducts", .array [.object [("productId", .string "p1")]])]
    consumer.WellFormed ∧ (∀ name ∈ consumer.names, HasNoCapitalHead name) ∧
      ¬ ((consumer.member? "idCert").isSome = true ∧ (consumer.member? "id_cert").isSome = true) ∧
      ofJson consumer = .ok ⟨some "c1", ⟨"C", "K"⟩⟩ ∧
      ofJson consumer.keysFromWire = .ok ⟨some "c1", ⟨"C", "K"⟩⟩ := by
  intro consumer
  have hwell : consumer.WellFormed := by decide +kernel
  have hheads : ∀ name ∈ consumer.names, HasNoCapitalHead name := by decide +kernel
  have honce : ¬ ((consumer.member? "idCert").isSome = true ∧
      (consumer.member? "id_cert").isSome = true) := by decide +kernel
  have hread : ofJson consumer = .ok ⟨some "c1", ⟨"C", "K"⟩⟩ := rfl
  refine ⟨hwell, hheads, honce, hread, ?_⟩
  rcases ofJson_keysFromWire hwell hheads honce with ⟨identity, hheld, hsame⟩ | ⟨e, _, herror, -⟩
  · rw [hread, Except.ok.injEq] at hheld
    rw [hsame, hheld]
  · rw [hread] at herror
    cases herror

end RegistrationIdentity

end EntitlementClient
