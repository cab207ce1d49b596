import EntitlementClient.Client.Registration
import EntitlementClient.Operation.Basic
import EntitlementClient.Proofs.Outcome
import EntitlementClient.Proofs.Wire.Keys

/-!
# `EntitlementClient.Proofs.Client.Registration`: which values hold an identity

`RegistrationIdentity.HeldBy` says what it means that a value holds the identity of a
consumer, and `IdentityTexts.HeldBy` the same for its texts: an object with the right
members, in any order and among any others, or a list of them in the order given. Reading
a well-formed value gives an identity exactly when the value holds it (`read_eq_ok_iff`),
so a value that is refused holds none (`ofJson_cases`).

The members of an object are read one after the other, with what was found so far at hand.
The lemmas about that (`ofMembers_eq_ok_iff`) say how what is at hand and what is still to
come decide together.
-/

set_option autoImplicit false

namespace EntitlementClient

open OrderedMap (findEntry findEntry_eq_none_iff)

/-! ### Members -/

/-- A text is read from a string, and from nothing else. -/
theorem readText_eq_ok_iff {v : Json} {s : String} : readText v = .ok s ↔ v = .string s := by
  cases v with
  | string s' => simp [readText]
  | null | bool | number | array | object => simp [readText]

/-- A text or no value is a uuid as an option has it. -/
theorem readOptionalText_eq_ok_iff {v : Json} {s : Option String} :
    readOptionalText v = .ok s ↔ v = uuidValue s := by
  cases v with
  | null => cases s <;> simp [readOptionalText, uuidValue]
  | string s' => cases s <;> simp [readOptionalText, readText, uuidValue, Except.map]
  | bool | number | array | object =>
    cases s <;> simp [readOptionalText, readText, uuidValue, Except.map]

/-- A list that has two elements is short enough when there is nothing more in it. -/
theorem checkLength_two_eq_ok_iff {first second : Json} {rest : List Json} {u : Unit} :
    checkLength (first :: second :: rest) 2 = .ok u ↔ rest = [] := by
  unfold checkLength
  cases rest with
  | nil => exact iff_of_true rfl rfl
  | cons third rest =>
    rw [if_neg (by simp)]
    exact iff_of_false (fun h => nomatch h) (fun h => nomatch h)

/-! ### The texts -/

namespace IdentityTexts

/-- The value holds the texts. -/
inductive HeldBy (texts : IdentityTexts) : Json → Prop where
  /-- Under their names. -/
  | object {members} (hcert : ("cert", .string texts.cert) ∈ members)
      (hkey : ("key", .string texts.key) ∈ members) : HeldBy texts (.object members)
  /-- In their order. -/
  | list : HeldBy texts (.array [.string texts.cert, .string texts.key])

variable {texts : IdentityTexts}

/-- Among members with distinct names the two texts are held exactly when a look-up of
each of them finds it as a string. -/
theorem heldBy_object_iff {members : List (String × Json)} (h : (members.map Prod.fst).Nodup) :
    texts.HeldBy (.object members) ↔
      findEntry "cert" members = some (.string texts.cert) ∧
        findEntry "key" members = some (.string texts.key) := by
  rw [OrderedMap.findEntry_eq_some_iff h, OrderedMap.findEntry_eq_some_iff h]
  constructor
  · rintro ⟨hcert, hkey⟩
    exact ⟨hcert, hkey⟩
  · rintro ⟨hcert, hkey⟩
    exact .object hcert hkey

/-- An array holds the two texts exactly when it is the certificate and then the key. -/
theorem heldBy_array_iff {items : List Json} :
    texts.HeldBy (.array items) ↔ items = [.string texts.cert, .string texts.key] := by
  constructor
  · rintro ⟨⟩
    rfl
  · rintro rfl
    exact .list

/-- The identity of an object, whose members are read one after the other, with a uuid and
possibly texts at hand. The induction carries what has been found so far. -/
theorem ofMembers_eq_ok_iff {members : List (String × Json)} {cert key : Option String}
    (h : (members.map Prod.fst).Nodup) :
    ofMembers cert key members = .ok texts ↔
      (findEntry "cert" members).or (cert.map Json.string) = some (.string texts.cert) ∧
        (findEntry "key" members).or (key.map Json.string) = some (.string texts.key) := by
  induction members generalizing cert key with
  | nil =>
    obtain ⟨c, k⟩ := texts
    cases cert <;> cases key <;>
      simp [ofMembers, bind_eq_ok_iff, requireMember, findEntry, pure, Except.pure]
  | cons member rest ih =>
    obtain ⟨name, v⟩ := member
    rw [List.map_cons, List.nodup_cons] at h
    rw [ofMembers]
    by_cases hcert : name = "cert"
    · -- No later member goes by the name, so this one decides.
      subst hcert
      have hrest : findEntry "cert" rest = none := findEntry_eq_none_iff.mpr h.1
      simp only [if_true, bind_eq_ok_iff, readText_eq_ok_iff, ih h.2, hrest, Option.map_some,
        Option.none_or, Option.some.injEq, Json.string.injEq, findEntry, Option.some_or,
        String.reduceEq, if_false]
      constructor
      · rintro ⟨s, rfl, rfl, hkey⟩
        exact ⟨rfl, hkey⟩
      · rintro ⟨rfl, hkey⟩
        exact ⟨texts.cert, rfl, rfl, hkey⟩
    · rw [if_neg hcert]
      by_cases hkey : name = "key"
      · subst hkey
        have hrest : findEntry "key" rest = none := findEntry_eq_none_iff.mpr h.1
        simp only [if_true, bind_eq_ok_iff, readText_eq_ok_iff, ih h.2, hrest, Option.map_some,
          Option.none_or, Option.some.injEq, Json.string.injEq, findEntry, Option.some_or,
          String.reduceEq, if_false]
        constructor
        · rintro ⟨s, rfl, hcert, rfl⟩
          exact ⟨hcert, rfl⟩
        · rintro ⟨hcert, rfl⟩
          exact ⟨texts.key, rfl, hcert, rfl⟩
      · simp [ih h.2, findEntry, hcert, hkey]

/-- A list of texts is read when it is the certificate and then the key, and nothing else. -/
theorem ofItems_eq_ok_iff {items : List Json} :
    ofItems items = .ok texts ↔ items = [.string texts.cert, .string texts.key] := by
  obtain ⟨c, k⟩ := texts
  match items with
  | [] => simp [ofItems]
  | [cert] => simp [ofItems, bind_eq_ok_iff, throw, throwThe, MonadExceptOf.throw]
  | cert :: key :: rest =>
    simp only [ofItems, bind_eq_ok_iff, readText_eq_ok_iff, checkLength_two_eq_ok_iff, pure,
      Except.pure, Except.ok.injEq, mk.injEq, List.cons.injEq]
    constructor
    · rintro ⟨_, rfl, _, rfl, -, rfl, rfl, rfl⟩
      exact ⟨rfl, rfl, rfl⟩
    · rintro ⟨rfl, rfl, rfl⟩
      exact ⟨c, rfl, k, rfl, (), rfl, rfl, rfl⟩

/-- The two texts are read from a well-formed value exactly when it holds them, as members or as
items. -/
theorem ofJson_eq_ok_iff {v : Json} (h : v.WellFormed) :
    ofJson v = .ok texts ↔ texts.HeldBy v := by
  cases v with
  | object members =>
    have hnodup := (Json.wellFormed_object.mp h).1
    rw [ofJson, ofMembers_eq_ok_iff hnodup, Option.map_none, Option.or_none, Option.or_none,
      heldBy_object_iff hnodup]
  | array items => rw [ofJson, ofItems_eq_ok_iff, heldBy_array_iff]
  | null | bool | number | string =>
    exact iff_of_false (fun heq => nomatch heq) (fun h => nomatch h)

end IdentityTexts

/-! ### The identity -/

namespace RegistrationIdentity

/-- The members that go by a name of the texts. -/
def textsMembers (members : List (String × Json)) : List (String × Json) :=
  members.filter fun member => textsNames.contains member.1

/-- The value holds the identity. -/
inductive HeldBy (identity : RegistrationIdentity) : Json → Prop where
  /-- One member holds the texts. The uuid is a text, or null, or absent. -/
  | object {members name v}
      (huuid : (findEntry "uuid" members).getD .null = uuidValue identity.uuid)
      (honly : textsMembers members = [(name, v)]) (htexts : identity.texts.HeldBy v) :
      HeldBy identity (.object members)
  /-- Without names. -/
  | list {v} (htexts : identity.texts.HeldBy v) :
      HeldBy identity (.array [uuidValue identity.uuid, v])

/-- A member by one of the names of the certificate counts. -/
theorem textsMembers_cons_of_contains {name : String} {v : Json} {rest : List (String × Json)}
    (h : textsNames.contains name = true) :
    textsMembers ((name, v) :: rest) = (name, v) :: textsMembers rest := by
  rw [textsMembers, List.filter_cons, if_pos h]
  rfl

/-- A member by any other name does not. -/
theorem textsMembers_cons_of_not_contains {name : String} {v : Json} {rest : List (String × Json)}
    (h : textsNames.contains name = false) :
    textsMembers ((name, v) :: rest) = textsMembers rest := by
  rw [textsMembers, List.filter_cons, h]
  rfl

/-- A uuid and its absence are told apart in the value that stands for them. -/
theorem uuidValue_inj {a b : Option String} : uuidValue a = uuidValue b ↔ a = b := by
  cases a <;> cases b <;> simp [uuidValue]

/-- The texts at hand and the members still to be read hold one pair of texts between them. -/
def TextsFrom (members : List (String × Json)) (texts : IdentityTexts) :
    Option IdentityTexts → Prop
  | some found => textsMembers members = [] ∧ found = texts
  | none => ∃ member, textsMembers members = [member] ∧ texts.HeldBy member.2

variable {identity : RegistrationIdentity}

/-- The identity of an object whose members are read with a uuid and possibly texts at hand. -/
theorem ofMembers_eq_ok_iff {members : List (String × Json)} {uuid : Option String}
    {found : Option IdentityTexts} (h : (members.map Prod.fst).Nodup)
    (hwell : ∀ member ∈ members, member.2.WellFormed) :
    ofMembers uuid found members = .ok identity ↔
      (findEntry "uuid" members).getD (uuidValue uuid) = uuidValue identity.uuid ∧
        TextsFrom members identity.texts found := by
  induction members generalizing uuid found with
  | nil =>
    obtain ⟨u, t⟩ := identity
    cases found with
    | some texts =>
      show Except.ok (⟨uuid, texts⟩ : RegistrationIdentity) = .ok ⟨u, t⟩ ↔
        uuidValue uuid = uuidValue u ∧ [] = [] ∧ texts = t
      rw [Except.ok.injEq, mk.injEq, uuidValue_inj]
      exact and_congr_right fun _ => (and_iff_right rfl).symm
    | none =>
      refine iff_of_false (by rintro ⟨⟩) ?_
      rintro ⟨-, member, honly, -⟩
      cases honly
  | cons member rest ih =>
    obtain ⟨name, v⟩ := member
    rw [List.map_cons, List.nodup_cons] at h
    obtain ⟨hv, hrestwell⟩ := List.forall_mem_cons.mp hwell
    rw [ofMembers]
    by_cases huuid : name = "uuid"
    · -- The uuid is no name of the texts, and no later member goes by it.
      subst huuid
      have hrest : findEntry "uuid" rest = none := findEntry_eq_none_iff.mpr h.1
      have htexts : TextsFrom (("uuid", v) :: rest) = TextsFrom rest := rfl
      simp only [if_true, bind_eq_ok_iff, readOptionalText_eq_ok_iff, ih h.2 hrestwell, hrest,
        htexts, findEntry, Option.getD_none, Option.getD_some]
      constructor
      · rintro ⟨_, rfl, hu, hfrom⟩
        exact ⟨hu, hfrom⟩
      · rintro ⟨rfl, hfrom⟩
        exact ⟨_, rfl, rfl, hfrom⟩
    · rw [if_neg huuid]
      cases hname : textsNames.contains name with
      | false =>
        -- Any other member is passed over.
        have htexts : TextsFrom ((name, v) :: rest) = TextsFrom rest := by
          funext texts found
          rw [TextsFrom.eq_def, TextsFrom.eq_def, textsMembers_cons_of_not_contains hname]
        rw [htexts]
        simpa only [Bool.false_eq_true, if_false, findEntry, huuid] using ih h.2 hrestwell
      | true =>
        have hmembers : textsMembers ((name, v) :: rest) = (name, v) :: textsMembers rest :=
          textsMembers_cons_of_contains hname
        cases found with
        | some texts =>
          -- A second member with texts is refused, whatever it has.
          refine iff_of_false (by rintro ⟨⟩) ?_
          rintro ⟨-, hnone, -⟩
          rw [hmembers] at hnone
          cases hnone
        | none =>
          simp only [if_true, Option.isSome_none, Bool.false_eq_true, if_false, bind_eq_ok_iff,
            IdentityTexts.ofJson_eq_ok_iff hv, ih h.2 hrestwell, findEntry, huuid, TextsFrom,
            hmembers, List.cons.injEq]
          constructor
          · rintro ⟨_, hheld, hu, hnone, rfl⟩
            exact ⟨hu, (name, v), ⟨rfl, hnone⟩, hheld⟩
          · rintro ⟨hu, _, ⟨rfl, hnone⟩, hheld⟩
            exact ⟨_, hheld, hu, hnone, rfl⟩

/-- The identity of a list. -/
theorem ofItems_eq_ok_iff {items : List Json} (hwell : ∀ item ∈ items, item.WellFormed) :
    ofItems items = .ok identity ↔
      ∃ v, items = [uuidValue identity.uuid, v] ∧ identity.texts.HeldBy v := by
  obtain ⟨u, t⟩ := identity
  match items with
  | [] => simp [ofItems]
  | [uuid] => simp [ofItems, bind_eq_ok_iff, throw, throwThe, MonadExceptOf.throw]
  | uuid :: texts :: rest =>
    have htexts : texts.WellFormed := hwell texts (by simp)
    simp only [ofItems, bind_eq_ok_iff, readOptionalText_eq_ok_iff,
      IdentityTexts.ofJson_eq_ok_iff htexts, checkLength_two_eq_ok_iff, pure, Except.pure,
      Except.ok.injEq, mk.injEq, List.cons.injEq]
    constructor
    · rintro ⟨_, rfl, _, hheld, -, rfl, rfl, rfl⟩
      exact ⟨_, ⟨rfl, rfl, rfl⟩, hheld⟩
    · rintro ⟨_, ⟨rfl, rfl, rfl⟩, hheld⟩
      exact ⟨u, rfl, t, hheld, (), rfl, rfl, rfl⟩

/-- An identity is read from a well-formed value exactly when the value holds it, in an object or
in a list. -/
theorem read_eq_ok_iff {v : Json} (h : v.WellFormed) :
    read v = .ok identity ↔ identity.HeldBy v := by
  cases v with
  | object members =>
    obtain ⟨hnodup, hwell⟩ := Json.wellFormed_object.mp h
    rw [read, ofMembers_eq_ok_iff hnodup hwell]
    constructor
    · rintro ⟨huuid, ⟨name, v⟩, honly, htexts⟩
      exact .object huuid honly htexts
    · rintro ⟨huuid, honly, htexts⟩
      exact ⟨huuid, _, honly, htexts⟩
  | array items =>
    rw [read, ofItems_eq_ok_iff (Json.wellFormed_array.mp h)]
    constructor
    · rintro ⟨v, rfl, htexts⟩
      exact .list htexts
    · intro hheld
      cases hheld with
      | list htexts => exact ⟨_, rfl, htexts⟩
  | null | bool | number | string =>
    exact iff_of_false (fun heq => nomatch heq) (fun h => nomatch h)

/-- A well-formed value holds an identity, which is read, or it holds none and is refused with a
problem. So no identity is read that is not there, and none is overlooked. -/
theorem ofJson_cases {v : Json} (h : v.WellFormed) :
    (∃ identity : RegistrationIdentity, identity.HeldBy v ∧ ofJson v = .ok identity) ∨
      (∀ identity : RegistrationIdentity, ¬ identity.HeldBy v) ∧
        ∃ problem, ofJson v = .error (.decode (.identity problem)) := by
  unfold ofJson
  cases hread : read v with
  | ok identity => exact Or.inl ⟨identity, (read_eq_ok_iff h).mp hread, rfl⟩
  | error problem =>
    refine Or.inr ⟨fun identity hheld => ?_, problem, rfl⟩
    rw [(read_eq_ok_iff h).mpr hheld] at hread
    cases hread

end RegistrationIdentity

end EntitlementClient
