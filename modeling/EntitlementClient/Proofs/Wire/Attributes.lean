import Mathlib.Data.List.Nodup
import EntitlementClient.Operation.Basic
import EntitlementClient.Proofs.OrderedMap

/-!
# `EntitlementClient.Proofs.Wire.Attributes`: attributes as lists of names and values

The server takes attributes as a list in which each has a name and a value.
`Json.attributes?` reads such a list, and `Json.attributes?_nameValuePairs` says that it
finds the members of the object from which the list was made, in their order.

`OrderedMap.Overrides` describes attributes of which one has another value: it stands
where it stood, or at the end if it was not there, and all else is as it was. Inserting
into a map does just this (`OrderedMap.overrides_insert`).
-/

set_option autoImplicit false

namespace EntitlementClient

universe u

/-! ### Lists of names and values -/

namespace Json

/-- The name and the value of an attribute. -/
def attribute? (v : Json) : Option (String × Json) := do
  let name ← (v.member? "name").bind Json.string?
  let value ← v.member? "value"
  return (name, value)

/-- The names and values of a list of attributes, in order. -/
def attributes? : Json → Option (List (String × Json))
  | .array items => items.mapM attribute?
  | _ => none

/-- An attribute is read back from its name and value. -/
theorem attribute?_nameValue (name : String) (value : Json) :
    (nameValue (.string name) value).attribute? = some (name, value) := by
  simp [attribute?, nameValue, member?, OrderedMap.findEntry, string?]

/-- The attributes of an object are read back from their list, in their order and with those that
are null. -/
theorem attributes?_nameValuePairs (members : List (String × Json)) :
    (Json.object members).nameValuePairs.attributes? = some members := by
  show (members.map fun member => nameValue (.string member.1) member.2).mapM attribute? =
    some members
  induction members with
  | nil => rfl
  | cons member rest ih => simp [attribute?_nameValue, ih]

end Json

/-! ### One value in place of another -/

namespace OrderedMap

variable {α : Type u}

/-- The entries are those of the map, but that of `key` has the given value. -/
structure Overrides (m : OrderedMap α) (key : String) (value : α)
    (entries : List (String × α)) : Prop where
  /-- The names stand in the order of the map. The key comes last if the map does not have it. -/
  names : entries.map Prod.fst = if key ∈ m.keys then m.keys else m.keys ++ [key]
  /-- No name stands twice. -/
  nodup : (entries.map Prod.fst).Nodup
  /-- The key stands once. -/
  once : (entries.map Prod.fst).count key = 1
  /-- Beside the key stands the value. -/
  here : ∀ v, (key, v) ∈ entries ↔ v = value
  /-- Beside another name stands the value of the map. -/
  other : ∀ name v, name ≠ key → ((name, v) ∈ entries ↔ m.get? name = some v)
  /-- The map of the entries is the one in which the key was set. -/
  map : ofList entries = m.insert key value

/-- Setting a key leaves all other entries and their order. If the key is new, it stands last. -/
theorem overrides_insert (m : OrderedMap α) (key : String) (value : α) :
    m.Overrides key value (m.insert key value).entries where
  names := keys_insert m key value
  nodup := (m.insert key value).nodup
  once := List.count_eq_one_of_mem (m.insert key value).nodup (mem_keys_insert.mpr (Or.inr rfl))
  here v := by
    rw [← get?_eq_some_iff, get?_insert, if_pos rfl, Option.some.injEq]
    exact eq_comm
  other name v hne := by rw [← get?_eq_some_iff, get?_insert, if_neg (Ne.symm hne)]
  map := ext (entries_ofList (m.insert key value).nodup)

end OrderedMap

end EntitlementClient
