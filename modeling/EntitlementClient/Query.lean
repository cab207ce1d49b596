import EntitlementClient.Options.Basic
import EntitlementClient.Text.Split

/-!
# `EntitlementClient.Query`: query strings

A query is a list of pairs. Keys may repeat, which is how the values of a list reach the
server. `Query.encode` writes the pairs as a form (`application/x-www-form-urlencoded`);
`Query.decode` reads a form.

`Query.pushValue` adds an option: nothing for null, a pair for each element of a list that
is not null, one pair for any other value. Strings are sent as they are, other values as
JSON text.
-/

set_option autoImplicit false

namespace EntitlementClient

/-- The pairs of a query, in the order in which they are sent. -/
structure Query where
  /-- The pairs. -/
  pairs : List (String × String)
deriving DecidableEq, Repr, Inhabited

/-- The text of a value in a query, if it has one: null has none. -/
def Json.scalarText? : Json → Option String
  | .null => none
  | .string s => some s
  | v => some v.render

namespace Query

/-- The query without pairs. -/
def empty : Query := ⟨[]⟩

/-- Adds a pair at the end. -/
def push (q : Query) (key value : String) : Query := ⟨q.pairs ++ [(key, value)]⟩

/-- Adds a pair for each of the values. -/
def pushAll (q : Query) (key : String) (values : List String) : Query :=
  ⟨q.pairs ++ values.map fun value => (key, value)⟩

/-- Whether there are no pairs. -/
def isEmpty (q : Query) : Bool := q.pairs.isEmpty

/-- The values sent under a key, in order. -/
def values (q : Query) (key : String) : List String :=
  (q.pairs.filter fun p => p.1 = key).map Prod.snd

/-- The texts under which a value is sent: one for each element of a list, one for any
other value, none for null. -/
def texts : Json → List String
  | .array items => items.filterMap Json.scalarText?
  | v => v.scalarText?.toList

/-- Adds an option value under a key. -/
def pushValue (q : Query) (key : String) (v : Json) : Query := q.pushAll key (texts v)

/-- Adds the options of a set, each under its own name. -/
def pushOptions (q : Query) (options : OptionSet) : Query :=
  options.entries.foldl (fun q p => q.pushValue p.1 p.2) q

/-- The query of the options under the given keys. -/
def ofOptions (options : OptionSet) (keys : List String) : Except ClientError Query :=
  (options.select keys).map empty.pushOptions

/-! ### As a form -/

/-- A pair as a form. -/
def encodePair (p : String × String) : List Char :=
  Text.formEncode p.1.toList ++ '=' :: Text.formEncode p.2.toList

/-- The query as a form. -/
def encode (q : Query) : String := String.ofList (Text.joinWith '&' (q.pairs.map encodePair))

/-- The pair that a part of a form stands for. A part without an equals sign is a key with
an empty value. -/
def decodePair (part : List Char) : Option (String × String) := do
  let key ← Text.formDecode (part.takeWhile (· ≠ '='))
  let value ← Text.formDecode ((part.dropWhile (· ≠ '=')).drop 1)
  return (String.ofList key, String.ofList value)

/-- The query that a form stands for, if its bytes are UTF-8. Empty parts are skipped. -/
def decode (form : String) : Option Query :=
  (((Text.splitAt '&' form.toList).filter fun part => !part.isEmpty).mapM decodePair).map Query.mk

end Query

end EntitlementClient
