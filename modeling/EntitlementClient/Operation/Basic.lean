import EntitlementClient.Body
import EntitlementClient.Calendar
import EntitlementClient.Options.Requirement
import EntitlementClient.Request

/-!
# `EntitlementClient.Operation.Basic`: operations described as data

An `Operation` describes one kind of request on a resource: the parameters it declares
with their defaults, what it requires of them, and how path, query and body are made from
the merged options. `Operation.request` is the one interpreter of these descriptions. It
proceeds in a fixed order:

1. the options are merged over the defaults;
2. the requirements are checked one after the other;
3. the path is rendered from left to right;
4. query and body are made.

Nothing is sent before all of that has succeeded, and nothing but the merged options
enters the request. The defaults of a call may depend on its context, the consumer's uuid
and the date, and on which options the caller named.
-/

set_option autoImplicit false

namespace EntitlementClient

/-- What the defaults of a call depend on. -/
structure Context where
  /-- The consumer on whose behalf the client acts, if it has one. -/
  uuid : Option String
  /-- The current date. -/
  today : Date
deriving DecidableEq, Repr, Inhabited

/-! ### Parameters -/

/-- The default of a parameter. -/
inductive Default where
  /-- A fixed value. -/
  | value (v : Json)
  /-- The uuid of the client's consumer, null if it has none. -/
  | consumerUuid
  /-- The date a number of days ahead. -/
  | daysAhead (days : Nat)
  /-- Null when the caller names the option `key`, else another default. -/
  | unlessSupplied (key : String) (otherwise : Default)

namespace Default

/-- No value. -/
def absent : Default := .value .null

/-- A boolean. -/
def flag (b : Bool) : Default := .value (.bool b)

/-- A text. -/
def text (words : String) : Default := .value (.string words)

/-- The number one. -/
def one : Default := .value (.ofNat 1)

/-- The list without elements. -/
def emptyList : Default := .value (.array [])

/-- The object without members. -/
def emptyObject : Default := .value (.object [])

end Default

/-- Parameters without a default value. -/
def optional (keys : List String) : List (String × Default) := keys.map fun key => (key, .absent)

/-- A uuid as an option value. -/
def uuidValue : Option String → Json
  | some uuid => .string uuid
  | none => .null

/-- The value of a default for one call. -/
def Default.evaluate (context : Context) (supplied : OptionSet) : Default → Json
  | .value v => v
  | .consumerUuid => uuidValue context.uuid
  | .daysAhead days => .string (context.today.daysAhead days).text
  | .unlessSupplied key otherwise =>
    if supplied.contains key then .null else otherwise.evaluate context supplied

/-! ### Paths -/

/-- A part of a path. -/
inductive PathPart where
  /-- Fixed text. -/
  | text (words : String)
  /-- An option as a segment. -/
  | option (key : String)
  /-- Fixed text and an option as a segment; nothing when the option is null. -/
  | whenSet (lead : String) (key : String)
deriving DecidableEq, Repr

/-- The text of a part of a path. -/
def PathPart.render (options : OptionSet) : PathPart → Except ClientError String
  | .text words => .ok words
  | .option key => options.segment key
  | .whenSet lead key =>
    if options.isNull key then .ok "" else (options.segment key).map (lead ++ ·)

/-- The texts of the parts of a path. The first part that fails decides the error. -/
def renderParts (options : OptionSet) : List PathPart → Except ClientError (List String)
  | [] => .ok []
  | part :: rest => do
    let text ← part.render options
    let texts ← renderParts options rest
    return text :: texts

/-- A path rendered from left to right. -/
def renderPath (options : OptionSet) (parts : List PathPart) : Except ClientError String :=
  (renderParts options parts).map String.join

/-! ### Queries -/

/-- A part of a query. -/
inductive QueryPart where
  /-- Options under their own names. -/
  | options (keys : List String)
  /-- An option under another name. -/
  | renamed (name key : String)
  /-- The elements of an option in one pair, with commas between; no pair when there is none. -/
  | joined (name key : String)
  /-- Attribute filters, each a name and a value with a colon between. -/
  | attributes (name key : String)
deriving DecidableEq, Repr

/-- A filter from a name and a value that both have a text. -/
def attributeFilter? (name value : Json) : Option String := do
  let name ← name.scalarText?
  let value ← value.scalarText?
  return name ++ ":" ++ value

/-- A filter from an element of a list: a pair of name and value, or a text. -/
def attributeItem? : Json → Option String
  | .array [name, value] => attributeFilter? name value
  | v => v.scalarText?

/-- The attribute filters of an option: from an object, or from a list of pairs and texts. -/
def attributeFilters : Json → List String
  | .object members => members.filterMap fun (name, v) => attributeFilter? (.string name) v
  | v => v.asList.filterMap attributeItem?

/-- A query with one more part. -/
def QueryPart.addTo (options : OptionSet) (q : Query) : QueryPart → Except ClientError Query
  | .options keys => (options.select keys).map q.pushOptions
  | .renamed name key => .ok (q.pushValue name (options.value key))
  | .joined name key =>
    let texts := (options.value key).asList.filterMap Json.scalarText?
    .ok (if texts.isEmpty then q else q.push name (String.intercalate "," texts))
  | .attributes name key => .ok (q.pushAll name (attributeFilters (options.value key)))

/-- The query of parts added one after the other. -/
def renderQuery (options : OptionSet) : Query → List QueryPart → Except ClientError Query
  | q, [] => .ok q
  | q, part :: rest => do
    let q ← part.addTo options q
    renderQuery options q rest

/-! ### Bodies -/

/-- What becomes of an option in a body. -/
inductive Shape where
  /-- The value itself. -/
  | same
  /-- The value as a list. -/
  | list
  /-- A reference by a member. -/
  | reference (field : String)
  /-- A list of references by a member. -/
  | references (field : String)
  /-- A list of references by id. -/
  | idReferences
  /-- A list of objects with one member. -/
  | named (field : String)
  /-- A list of names and values. -/
  | attributes
  /-- An object whose only member is the value. -/
  | memberOf (field : String)
deriving DecidableEq, Repr

/-- The value in its shape. -/
def Shape.apply : Shape → Json → Json
  | .same, v => v
  | .list, v => .array v.asList
  | .reference field, v => v.reference field
  | .references field, v => .array (v.asList.map (Json.reference field))
  | .idReferences, v => v.idReferences
  | .named field, v => v.flattenNamed field
  | .attributes, v => v.nameValuePairs
  | .memberOf field, v => .object [(field, v)]

/-- Attributes with one of them overridden: in its place if the attributes name it, else last. -/
def overrideAttribute (name : String) (value : Json) : Json → Json
  | .object members => .object (OrderedMap.insertEntry name value members)
  | v => v

/-- A part of an object to be sent. -/
inductive BodyPart where
  /-- Options under their names in camel case. -/
  | fields (keys : List String)
  /-- All options under their names in camel case. -/
  | allFields
  /-- An option in a shape, under a name. -/
  | member (name key : String) (shape : Shape)
  /-- The same, left out when the option has no element as a list. -/
  | memberIfAny (name key : String) (shape : Shape)
  /-- The attributes of one option, the attribute `type` taken from another. -/
  | typedAttributes (name key typeKey : String)
deriving DecidableEq, Repr

/-- A body with one more part. -/
def BodyPart.addTo (options : OptionSet) (body : Body) : BodyPart → Body
  | .fields keys => body.extend options keys
  | .allFields => body.insertAll (options.mapFields none).entries
  | .member name key shape => body.insert name (shape.apply (options.value key))
  | .memberIfAny name key shape =>
    if (options.value key).asList.isEmpty then body
    else body.insert name (shape.apply (options.value key))
  | .typedAttributes name key typeKey =>
    body.insert name
      (overrideAttribute "type" (options.value typeKey) (options.value key)).nameValuePairs

/-- The JSON body of an operation. -/
inductive BodyPlan where
  /-- An object of parts; members that are null are dropped. -/
  | compacted (parts : List BodyPart)
  /-- An object of parts; members that are null are sent. -/
  | verbatim (parts : List BodyPart)
  /-- An option in a shape. -/
  | bare (key : String) (shape : Shape)
deriving DecidableEq, Repr

/-- The object of parts added one after the other. -/
def assemble (options : OptionSet) (parts : List BodyPart) : Body :=
  parts.foldl (fun body part => part.addTo options body) .empty

/-- The JSON body made from the options. -/
def BodyPlan.render (options : OptionSet) : BodyPlan → Json
  | .compacted parts => (assemble options parts).compact.toJson
  | .verbatim parts => (assemble options parts).toJson
  | .bare key shape => shape.apply (options.value key)

/-! ### Operations -/

/-- A description of one kind of request. -/
structure Operation where
  /-- The method. -/
  method : Method
  /-- The declared parameters with their defaults, in order. -/
  parameters : List (String × Default) := []
  /-- What is required of the merged options. -/
  requirements : List Requirement := []
  /-- The path below the base URL. -/
  path : List PathPart
  /-- The query. -/
  query : List QueryPart := []
  /-- The JSON body. -/
  body : Option BodyPlan := none
  /-- The media type asked for instead of JSON. -/
  accept : Option String := none

namespace Operation

/-- The defaults of one call. -/
def defaults (op : Operation) (context : Context) (supplied : OptionSet) : Defaults :=
  .ofList (op.parameters.map fun (key, default) => (key, default.evaluate context supplied))

/-- Checks requirements one after the other. -/
def checkAll (options : OptionSet) : List Requirement → Except ClientError Unit
  | [] => .ok ()
  | requirement :: rest => do
    requirement.check options
    checkAll options rest

/-- The request made from merged options. -/
def plan (op : Operation) (options : OptionSet) : Except ClientError Request := do
  checkAll options op.requirements
  let path ← renderPath options op.path
  let query ← renderQuery options .empty op.query
  return { method := op.method
           path := path
           query := query
           body := op.body.map (BodyPlan.render options)
           accept := op.accept }

/-- The request of a call, or the error that keeps it from being sent. -/
def request (op : Operation) (context : Context) (supplied : OptionSet) :
    Except ClientError Request := do
  let options ← (op.defaults context supplied).merge supplied
  op.plan options

/-! ### Common descriptions -/

/-- A request on a fixed path that takes no options. -/
def fixed (method : Method) (path : String) : Operation := { method := method, path := [.text path] }

/-- The media type of text. -/
def textPlain : String := "text/plain"

/-- The media type of archives. -/
def applicationZip : String := "application/zip"

/-- The operation asking for another media type than JSON. -/
def accepting (op : Operation) (mediaType : String) : Operation :=
  { op with accept := some mediaType }

/-- Gets a path as a media type. -/
def getAs (mediaType path : String) : Operation := (fixed .get path).accepting mediaType

/-- A request on the one element of a resource that the required option `key` names. -/
def byId (method : Method) (resource key : String) : Operation :=
  { method := method
    parameters := optional [key]
    requirements := [.allPresent]
    path := [.text (resource ++ "/"), .option key] }

/-- Gets an element of a resource. -/
def getById (resource key : String) : Operation := byId .get resource key

/-- Deletes an element of a resource. -/
def deleteById (resource key : String) : Operation := byId .delete resource key

/-- A request on what lies below the element of a resource that the option `key` names. -/
def below (method : Method) (resource key suffix : String) : Operation :=
  { method := method
    parameters := optional [key]
    path := [.text (resource ++ "/"), .option key, .text suffix] }

end Operation

end EntitlementClient
