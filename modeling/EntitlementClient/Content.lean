import EntitlementClient.Json.Printer
import EntitlementClient.Json.Reader
import EntitlementClient.Text.Quoted
import EntitlementClient.Text.Utf8
import EntitlementClient.Wire.Keys

/-!
# `EntitlementClient.Content`: the decoded body of a reply

The bytes of a body become JSON, text, or stay bytes. `Content.ofBytes` decides without
looking at what the server calls them: text if they are UTF-8. `Content.negotiate?`
believes the server when it announces JSON, and then fails on bytes that are not JSON.
`isJsonType` says when a content type announces JSON.
-/

set_option autoImplicit false

namespace EntitlementClient

/-- The decoded body of a reply. -/
inductive Content where
  /-- A body announced as JSON. -/
  | json (value : Json)
  /-- Another body that is UTF-8. -/
  | text (text : String)
  /-- Another body that is not. -/
  | binary (bytes : List UInt8)
  /-- A body of no bytes. -/
  | empty
deriving DecidableEq, Repr, Inhabited

/-! ### Content types that announce JSON -/

/-- A letter of a media type without its case. The long s counts as an s. -/
def foldLetter (c : Char) : Char := if c = 'ſ' then 's' else c.toLower

/-- Whether the text begins with the letters, their case aside. -/
def beginsWith : (letters cs : List Char) → Bool
  | [], _ => true
  | _ :: _, [] => false
  | l :: letters, c :: cs => l = foldLetter c && beginsWith letters cs

/-- The spellings of the JSON media types. -/
def jsonTypes : List (List Char) :=
  ["application/json", "application/x-json", "text/json", "text/x-json"].map String.toList

/-- Whether one of the JSON media types occurs anywhere in the characters. -/
def mentionsJson : List Char → Bool
  | [] => false
  | c :: rest => jsonTypes.any (beginsWith · (c :: rest)) || mentionsJson rest

/-- Whether a content type announces JSON. -/
def isJsonType (contentType : String) : Bool := mentionsJson contentType.toList

namespace Content

/-- The content of bytes that are taken as they are. -/
def ofBytes (bytes : List UInt8) : Content :=
  if bytes.isEmpty then .empty
  else
    match Text.ofUtf8? bytes with
    | some cs => .text (String.ofList cs)
    | none => .binary bytes

/-- The JSON value that bytes encode. -/
def readJson? (bytes : List UInt8) : Option Json := (Text.ofUtf8? bytes).bind Json.readChars?

/-- The content of bytes that the server announces as JSON or as something else. Absent
when they are announced as JSON, are not empty, and are not JSON. -/
def negotiate? (announcedJson : Bool) (bytes : List UInt8) : Option Content :=
  if bytes.isEmpty then some .empty
  else if announcedJson then (readJson? bytes).map .json
  else some (ofBytes bytes)

/-- The content with the names of a JSON value in snake case. -/
def keysFromWire : Content → Content
  | .json v => .json v.keysFromWire
  | c => c

/-- The content as it is shown in a message. -/
def describe : Content → String
  | .json v => "Json(" ++ v.render ++ ")"
  | .text t => "Text(" ++ String.ofList (Text.quote t.toList) ++ ")"
  | .binary b => "Binary(" ++ String.ofList (Text.quoteBytes b) ++ ")"
  | .empty => "Empty"

end Content

end EntitlementClient
