import EntitlementClient.Content
import EntitlementClient.Error

/-!
# `EntitlementClient.Http.Reply`: the reply to a message

A `Reply` is what a connection is handed for a message. If the server compressed the body,
it has been decompressed before, and the fields that described the compression are gone.

The body of a reply arrives in frames. `collect` puts the data of the frames together and
stops as soon as there is more of it than allowed, so that never more than the limit is
held. A body can then be read in four ways: as bytes, as text with replacements, as JSON,
or as what the content type announces.
-/

set_option autoImplicit false

namespace EntitlementClient

/-- A part of a body. -/
inductive Frame where
  /-- Some of its bytes. -/
  | data (bytes : List UInt8)
  /-- Fields after the bytes, which are ignored. -/
  | trailers
deriving DecidableEq, Repr, Inhabited

/-- The bytes in a frame. -/
def Frame.bytes : Frame → List UInt8
  | data bytes => bytes
  | trailers => []

/-- The bytes of the frames after those already collected, if they stay within the limit. -/
def collect (limit : Nat) : (collected : List UInt8) → List Frame →
    Except TransportError (List UInt8)
  | collected, [] => .ok collected
  | collected, .trailers :: rest => collect limit collected rest
  | collected, .data bytes :: rest =>
    if limit < collected.length + bytes.length then
      .error (.bodyTooLarge limit (collected.length + bytes.length))
    else collect limit (collected ++ bytes) rest

/-- The reply to a message. Its body is as it was before the server compressed it, if it did. -/
structure Reply where
  /-- The status. -/
  status : Status
  /-- The header fields, their names in lower case. -/
  headers : List (String × List UInt8)
  /-- The body, in the parts in which it arrives. -/
  frames : List Frame
deriving DecidableEq, Repr, Inhabited

namespace Reply

/-- Whether a byte is shown as it is: it is printable ASCII or a tab. -/
def isReadable (b : UInt8) : Bool := b = 9 || (0x20 ≤ b && b < 0x7f)

/-- The first content type, if it is readable. -/
def contentType? (reply : Reply) : Option String := do
  let bytes ← reply.headers.lookup "content-type"
  if bytes.all isReadable then return String.ofList (Text.ofUtf8Lossy bytes) else none

/-- Whether the reply announces JSON. -/
def announcesJson (reply : Reply) : Bool := (reply.contentType?.map isJsonType).getD false

/-- The bytes of the body. -/
def bytes (reply : Reply) (limit : Nat) : Except TransportError (List UInt8) :=
  collect limit [] reply.frames

/-- The body as text. What is not UTF-8 is replaced. -/
def text (reply : Reply) (limit : Nat) : Except TransportError String :=
  (reply.bytes limit).map fun bytes => String.ofList (Text.ofUtf8Lossy bytes)

/-- The body as JSON, whatever the server announces. -/
def json (reply : Reply) (limit : Nat) : Except TransportError Json := do
  match Content.readJson? (← reply.bytes limit) with
  | some v => return v
  | none => throw .json

/-- The body as what the server announces. -/
def negotiate (reply : Reply) (limit : Nat) : Except TransportError Content := do
  match Content.negotiate? reply.announcesJson (← reply.bytes limit) with
  | some content => return content
  | none => throw .json

end Reply

end EntitlementClient
