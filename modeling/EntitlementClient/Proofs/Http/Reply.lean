import EntitlementClient.Http.Header
import EntitlementClient.Http.Reply
import EntitlementClient.Proofs.Http.Frames
import EntitlementClient.Proofs.Text.Utf8

/-!
# `EntitlementClient.Proofs.Http.Reply`: what is read from a reply

The body of a reply is the bytes of its frames in a row (`Reply.body`). It is read whole
when it stays within the limit and refused when it does not (`Reply.bytes_cases`).

`Content.Holds` says which content a body has, by cases: none, JSON, text, or bytes that
are not text. It is the content that is read, whether the reply is believed when it
announces JSON (`Content.holds_of_negotiate?`) or not (`Content.holds_ofBytes`), and the
four cases exclude each other (`Holds.json_iff` and its siblings). All but JSON keep the
bytes of the body (`Holds.body_eq`).

`Reply.HasContentType` is the content type of a reply, byte by byte, and what is shown of
it (`Reply.contentType?_eq_some_iff`).
-/

set_option autoImplicit false

namespace EntitlementClient

/-! ### Bodies -/

/-- The body of a reply. -/
def Reply.body (reply : Reply) : List UInt8 := reply.frames.flatMap Frame.bytes

namespace Reply

/-- A body is read whole, or it is longer than the limit and refused. The length that is reported
lies beyond the limit, and is at most that of the body. -/
theorem bytes_cases (reply : Reply) (limit : Nat) :
    (reply.body.length ≤ limit ∧ reply.bytes limit = .ok reply.body) ∨
      (limit < reply.body.length ∧ ∃ actual, limit < actual ∧ actual ≤ reply.body.length ∧
        reply.bytes limit = .error (.bodyTooLarge limit actual)) := by
  rcases Nat.lt_or_ge limit reply.body.length with hlt | hle
  · obtain ⟨actual, hcrosses⟩ := exists_crosses hlt
    obtain ⟨hactual, hle⟩ := hcrosses.bounds
    exact Or.inr ⟨hlt, actual, hactual, hle, hcrosses.collect_eq⟩
  · exact Or.inl ⟨hle, collect_eq_ok_iff.mpr ⟨rfl, hle⟩⟩

/-! ### Content types -/

/-- The first content type of a reply, if each of its bytes can be shown. -/
def HasContentType (reply : Reply) (contentType : String) : Prop :=
  ∃ bytes, reply.headers.lookup Header.contentType = some bytes ∧ bytes.all isReadable = true ∧
    Text.utf8 contentType.toList = bytes

/-- The reply says that its body is JSON. -/
def IsJson (reply : Reply) : Prop :=
  ∃ contentType, reply.HasContentType contentType ∧ isJsonType contentType = true

/-- The bytes of a field that can be shown are characters of ASCII. -/
theorem toNat_lt_of_isReadable {b : UInt8} (h : isReadable b = true) : b.toNat < 128 := by
  simp only [isReadable, Bool.or_eq_true, Bool.and_eq_true, decide_eq_true_eq] at h
  rcases h with rfl | ⟨-, hlt⟩
  · decide
  · have hnat : b.toNat < 127 := UInt8.lt_iff_toNat_lt.mp hlt
    omega

/-- The content type that is shown is the one that the reply has. It is the first field of that
name, and each of its bytes can be shown. -/
theorem contentType?_eq_some_iff {reply : Reply} {contentType : String} :
    reply.contentType? = some contentType ↔ reply.HasContentType contentType := by
  unfold contentType? HasContentType
  show (reply.headers.lookup Header.contentType).bind _ = some contentType ↔ _
  cases reply.headers.lookup Header.contentType with
  | none => simp
  | some bytes =>
    simp only [Option.bind_some, Option.some.injEq, exists_eq_left']
    cases hreadable : bytes.all isReadable with
    | false => simp
    | true =>
      -- All bytes are below 128, so showing them replaces none.
      have hlt : ∀ b ∈ bytes, b.toNat < 128 := fun b hb =>
        toNat_lt_of_isReadable (List.all_eq_true.mp hreadable b hb)
      have hread : Text.ofUtf8? bytes = some (Text.ofUtf8Lossy bytes) :=
        Text.ofUtf8?_eq_some_iff.mpr (Text.utf8_ofUtf8Lossy hlt)
      simp only [if_true, true_and]
      rw [← Text.ofUtf8?_eq_some_iff, hread]
      show some _ = some _ ↔ _
      rw [Option.some.injEq, Option.some.injEq, ← String.toList_inj, String.toList_ofList]

/-- The test for JSON says what it is meant to say: the reply has a content type that can
be shown, and that is a JSON media type. -/
theorem announcesJson_iff {reply : Reply} : reply.announcesJson = true ↔ reply.IsJson := by
  unfold announcesJson IsJson
  simp only [← contentType?_eq_some_iff]
  cases reply.contentType? with
  | none => simp
  | some contentType => simp

end Reply

/-! ### Content -/

namespace Content

/-- The content of a body. `asJson` says whether the body is to be JSON. -/
inductive Holds (asJson : Prop) (body : List UInt8) : Content → Prop
  | empty (hbody : body = []) : Holds asJson body .empty
  | json {v} (hbody : body ≠ []) (hjson : asJson) (hread : readJson? body = some v) :
      Holds asJson body (.json v.keysFromWire)
  | text {t : String} (hbody : body ≠ []) (hjson : ¬ asJson)
      (htext : Text.utf8 t.toList = body) : Holds asJson body (.text t)
  | binary (hbody : body ≠ []) (hjson : ¬ asJson) (hnone : ∀ cs, Text.utf8 cs ≠ body) :
      Holds asJson body (.binary body)

/-- The bytes that a content keeps: all but JSON keep those of the body. -/
def bytes? : Content → Option (List UInt8)
  | .json _ => none
  | .text t => some (Text.utf8 t.toList)
  | .binary bytes => some bytes
  | .empty => some []

/-- Bytes that are taken as they are make a text if they are one in UTF-8, and else stay bytes. -/
theorem holds_ofBytes {asJson : Prop} (h : ¬ asJson) (body : List UInt8) :
    (ofBytes body).Holds asJson body := by
  unfold ofBytes
  split
  · rename_i hempty
    exact .empty (List.isEmpty_iff.mp hempty)
  · rename_i hempty
    have hbody : body ≠ [] := fun heq => hempty (List.isEmpty_iff.mpr heq)
    split
    · rename_i cs hread
      refine .text hbody h ?_
      rw [String.toList_ofList]
      exact Text.ofUtf8?_eq_some_iff.mp hread
    · rename_i hread
      exact .binary hbody h (Text.ofUtf8?_eq_none_iff.mp hread)

/-- A content that is not JSON has no names to change. -/
theorem Holds.keysFromWire_eq {asJson : Prop} {body : List UInt8} {content : Content}
    (h : content.Holds asJson body) (hjson : ¬ asJson) : content.keysFromWire = content := by
  cases h with
  | json _ hannounced => exact absurd hannounced hjson
  | empty | text | binary => rfl

/-- Bytes that are announced as something else than JSON are taken as they are. -/
theorem negotiate?_false (body : List UInt8) :
    (negotiate? false body).map keysFromWire = some (ofBytes body) := by
  have hholds : (ofBytes body).Holds False body := holds_ofBytes id body
  unfold negotiate?
  split
  · rename_i hempty
    rw [ofBytes, if_pos hempty]
    rfl
  · exact congrArg some (hholds.keysFromWire_eq id)

/-- Bytes that are read as what is announced make the content that the body holds, once the names
of JSON are changed. -/
theorem holds_of_negotiate? {announced : Bool} {body : List UInt8} {content : Content}
    (h : negotiate? announced body = some content) :
    content.keysFromWire.Holds (announced = true) body := by
  unfold negotiate? at h
  split at h
  · rename_i hempty
    cases h
    exact .empty (List.isEmpty_iff.mp hempty)
  · rename_i hempty
    have hbody : body ≠ [] := fun heq => hempty (List.isEmpty_iff.mpr heq)
    split at h
    · rename_i hannounced
      rw [Option.map_eq_some_iff] at h
      obtain ⟨v, hread, rfl⟩ := h
      exact .json hbody hannounced hread
    · rename_i hannounced
      cases h
      -- Names are changed on every way, but here there are none.
      have hholds := holds_ofBytes hannounced body
      rw [hholds.keysFromWire_eq hannounced]
      exact hholds

/-- What is announced as JSON is refused exactly when it is something and is not JSON. A reply
without a body is never refused. -/
theorem negotiate?_eq_none_iff {announced : Bool} {body : List UInt8} :
    negotiate? announced body = none ↔
      announced = true ∧ body ≠ [] ∧ readJson? body = none := by
  unfold negotiate?
  cases body with
  | nil => simp
  | cons b rest => cases announced <;> simp

namespace Holds

variable {asJson : Prop} {body : List UInt8} {content : Content}

/-- The content is empty exactly when there is no body. -/
theorem empty_iff (h : content.Holds asJson body) : content = .empty ↔ body = [] := by
  cases h with
  | empty hbody => exact iff_of_true rfl hbody
  | json hbody | text hbody | binary hbody => exact iff_of_false (fun heq => nomatch heq) hbody

/-- The content is JSON exactly when the body is to be read as JSON and can be. It is then
the value of the body with the keys of the client. -/
theorem json_iff (h : content.Holds asJson body) (v : Json) :
    content = .json v ↔ body ≠ [] ∧ asJson ∧ ∃ w, readJson? body = some w ∧ v = w.keysFromWire := by
  cases h with
  | empty hbody => exact iff_of_false (fun heq => nomatch heq) fun h => h.1 hbody
  | json hbody hjson hread => simp [hbody, hjson, hread, eq_comm]
  | text _ hjson | binary _ hjson =>
    exact iff_of_false (fun heq => nomatch heq) fun h => hjson h.2.1

/-- The content is a text exactly when the body is not to be read as JSON and is that text
in UTF-8. -/
theorem text_iff (h : content.Holds asJson body) (t : String) :
    content = .text t ↔ body ≠ [] ∧ ¬ asJson ∧ Text.utf8 t.toList = body := by
  cases h with
  | empty hbody => exact iff_of_false (fun heq => nomatch heq) fun h => h.1 hbody
  | json _ hjson => exact iff_of_false (fun heq => nomatch heq) fun h => h.2.1 hjson
  | @text t' hbody hjson htext =>
    constructor
    · rintro ⟨⟩
      exact ⟨hbody, hjson, htext⟩
    · rintro ⟨-, -, htext'⟩
      -- Text is read from its encoding in one way only.
      have hread := Text.ofUtf8?_eq_some_iff.mpr htext
      rw [Text.ofUtf8?_eq_some_iff.mpr htext', Option.some.injEq, String.toList_inj] at hread
      rw [hread]
  | binary _ _ hnone => exact iff_of_false (fun heq => nomatch heq) fun h => hnone _ h.2.2

/-- The content is bytes exactly when the body is not to be read as JSON and is no text in
UTF-8. The bytes are those of the body. -/
theorem binary_iff (h : content.Holds asJson body) (bytes : List UInt8) :
    content = .binary bytes ↔
      body ≠ [] ∧ ¬ asJson ∧ (∀ cs, Text.utf8 cs ≠ body) ∧ bytes = body := by
  cases h with
  | empty hbody => exact iff_of_false (fun heq => nomatch heq) fun h => h.1 hbody
  | json _ hjson => exact iff_of_false (fun heq => nomatch heq) fun h => h.2.1 hjson
  | text _ _ htext => exact iff_of_false (fun heq => nomatch heq) fun h => h.2.2.1 _ htext
  | binary hbody hjson hnone => simp [hbody, hjson, hnone, eq_comm]

/-- A content that keeps bytes keeps those of the body. A text keeps them as well, in UTF-8. -/
theorem body_eq (h : content.Holds asJson body) {bytes : List UInt8}
    (hbytes : content.bytes? = some bytes) : bytes = body := by
  cases h with
  | empty hbody =>
    cases hbytes
    exact hbody.symm
  | json => cases hbytes
  | text _ _ htext =>
    cases hbytes
    exact htext
  | binary =>
    cases hbytes
    rfl

end Holds

end Content

end EntitlementClient
