/-!
# `EntitlementClient.Text.Utf8`: text as bytes

`Text.utf8` is the UTF-8 encoding of a list of characters and `Text.ofUtf8?` its inverse,
which refuses every list of bytes that is not an encoding (`ofUtf8?_utf8`).
`Text.ofUtf8Lossy` accepts all bytes and writes U+FFFD for each maximal part of an
encoding that breaks off.
-/

set_option autoImplicit false

namespace EntitlementClient.Text

/-- The UTF-8 encoding of a text. -/
def utf8 (cs : List Char) : List UInt8 := cs.flatMap String.utf8EncodeChar

/-- The text that the bytes encode, if they encode one. -/
def ofUtf8? (bytes : List UInt8) : Option (List Char) :=
  bytes.toByteArray.utf8Decode?.map Array.toList

/-- Decoding gives back the text that was encoded. -/
@[simp] theorem ofUtf8?_utf8 (cs : List Char) : ofUtf8? (utf8 cs) = some cs := by
  have h : cs.utf8Encode.utf8Decode? = some cs.toArray := List.utf8Decode?_utf8Encode
  rw [List.utf8Encode] at h
  simp [ofUtf8?, utf8, h]

/-- How many bytes the encoding that starts with this byte has. -/
def sequenceLength (b : UInt8) : Nat :=
  let n := b.toNat
  if n < 0x80 then 1
  else if 0xC2 ≤ n ∧ n ≤ 0xDF then 2
  else if 0xE0 ≤ n ∧ n ≤ 0xEF then 3
  else if 0xF0 ≤ n ∧ n ≤ 0xF4 then 4
  else 0

/-- Whether `second` may follow `first`. The first continuation byte excludes overlong
forms, surrogates and code points beyond U+10FFFF. -/
def isSecondByte (first second : UInt8) : Bool :=
  let n := second.toNat
  let low := if first = 0xE0 then 0xA0 else if first = 0xF0 then 0x90 else 0x80
  let high := if first = 0xED then 0x9F else if first = 0xF4 then 0x8F else 0xBF
  low ≤ n && n ≤ high

/-- Whether the byte continues an encoding. -/
def isContinuation (b : UInt8) : Bool := b.toNat / 64 = 2

/-- How many bytes at the head form an encoding or the longest beginning of one, but at
least one. -/
def maximalPart : List UInt8 → Nat
  | [] => 0
  | first :: rest =>
    match sequenceLength first, rest with
    | 2, second :: _ => if isSecondByte first second then 2 else 1
    | 3, second :: rest =>
      if isSecondByte first second then 2 + (rest.take 1 |>.takeWhile isContinuation).length else 1
    | 4, second :: rest =>
      if isSecondByte first second then 2 + (rest.take 2 |>.takeWhile isContinuation).length else 1
    | _, _ => 1

/-- At least one byte is passed over where the bytes are no character. So reading goes on. -/
theorem maximalPart_pos (b : UInt8) (rest : List UInt8) : 0 < maximalPart (b :: rest) := by
  simp only [maximalPart]
  split
  · split <;> decide
  · split
    · exact Nat.lt_of_lt_of_le (by decide) (Nat.le_add_right 2 _)
    · decide
  · split
    · exact Nat.lt_of_lt_of_le (by decide) (Nat.le_add_right 2 _)
    · decide
  · decide

/-- The text of the bytes, with U+FFFD for each maximal part that encodes no character. -/
def ofUtf8Lossy : List UInt8 → List Char
  | [] => []
  | b :: rest =>
    let n := maximalPart (b :: rest)
    (ofUtf8? ((b :: rest).take n)).getD ['\uFFFD'] ++ ofUtf8Lossy ((b :: rest).drop n)
termination_by bytes => bytes.length
decreasing_by
  have := maximalPart_pos b rest
  simp only [List.length_drop, List.length_cons]
  omega

end EntitlementClient.Text
