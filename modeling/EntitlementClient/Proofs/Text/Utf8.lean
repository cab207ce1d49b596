import EntitlementClient.Text.Utf8

/-!
# `EntitlementClient.Proofs.Text.Utf8`: which bytes are text

Bytes are read as a text exactly when they are the encoding of that text
(`ofUtf8?_eq_some_iff`), so nothing of them is lost, and bytes that are no encoding are
refused (`ofUtf8?_eq_none_iff`). Bytes below 128 are always text, and reading them with
replacements replaces nothing (`utf8_ofUtf8Lossy`).
-/

set_option autoImplicit false

namespace EntitlementClient.Text

/-- Bytes are read as a text exactly when they are its encoding. So the strict reader accepts
nothing but UTF-8 in its shortest form. -/
theorem ofUtf8?_eq_some_iff {bytes : List UInt8} {cs : List Char} :
    ofUtf8? bytes = some cs ↔ utf8 cs = bytes := by
  constructor
  · intro h
    have hsome : (bytes.toByteArray.utf8Decode?).isSome = true := by
      rw [ofUtf8?, Option.map_eq_some_iff] at h
      obtain ⟨chars, hchars, -⟩ := h
      rw [hchars]
      rfl
    -- What can be decoded is the encoding of some text, and that is the one that was read.
    obtain ⟨text, htext⟩ := ByteArray.isSome_utf8Decode?_iff.mp hsome
    have hbytes : bytes = utf8 text := by
      have hlist := congrArg (fun b => b.data.toList) htext
      simpa [utf8, List.utf8Encode] using hlist
    rw [hbytes, ofUtf8?_utf8, Option.some.injEq] at h
    rw [hbytes, h]
  · rintro rfl
    exact ofUtf8?_utf8 cs

/-- Different texts have different encodings, because the bytes can be read back. -/
theorem utf8_inj {cs cs' : List Char} : utf8 cs = utf8 cs' ↔ cs = cs' := by
  rw [← ofUtf8?_eq_some_iff, ofUtf8?_utf8, Option.some.injEq]
  exact eq_comm

/-- Bytes are refused exactly when they are the encoding of no text. -/
theorem ofUtf8?_eq_none_iff {bytes : List UInt8} :
    ofUtf8? bytes = none ↔ ∀ cs, utf8 cs ≠ bytes := by
  rw [Option.eq_none_iff_forall_ne_some]
  exact forall_congr' fun cs => not_congr ofUtf8?_eq_some_iff

/-- A byte below 128 is the encoding of a character. -/
theorem utf8_of_lt {b : UInt8} (h : b.toNat < 128) : utf8 [Char.ofNat b.toNat] = [b] := by
  have hall : ∀ n < 128, utf8 [Char.ofNat n] = [UInt8.ofNat n] := by decide
  have hb := hall b.toNat h
  rwa [UInt8.ofNat_toNat] at hb

/-- Reading bytes below 128 with replacements replaces nothing. So for them the lossy reader is as
good as the strict one. -/
theorem utf8_ofUtf8Lossy {bytes : List UInt8} (h : ∀ b ∈ bytes, b.toNat < 128) :
    utf8 (ofUtf8Lossy bytes) = bytes := by
  induction bytes with
  | nil => simp [ofUtf8Lossy, utf8]
  | cons b rest ih =>
    have hb := h b List.mem_cons_self
    have hrest := ih fun c hc => h c (List.mem_cons_of_mem b hc)
    have hpart : maximalPart (b :: rest) = 1 := by
      have hlength : sequenceLength b = 1 := by simp [sequenceLength, hb]
      simp [maximalPart, hlength]
    have hread : ofUtf8? [b] = some [Char.ofNat b.toNat] := ofUtf8?_eq_some_iff.mpr (utf8_of_lt hb)
    rw [ofUtf8Lossy, hpart]
    show utf8 ((ofUtf8? [b]).getD ['\uFFFD'] ++ ofUtf8Lossy rest) = b :: rest
    rw [hread, Option.getD_some, utf8, List.flatMap_append]
    show utf8 [Char.ofNat b.toNat] ++ utf8 (ofUtf8Lossy rest) = b :: rest
    rw [utf8_of_lt hb, hrest, List.singleton_append]

end EntitlementClient.Text
