import EntitlementClient.Proofs.Text.Percent
import EntitlementClient.Text.Split

/-!
# `EntitlementClient.Proofs.Text.Form`: form fields can be read back

A form field is decoded to the text that was encoded (`formDecode_formEncode`), whatever
characters the text has. The round trip goes byte by byte (`formBytes_formByte`): a space
becomes a plus sign and comes back from it, and a plus sign of the text itself is escaped.

An ampersand and an equals sign are always escaped (`not_mem_formEncode`), so they can be
used to keep fields apart. Cutting a form at its ampersands gives back the parts
(`splitAt_joinWith`).
-/

set_option autoImplicit false

namespace EntitlementClient.Text

/-! ### Fields -/

/-- The bytes that a form field stands for. -/
def formBytes (cs : List Char) : List UInt8 :=
  percentDecodeBytes ((utf8 cs).map fun b => if b == 0x2B then 0x20 else b)

/-- A byte that stands for itself in a field is a character of its own. It is neither a
percent sign nor a plus sign. -/
theorem isFormPlain_spec (b : UInt8) (h : isFormPlain b = true) :
    (Char.ofNat b.toNat).toNat < 128 ∧ UInt8.ofNat (Char.ofNat b.toNat).toNat = b ∧
      b ≠ 0x25 ∧ b ≠ 0x2B := by
  have hall : ∀ n < 256, isFormPlain (UInt8.ofNat n) = true →
      (Char.ofNat n).toNat < 128 ∧ UInt8.ofNat (Char.ofNat n).toNat = UInt8.ofNat n ∧
        UInt8.ofNat n ≠ 0x25 ∧ UInt8.ofNat n ≠ 0x2B := by decide +kernel
  have hb := hall b.toNat b.toNat_lt
  rw [UInt8.ofNat_toNat] at hb
  exact hb h

/-- No digit of an escaped byte is taken for a plus sign, which stands for a blank. -/
theorem upperHexDigit_ne_plus : ∀ n < 16, UInt8.ofNat (upperHexDigit n).toNat ≠ 0x2B := by decide

/-- A byte of a field is decoded to the byte. -/
theorem formBytes_formByte (b : UInt8) (cs : List Char) :
    formBytes (formByte b ++ cs) = b :: formBytes cs := by
  unfold formByte
  split
  · -- A space is written as a plus sign, which is read as a space.
    rename_i hspace
    have hb : b = 0x20 := by simpa using hspace
    subst hb
    show percentDecodeBytes ((utf8 ('+' :: cs)).map _) = _
    rw [utf8_cons_of_lt (by decide), List.map_cons]
    exact percentDecodeBytes_cons_ne (by decide) _
  · split
    · rename_i hplain
      obtain ⟨hlt, hvalue, hpercent, hplus⟩ := isFormPlain_spec b hplain
      show percentDecodeBytes ((utf8 (Char.ofNat b.toNat :: cs)).map _) = _
      rw [utf8_cons_of_lt hlt, hvalue, List.map_cons, if_neg (by simpa using hplus)]
      exact percentDecodeBytes_cons_ne hpercent _
    · -- None of the three bytes of an escaped byte is a plus sign.
      have hb : b.toNat < 256 := b.toNat_lt
      have hhigh := upperHexDigit_ne_plus (b.toNat / 16) (by omega)
      have hlow := upperHexDigit_ne_plus (b.toNat % 16) (by omega)
      unfold formBytes
      rw [utf8_percentByte, List.map_cons, List.map_cons, List.map_cons, if_neg (by decide),
        if_neg (by simpa using hhigh), if_neg (by simpa using hlow)]
      exact percentDecodeBytes_escaped b _

/-- Bytes that are encoded one by one are read back. -/
theorem formBytes_flatMap (bytes : List UInt8) : formBytes (bytes.flatMap formByte) = bytes := by
  induction bytes with
  | nil => rfl
  | cons b rest ih => rw [List.flatMap_cons, formBytes_formByte, ih]

/-- A field is decoded to the text that was encoded, whatever characters it has. -/
theorem formDecode_formEncode (cs : List Char) : formDecode (formEncode cs) = some cs := by
  show ofUtf8? (formBytes ((utf8 cs).flatMap formByte)) = some cs
  rw [formBytes_flatMap, ofUtf8?_utf8]

/-- A field holds none of the characters that keep fields apart, for they are escaped. -/
theorem not_mem_formEncode {c : Char} (hc : c ∈ ['&', '=']) (cs : List Char) :
    c ∉ formEncode cs := by
  have hall : ∀ n < 256,
      '&' ∉ formByte (UInt8.ofNat n) ∧ '=' ∉ formByte (UInt8.ofNat n) := by decide +kernel
  intro hmem
  obtain ⟨b, -, hb⟩ := List.mem_flatMap.mp hmem
  have hbyte := hall b.toNat b.toNat_lt
  rw [UInt8.ofNat_toNat] at hbyte
  simp only [List.mem_cons, List.not_mem_nil, or_false] at hc
  rcases hc with rfl | rfl
  · exact hbyte.1 hb
  · exact hbyte.2 hb

/-! ### Parts -/

variable {separator : Char}

/-- Cutting a text is splitting the list of its characters. -/
theorem splitAt_eq_splitOn (cs : List Char) : splitAt separator cs = cs.splitOn separator := by
  induction cs with
  | nil => rfl
  | cons c rest ih =>
    rw [List.splitOn_cons_eq_if_modifyHead, splitAt, ih]
    by_cases hc : c = separator
    · simp [hc]
    · obtain ⟨part, parts, hparts⟩ :=
        List.exists_cons_of_ne_nil (List.splitOn_ne_nil separator rest)
      simp [hc, hparts]

/-- Texts with a separator between are the lists of their characters with it between. -/
theorem joinWith_eq_intercalate (parts : List (List Char)) :
    joinWith separator parts = [separator].intercalate parts := by
  induction parts with
  | nil => rfl
  | cons part rest ih =>
    cases rest with
    | nil => simp [joinWith]
    | cons next more => simp [joinWith, ih]

/-- Parts without the separator are found again after they were joined. There has to be a part,
since no parts and one empty part are joined alike. -/
theorem splitAt_joinWith {parts : List (List Char)} (hne : parts ≠ [])
    (h : ∀ part ∈ parts, separator ∉ part) :
    splitAt separator (joinWith separator parts) = parts := by
  rw [splitAt_eq_splitOn, joinWith_eq_intercalate]
  exact List.splitOn_intercalate separator h hne

end EntitlementClient.Text
