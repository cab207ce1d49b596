import EntitlementClient.Json.Printer

/-!
# `EntitlementClient.Proofs.Json.Numeral`: the characters of numbers

A `Numeral` consists of digits, signs, points and the letter of the exponent, and has a
digit. The text of every number is one (`Number.numeral_render`), whether it is an
integer, a double in positional or a double in scientific notation. Nothing is said here
about the value of the digits: for the form of the text it does not matter which digits
`Binary64.shortestDigits` finds, so long as it finds digits.
-/

set_option autoImplicit false

namespace EntitlementClient

/-- Whether a character occurs in numerals. -/
def isNumeric (c : Char) : Bool := c.isDigit || c == '-' || c == '+' || c == '.' || c == 'e'

/-- Text made of the characters of numerals, with a digit. -/
structure Numeral (cs : List Char) : Prop where
  /-- No other characters occur. -/
  numeric : ∀ c ∈ cs, isNumeric c = true
  /-- There is a digit. -/
  digit : ∃ c ∈ cs, c.isDigit = true

/-- Digits occur in numerals. -/
theorem isNumeric_of_isDigit {c : Char} (h : c.isDigit = true) : isNumeric c = true := by
  rw [isNumeric, h]
  rfl

namespace Numeral

/-- Digits alone are a numeral, if there are any. -/
theorem of_digits {cs : List Char} (hdigits : ∀ c ∈ cs, c.isDigit = true) (hne : cs ≠ []) :
    Numeral cs := by
  obtain ⟨c, hc⟩ := List.exists_mem_of_ne_nil cs hne
  exact ⟨fun d hd => isNumeric_of_isDigit (hdigits d hd), c, hc, hdigits c hc⟩

/-- A numeral stays one with more characters of numerals before it. -/
theorem append_left {cs ds : List Char} (hds : Numeral ds) (hcs : ∀ c ∈ cs, isNumeric c = true) :
    Numeral (cs ++ ds) := by
  obtain ⟨c, hc, hdigit⟩ := hds.digit
  refine ⟨fun d hd => ?_, c, List.mem_append_right cs hc, hdigit⟩
  rcases List.mem_append.mp hd with hd | hd
  · exact hcs d hd
  · exact hds.numeric d hd

/-- A numeral stays one with more of them after it. -/
theorem append_right {cs ds : List Char} (hcs : Numeral cs) (hds : ∀ c ∈ ds, isNumeric c = true) :
    Numeral (cs ++ ds) := by
  obtain ⟨c, hc, hdigit⟩ := hcs.digit
  refine ⟨fun d hd => ?_, c, List.mem_append_left ds hc, hdigit⟩
  rcases List.mem_append.mp hd with hd | hd
  · exact hcs.numeric d hd
  · exact hds d hd

/-- A natural number in decimal. -/
theorem toDigits (n : Nat) : Numeral (Nat.toDigits 10 n) :=
  of_digits (fun _ hc => Nat.isDigit_of_mem_toDigits (by decide) (by decide) hc) Nat.toDigits_ne_nil

end Numeral

/-! ### Doubles -/

/-- The digits of a double are digits. There may be none left when zeros were stripped, as
far as this says. -/
theorem Binary64.isDigit_of_mem_shortestDigits {x : Binary64} {c : Char}
    (hc : c ∈ x.shortestDigits.1) : c.isDigit = true := by
  unfold shortestDigits at hc
  dsimp only at hc
  split at hc
  · obtain rfl := List.mem_singleton.mp hc
    rfl
  · rename_i d k _
    have hkept : c ∈ Nat.toDigits 10 d := by
      unfold stripZeros at hc
      have hreverse := List.mem_reverse.mp hc
      exact List.mem_reverse.mp (List.dropWhile_subset _ hreverse)
    exact Nat.isDigit_of_mem_toDigits (by decide) (by decide) hkept

namespace FloatLayout

variable {digits : List Char}

/-- The zeros that fill up a numeral occur in numerals. -/
theorem isNumeric_of_mem_replicate {n : Nat} {c : Char} (hc : c ∈ List.replicate n '0') :
    isNumeric c = true := by
  rw [List.eq_of_mem_replicate hc]
  rfl

/-- A double in positional notation is a numeral. Zeros are added on either side of the
point, so there is a digit even when the double has none. -/
theorem numeral_positional (hdigits : ∀ c ∈ digits, c.isDigit = true) (lead : Int) :
    Numeral (positional digits lead) := by
  have hnumeric : ∀ c ∈ digits, isNumeric c = true :=
    fun c hc => isNumeric_of_isDigit (hdigits c hc)
  unfold positional
  split
  · have hzero : Numeral ['0', '.'] := ⟨List.all_eq_true.mp rfl, '0', by decide, rfl⟩
    exact (hzero.append_right fun _ => isNumeric_of_mem_replicate).append_right hnumeric
  dsimp only
  split
  · have hzero : Numeral ['.', '0'] := ⟨List.all_eq_true.mp rfl, '0', by decide, rfl⟩
    refine hzero.append_left fun c hc => ?_
    rcases List.mem_append.mp hc with hc | hc
    · exact hnumeric c hc
    · exact isNumeric_of_mem_replicate hc
  · -- More digits than stand before the point, so there is one before it.
    rename_i hlong
    have hne : digits.take (lead.toNat + 1) ≠ [] := by
      intro hnil
      rw [List.take_eq_nil_iff] at hnil
      rcases hnil with hnil | hnil
      · exact absurd hnil (Nat.succ_ne_zero _)
      · rw [hnil] at hlong
        exact hlong (Nat.zero_le _)
    have hwhole : Numeral (digits.take (lead.toNat + 1)) :=
      .of_digits (fun c hc => hdigits c (List.mem_of_mem_take hc)) hne
    refine (hwhole.append_right (List.all_eq_true.mp rfl)).append_right fun c hc => ?_
    exact hnumeric c (List.mem_of_mem_drop hc)

/-- A double in scientific notation is a numeral. Its exponent has a digit. -/
theorem numeral_scientific (hdigits : ∀ c ∈ digits, c.isDigit = true) (lead : Int) :
    Numeral (scientific digits lead) := by
  have hnumeric : ∀ c ∈ digits, isNumeric c = true :=
    fun c hc => isNumeric_of_isDigit (hdigits c hc)
  have hsign : ∀ c ∈ ['e', if lead < 0 then '-' else '+'], isNumeric c = true := by
    split <;> exact List.all_eq_true.mp rfl
  -- The exponent has a digit; all else only has to be made of the right characters.
  refine (Numeral.toDigits lead.natAbs).append_left fun c hc => ?_
  rcases List.mem_append.mp hc with hmantissa | hc
  · cases digits with
    | nil =>
      obtain rfl := List.mem_singleton.mp hmantissa
      rfl
    | cons d rest =>
      cases rest with
      | nil => exact hnumeric c hmantissa
      | cons d' rest =>
        rcases List.mem_cons.mp hmantissa with rfl | hfraction
        · exact hnumeric c List.mem_cons_self
        rcases List.mem_cons.mp hfraction with rfl | hfraction
        · rfl
        · exact hnumeric c (List.mem_cons_of_mem d hfraction)
  · exact hsign c hc

/-- A double is written as a numeral, in either layout and whichever digits are found for it. -/
theorem numeral_render (layout : FloatLayout) (x : Binary64) : Numeral (layout.render x) := by
  have hsign : ∀ c ∈ (if x.isNegative then ['-'] else []), isNumeric c = true := by
    split <;> exact List.all_eq_true.mp rfl
  have hdigits : ∀ c ∈ x.shortestDigits.1, c.isDigit = true :=
    fun _ => Binary64.isDigit_of_mem_shortestDigits
  unfold render
  dsimp only
  split
  · exact Numeral.append_left ⟨List.all_eq_true.mp rfl, '0', by decide, rfl⟩ hsign
  split
  · exact (numeral_positional hdigits _).append_left hsign
  · exact (numeral_scientific hdigits _).append_left hsign

end FloatLayout

/-! ### Numbers -/

/-- The text of a number is a numeral. So it is sent in a path as it is, since none of its
characters is escaped. -/
theorem Number.numeral_render (n : Number) : Numeral n.render := by
  cases n with
  | integer n =>
    show Numeral (renderInt n)
    unfold renderInt
    split
    · show Numeral (['-'] ++ Nat.toDigits 10 n.natAbs)
      exact (Numeral.toDigits n.natAbs).append_left (List.all_eq_true.mp rfl)
    · exact Numeral.toDigits n.natAbs
  | float x => exact FloatLayout.numeral_render .json x

end EntitlementClient
