import EntitlementClient.Text.Percent

/-!
# `EntitlementClient.Proofs.Text.Percent`: what a percent-encoded segment looks like and says

`SegmentText` is the grammar of a path segment: letters, digits and five marks
(`isPlain`), and percent signs that two upper-case hexadecimal digits follow. No slash,
question mark or number sign stands in such a text (`SegmentText.not_mem`).

`Spells segment word` says that a text has this form and that decoding it gives `word`.
Percent-encoding any text spells it (`spells_percentEncode`), and plain text spells itself
(`spells_of_plain`). A segment spells one word only (`Spells.unique`).
-/

set_option autoImplicit false

namespace EntitlementClient.Text

/-! ### The grammar of segments -/

/-- The characters that a segment holds unescaped. The plus sign is one of them because
the text of a number may have it in its exponent. -/
def isPlain (c : Char) : Bool :=
  c.isDigit || ('A' ≤ c && c ≤ 'Z') || ('a' ≤ c && c ≤ 'z')
    || c == '-' || c == '.' || c == '_' || c == '~' || c == '+'

/-- The digits of an escaped byte. -/
def isUpperHex (c : Char) : Bool := c.isDigit || ('A' ≤ c && c ≤ 'F')

/-- Plain characters, and percent signs with two digits each. -/
inductive SegmentText : List Char → Prop
  | nil : SegmentText []
  | plain {c rest} (hc : isPlain c = true) (hrest : SegmentText rest) : SegmentText (c :: rest)
  | escape {high low rest} (hhigh : isUpperHex high = true) (hlow : isUpperHex low = true)
      (hrest : SegmentText rest) : SegmentText ('%' :: high :: low :: rest)

/-- The digits of an escaped byte are plain characters too. -/
theorem isPlain_of_isUpperHex {c : Char} (h : isUpperHex c = true) : isPlain c = true := by
  simp only [isUpperHex, Bool.or_eq_true, Bool.and_eq_true, decide_eq_true_eq] at h
  simp only [isPlain, Bool.or_eq_true, Bool.and_eq_true, decide_eq_true_eq]
  rcases h with hdigit | ⟨hfirst, hlast⟩
  · simp [hdigit]
  · have hletter : c ≤ 'Z' := Nat.le_trans hlast (by decide)
    simp [hfirst, hletter]

/-- Plain characters are characters of ASCII. -/
theorem toNat_lt_of_isPlain {c : Char} (h : isPlain c = true) : c.toNat < 128 := by
  simp only [isPlain, Char.isDigit, Bool.or_eq_true, Bool.and_eq_true, decide_eq_true_eq,
    beq_iff_eq] at h
  rcases h with ((((((⟨-, h⟩ | ⟨-, h⟩) | ⟨-, h⟩) | rfl) | rfl) | rfl) | rfl) | rfl
  -- A digit, a capital, a small letter, or one of the marks.
  · exact Nat.lt_of_le_of_lt h (by decide)
  · exact Nat.lt_of_le_of_lt h (by decide)
  · exact Nat.lt_of_le_of_lt h (by decide)
  all_goals decide

namespace SegmentText

/-- Plain characters alone are a segment. -/
theorem of_plain {cs : List Char} (h : ∀ c ∈ cs, isPlain c = true) : SegmentText cs := by
  induction cs with
  | nil => exact .nil
  | cons c rest ih =>
    have hc := h c List.mem_cons_self
    have hrest := ih fun d hd => h d (List.mem_cons_of_mem c hd)
    exact .plain hc hrest

/-- Two segments in a row, with nothing in between, are one. -/
theorem append {cs ds : List Char} (hcs : SegmentText cs) (hds : SegmentText ds) :
    SegmentText (cs ++ ds) := by
  induction hcs with
  | nil => exact hds
  | plain hc _ ih => exact .plain hc ih
  | escape hhigh hlow _ ih => exact .escape hhigh hlow ih

/-- The percent sign apart, every character of a segment is plain. -/
theorem isPlain_of_mem {cs : List Char} (hcs : SegmentText cs) {c : Char} (hmem : c ∈ cs)
    (hpercent : c ≠ '%') : isPlain c = true := by
  induction hcs with
  | nil => cases hmem
  | plain hc _ ih =>
    rcases List.mem_cons.mp hmem with rfl | hmem
    · exact hc
    · exact ih hmem
  | escape hhigh hlow _ ih =>
    rcases List.mem_cons.mp hmem with rfl | hmem
    · exact absurd rfl hpercent
    rcases List.mem_cons.mp hmem with rfl | hmem
    · exact isPlain_of_isUpperHex hhigh
    rcases List.mem_cons.mp hmem with rfl | hmem
    · exact isPlain_of_isUpperHex hlow
    · exact ih hmem

/-- A segment holds none of the characters that end one: no slash, no question mark, no number
sign. -/
theorem not_mem {cs : List Char} (hcs : SegmentText cs) {c : Char} (hc : c ∈ ['/', '?', '#']) :
    c ∉ cs := by
  intro hmem
  simp only [List.mem_cons, List.not_mem_nil, or_false] at hc
  have hplain := hcs.isPlain_of_mem hmem (by rcases hc with rfl | rfl | rfl <;> decide)
  rcases hc with rfl | rfl | rfl
  all_goals exact absurd hplain (by decide)

end SegmentText

/-! ### Decoding -/

/-- A character of ASCII is one byte. -/
theorem utf8_cons_of_lt {c : Char} (h : c.toNat < 128) (cs : List Char) :
    utf8 (c :: cs) = UInt8.ofNat c.toNat :: utf8 cs := by
  have hsize : c.utf8Size = 1 := Char.utf8Size_eq_one_iff.mpr (Nat.le_of_lt_succ h)
  rw [utf8, List.flatMap_cons, String.utf8EncodeChar_eq_singleton hsize]
  rfl

/-- A byte that is no percent sign stands for itself. -/
theorem percentDecodeBytes_cons_ne {b : UInt8} (h : b ≠ 0x25) (rest : List UInt8) :
    percentDecodeBytes (b :: rest) = b :: percentDecodeBytes rest := by
  rw [percentDecodeBytes]
  intro _ _ _ heq
  exact absurd heq h

/-- A plain character stands for itself. The percent sign is not plain, so nothing is decoded
there. -/
theorem percentDecodeBytes_plain {c : Char} (h : isPlain c = true) (cs : List Char) :
    percentDecodeBytes (utf8 (c :: cs)) = UInt8.ofNat c.toNat :: percentDecodeBytes (utf8 cs) := by
  have hlt := toNat_lt_of_isPlain h
  -- Its byte is not that of the percent sign, because the percent sign is not plain.
  have hpercent : UInt8.ofNat c.toNat ≠ 0x25 := by
    intro heq
    have hnat : (UInt8.ofNat c.toNat).toNat = 0x25 := congrArg UInt8.toNat heq
    rw [UInt8.toNat_ofNat', Nat.mod_eq_of_lt (by omega)] at hnat
    have hc : c = '%' := by rw [← Char.ofNat_toNat c, hnat]
    rw [hc] at h
    exact absurd h (by decide)
  rw [utf8_cons_of_lt hlt, percentDecodeBytes_cons_ne hpercent]

/-- Each of the sixteen digits is written in upper case and read back. -/
theorem upperHexDigit_spec : ∀ n < 16,
    isUpperHex (upperHexDigit n) = true ∧
      hexValue? (UInt8.ofNat (upperHexDigit n).toNat) = some n := by decide

/-- An escaped byte is three bytes: a percent sign and two digits. All three are characters of
ASCII. -/
theorem utf8_percentByte (b : UInt8) (cs : List Char) :
    utf8 (percentByte b ++ cs) =
      0x25 :: UInt8.ofNat (upperHexDigit (b.toNat / 16)).toNat ::
        UInt8.ofNat (upperHexDigit (b.toNat % 16)).toNat :: utf8 cs := by
  have hb : b.toNat < 256 := b.toNat_lt
  have hhigh := (upperHexDigit_spec (b.toNat / 16) (by omega)).1
  have hlow := (upperHexDigit_spec (b.toNat % 16) (by omega)).1
  show utf8 ('%' :: upperHexDigit (b.toNat / 16) :: upperHexDigit (b.toNat % 16) :: cs) = _
  rw [utf8_cons_of_lt (by decide),
    utf8_cons_of_lt (toNat_lt_of_isPlain (isPlain_of_isUpperHex hhigh)),
    utf8_cons_of_lt (toNat_lt_of_isPlain (isPlain_of_isUpperHex hlow))]
  rfl

/-- The three bytes of an escaped byte are decoded to the byte. -/
theorem percentDecodeBytes_escaped (b : UInt8) (rest : List UInt8) :
    percentDecodeBytes (0x25 :: UInt8.ofNat (upperHexDigit (b.toNat / 16)).toNat ::
      UInt8.ofNat (upperHexDigit (b.toNat % 16)).toNat :: rest) = b :: percentDecodeBytes rest := by
  have hb : b.toNat < 256 := b.toNat_lt
  have hhigh := (upperHexDigit_spec (b.toNat / 16) (by omega)).2
  have hlow := (upperHexDigit_spec (b.toNat % 16) (by omega)).2
  have hvalue : b.toNat / 16 * 16 + b.toNat % 16 = b.toNat := by omega
  rw [percentDecodeBytes, hhigh, hlow]
  dsimp only
  rw [hvalue, UInt8.ofNat_toNat]

/-- An escaped byte is decoded to the byte, whatever follows it. -/
theorem percentDecodeBytes_percentByte (b : UInt8) (cs : List Char) :
    percentDecodeBytes (utf8 (percentByte b ++ cs)) = b :: percentDecodeBytes (utf8 cs) := by
  rw [utf8_percentByte, percentDecodeBytes_escaped]

/-- A byte that is not escaped is plain, and keeps its value as a character. The bytes are few
enough to look at each of them. -/
theorem isUnreserved_spec (b : UInt8) (h : isUnreserved b = true) :
    isPlain (Char.ofNat b.toNat) = true ∧ UInt8.ofNat (Char.ofNat b.toNat).toNat = b := by
  have hall : ∀ n < 256, isUnreserved (UInt8.ofNat n) = true →
      isPlain (Char.ofNat n) = true ∧ UInt8.ofNat (Char.ofNat n).toNat = UInt8.ofNat n := by
    decide +kernel
  have hb := hall b.toNat b.toNat_lt
  rw [UInt8.ofNat_toNat] at hb
  exact hb h

/-- A byte of a segment is decoded to the byte, whether it is escaped or not. -/
theorem percentDecodeBytes_segmentByte (b : UInt8) (cs : List Char) :
    percentDecodeBytes (utf8 (segmentByte b ++ cs)) = b :: percentDecodeBytes (utf8 cs) := by
  unfold segmentByte
  split
  · rename_i h
    obtain ⟨hplain, hvalue⟩ := isUnreserved_spec b h
    rw [List.singleton_append, percentDecodeBytes_plain hplain, hvalue]
  · exact percentDecodeBytes_percentByte b cs

/-- Bytes that are encoded one by one are read back. -/
theorem percentDecodeBytes_flatMap (bytes : List UInt8) :
    percentDecodeBytes (utf8 (bytes.flatMap segmentByte)) = bytes := by
  induction bytes with
  | nil => rfl
  | cons b rest ih => rw [List.flatMap_cons, percentDecodeBytes_segmentByte, ih]

/-! ### Spelling -/

/-- The text is a segment that is decoded to the word. -/
structure Spells (segment word : List Char) : Prop where
  /-- It has the form of a segment. -/
  segmentText : SegmentText segment
  /-- It is decoded to the word. -/
  decode : percentDecode segment = some word

/-- A segment spells one word only: it is decoded to one list of bytes, and these are one text. -/
theorem Spells.unique {segment word word' : List Char} (h : Spells segment word)
    (h' : Spells segment word') : word = word' := by
  have heq : some word = some word' := h.decode.symm.trans h'.decode
  exact Option.some.inj heq

/-- A byte is encoded as a plain character or as an escape. -/
theorem segmentText_segmentByte (b : UInt8) : SegmentText (segmentByte b) := by
  have hb : b.toNat < 256 := b.toNat_lt
  unfold segmentByte
  split
  · rename_i h
    exact .plain (isUnreserved_spec b h).1 .nil
  · have hhigh := (upperHexDigit_spec (b.toNat / 16) (by omega)).1
    have hlow := (upperHexDigit_spec (b.toNat % 16) (by omega)).1
    exact .escape hhigh hlow .nil

/-- Percent-encoding spells any text. So no two texts are encoded alike. -/
theorem spells_percentEncode (cs : List Char) : Spells (percentEncode cs) cs := by
  constructor
  · unfold percentEncode
    induction utf8 cs with
    | nil => exact .nil
    | cons b rest ih =>
      rw [List.flatMap_cons]
      exact (segmentText_segmentByte b).append ih
  · rw [percentDecode, percentEncode, percentDecodeBytes_flatMap, ofUtf8?_utf8]

/-- Plain text spells itself. -/
theorem spells_of_plain {cs : List Char} (h : ∀ c ∈ cs, isPlain c = true) : Spells cs cs := by
  refine ⟨.of_plain h, ?_⟩
  have hbytes : percentDecodeBytes (utf8 cs) = utf8 cs := by
    induction cs with
    | nil => rfl
    | cons c rest ih =>
      have hc := h c List.mem_cons_self
      have hrest := ih fun d hd => h d (List.mem_cons_of_mem c hd)
      rw [percentDecodeBytes_plain hc, hrest, utf8_cons_of_lt (toNat_lt_of_isPlain hc)]
  rw [percentDecode, hbytes, ofUtf8?_utf8]

end EntitlementClient.Text
