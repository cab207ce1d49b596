import EntitlementClient.Proofs.Text.Percent
import EntitlementClient.Text.Base64

/-!
# `EntitlementClient.Proofs.Text.Base64`: base64 can be read back

The letters of base64 stand for groups of six bits (`sextets`), and the equals signs fill
the last group (`padding`): `encode_eq` takes a text apart so. Decoding turns the letters
back into the groups (`mapM_bits?_letter`) and the groups into the bytes (`join_sextets`),
and `decode_encode` is the round trip. So no two lists of bytes have the same base64.
-/

set_option autoImplicit false

namespace EntitlementClient.Text.Base64

variable {bytes : List UInt8}

/-- The groups of six bits of a list of bytes. Bits that are missing in the last group are
zero. -/
def sextets : List UInt8 → List Nat
  | [] => []
  | [a] =>
    let n := a.toNat * 65536
    [n / 262144, n / 4096 % 64]
  | [a, b] =>
    let n := a.toNat * 65536 + b.toNat * 256
    [n / 262144, n / 4096 % 64, n / 64 % 64]
  | a :: b :: c :: rest =>
    let n := a.toNat * 65536 + b.toNat * 256 + c.toNat
    n / 262144 :: n / 4096 % 64 :: n / 64 % 64 :: n % 64 :: sextets rest

/-- How many equals signs follow the letters. -/
def padding : List UInt8 → Nat
  | [] => 0
  | [_] => 2
  | [_, _] => 1
  | _ :: _ :: _ :: rest => padding rest

/-- Base64 is a letter for each group of six bits, and then the filler. This takes a text apart
for all that follows. -/
theorem encode_eq :
    encode bytes = (sextets bytes).map letter ++ List.replicate (padding bytes) '=' := by
  induction bytes using encode.induct with
  | case1 => rfl
  | case2 a => rfl
  | case3 a b => rfl
  | case4 a b c rest ih => simp [encode, sextets, padding, ih]

/-- Every group of three bytes, and a last one that is shorter, is written as four letters. -/
theorem length_encode : (encode bytes).length = (bytes.length + 2) / 3 * 4 := by
  induction bytes using encode.induct with
  | case1 => rfl
  | case2 a => simp [encode]
  | case3 a b => simp [encode]
  | case4 a b c rest ih =>
    simp only [encode, List.length_cons, ih]
    omega

/-- A group of six bits is a number below 64. -/
theorem lt_of_mem_sextets {n : Nat} (h : n ∈ sextets bytes) : n < 64 := by
  induction bytes using encode.induct with
  | case1 => simp [sextets] at h
  | case2 a =>
    have ha := a.toNat_lt
    simp only [sextets, List.mem_cons, List.not_mem_nil, or_false] at h
    omega
  | case3 a b =>
    have ha := a.toNat_lt
    have hb := b.toNat_lt
    simp only [sextets, List.mem_cons, List.not_mem_nil, or_false] at h
    omega
  | case4 a b c rest ih =>
    have ha := a.toNat_lt
    have hb := b.toNat_lt
    have hc := c.toNat_lt
    simp only [sextets, List.mem_cons] at h
    rcases h with h | h | h | h | h
    · omega
    · omega
    · omega
    · omega
    · exact ih h

/-- The groups of a number of twenty-four bits make up the number. -/
theorem groups_eq (n : Nat) :
    n / 262144 * 262144 + n / 4096 % 64 * 4096 + n / 64 % 64 * 64 + n % 64 = n := by
  omega

/-- Groups are joined to the bytes that they were taken from. The last group may be filled up with
zeros, which belong to no byte. -/
theorem join_sextets : join (sextets bytes) = bytes := by
  induction bytes using encode.induct with
  | case1 => rfl
  | case2 a =>
    have ha := a.toNat_lt
    have hvalue : (a.toNat * 65536 / 262144 * 262144 + a.toNat * 65536 / 4096 % 64 * 4096) / 65536 =
        a.toNat := by omega
    simp only [sextets, join, hvalue, UInt8.ofNat_toNat]
  | case3 a b =>
    have ha := a.toNat_lt
    have hb := b.toNat_lt
    -- The last six bits are filled up with zeros, so the number has just the bits of two bytes.
    have hlast : (a.toNat * 65536 + b.toNat * 256) % 64 = 0 := by omega
    have hvalue := groups_eq (a.toNat * 65536 + b.toNat * 256)
    rw [hlast, Nat.add_zero] at hvalue
    have hfirst : (a.toNat * 65536 + b.toNat * 256) / 65536 = a.toNat := by omega
    have hsecond : (a.toNat * 65536 + b.toNat * 256) / 256 = a.toNat * 256 + b.toNat := by omega
    simp only [sextets, join, hvalue, hfirst, hsecond]
    simp
  | case4 a b c rest ih =>
    have ha := a.toNat_lt
    have hb := b.toNat_lt
    have hc := c.toNat_lt
    have hfirst : (a.toNat * 65536 + b.toNat * 256 + c.toNat) / 65536 = a.toNat := by omega
    have hsecond : (a.toNat * 65536 + b.toNat * 256 + c.toNat) / 256 =
        a.toNat * 256 + b.toNat := by omega
    have hthird : a.toNat * 65536 + b.toNat * 256 + c.toNat =
        (a.toNat * 256 + b.toNat) * 256 + c.toNat := by omega
    simp only [sextets, join, groups_eq, hfirst, hsecond, ih]
    rw [hthird]
    simp

/-- The letters leave room for just the equals signs that follow them. -/
theorem maxFill?_length_sextets : maxFill? (sextets bytes).length = some (padding bytes) := by
  induction bytes using encode.induct with
  | case1 => rfl
  | case2 a => rfl
  | case3 a b => rfl
  | case4 a b c rest ih =>
    simp only [sextets, padding, List.length_cons, maxFill?, Nat.add_assoc] at ih ⊢
    rw [Nat.add_mod_right]
    exact ih

/-! ### Letters -/

/-- A letter is one byte, which is read as the group it stands for and is neither an
equals sign nor white space. -/
theorem letter_spec : ∀ n < 64,
    (letter n).toNat < 128 ∧ bits? (UInt8.ofNat (letter n).toNat) = some n ∧
      UInt8.ofNat (letter n).toNat ≠ fill ∧ isBlank (UInt8.ofNat (letter n).toNat) = false := by
  decide

/-- The letters of groups are one byte each. -/
theorem utf8_map_letter {groups : List Nat} (h : ∀ n ∈ groups, n < 64) (cs : List Char) :
    utf8 (groups.map letter ++ cs) =
      (groups.map fun n => UInt8.ofNat (letter n).toNat) ++ utf8 cs := by
  induction groups with
  | nil => rfl
  | cons n rest ih =>
    have hn := (letter_spec n (h n List.mem_cons_self)).1
    have hrest := ih fun m hm => h m (List.mem_cons_of_mem n hm)
    rw [List.map_cons, List.cons_append, utf8_cons_of_lt hn, hrest]
    rfl

/-- The filler is one byte for each equals sign. -/
theorem utf8_replicate_fill (n : Nat) : utf8 (List.replicate n '=') = List.replicate n fill := by
  induction n with
  | zero => rfl
  | succ n ih =>
    rw [List.replicate_succ, utf8_cons_of_lt (by decide), ih]
    rfl

/-- The groups are read back from their letters. Each of the 64 letters stands for one group. -/
theorem mapM_bits?_letter {groups : List Nat} (h : ∀ n ∈ groups, n < 64) :
    (groups.map fun n => UInt8.ofNat (letter n).toNat).mapM bits? = some groups := by
  induction groups with
  | nil => rfl
  | cons n rest ih =>
    have hn := (letter_spec n (h n List.mem_cons_self)).2.1
    have hrest := ih fun m hm => h m (List.mem_cons_of_mem n hm)
    simp [hn, hrest]

/-! ### Reading back -/

/-- The bytes of a text in base64: letters, and then equals signs. -/
theorem utf8_encode : utf8 (encode bytes) =
    (sextets bytes).map (fun n => UInt8.ofNat (letter n).toNat) ++
      List.replicate (padding bytes) fill := by
  rw [encode_eq, utf8_map_letter fun n => lt_of_mem_sextets, utf8_replicate_fill]

/-- Each character of a text in base64 is a letter or an equals sign. -/
theorem mem_encode {c : Char} (h : c ∈ encode bytes) : (∃ n < 64, c = letter n) ∨ c = '=' := by
  rw [encode_eq] at h
  rcases List.mem_append.mp h with h | h
  · obtain ⟨n, hn, rfl⟩ := List.mem_map.mp h
    exact Or.inl ⟨n, lt_of_mem_sextets hn, rfl⟩
  · exact Or.inr (List.eq_of_mem_replicate h)

/-- Each byte of a text in base64 is a letter or an equals sign. -/
theorem mem_utf8_encode {b : UInt8} (h : b ∈ utf8 (encode bytes)) :
    (∃ n, bits? b = some n) ∨ b = fill := by
  rw [utf8_encode] at h
  rcases List.mem_append.mp h with h | h
  · obtain ⟨n, hn, rfl⟩ := List.mem_map.mp h
    exact Or.inl ⟨n, (letter_spec n (lt_of_mem_sextets hn)).2.1⟩
  · exact Or.inr (List.eq_of_mem_replicate h)

/-- Base64 is decoded to the bytes that were encoded, whatever they are. -/
theorem decode_encode : decode (utf8 (encode bytes)) = some bytes := by
  have hgroups : ∀ n ∈ sextets bytes, n < 64 := fun n => lt_of_mem_sextets
  have hbytes : utf8 (encode bytes) = _ := utf8_encode
  -- There is no white space to skip, and the letters end where the equals signs begin.
  have hsymbols : (utf8 (encode bytes)).filter (fun b => !isBlank b) = utf8 (encode bytes) := by
    rw [hbytes, List.filter_eq_self]
    intro b hb
    rcases List.mem_append.mp hb with hb | hb
    · obtain ⟨n, hn, rfl⟩ := List.mem_map.mp hb
      simp [(letter_spec n (hgroups n hn)).2.2.2]
    · rw [List.eq_of_mem_replicate hb]
      rfl
  have hletters : ∀ b ∈ (sextets bytes).map fun n => UInt8.ofNat (letter n).toNat, b ≠ fill := by
    intro b hb
    obtain ⟨n, hn, rfl⟩ := List.mem_map.mp hb
    exact (letter_spec n (hgroups n hn)).2.2.1
  have htake : (utf8 (encode bytes)).takeWhile (· ≠ fill) =
      (sextets bytes).map fun n => UInt8.ofNat (letter n).toNat := by
    rw [hbytes, List.takeWhile_append_of_pos (by simpa using hletters)]
    cases padding bytes <;> simp [List.replicate_succ]
  have hdrop : (utf8 (encode bytes)).dropWhile (· ≠ fill) =
      List.replicate (padding bytes) fill := by
    rw [hbytes, List.dropWhile_append_of_pos (by simpa using hletters)]
    cases padding bytes <;> simp [List.replicate_succ]
  simp only [decode, hsymbols, htake, hdrop, List.length_map, maxFill?_length_sextets,
    mapM_bits?_letter hgroups]
  simp [join_sextets]

/-- Different bytes have different base64, because it can be read back. -/
theorem encode_inj {bytes' : List UInt8} : encode bytes = encode bytes' ↔ bytes = bytes' := by
  constructor
  · intro h
    have hdecoded : decode (utf8 (encode bytes)) = some bytes := decode_encode
    rwa [h, decode_encode, Option.some.injEq, eq_comm] at hdecoded
  · rintro rfl
    rfl

/-- White space does not count, wherever it stands. So the lines of base64 may be wrapped in any
way. -/
theorem decode_filter_isBlank (text : List UInt8) :
    decode (text.filter fun b => !isBlank b) = decode text := by
  rw [decode, decode, List.filter_filter]
  simp only [Bool.and_self]

end EntitlementClient.Text.Base64
