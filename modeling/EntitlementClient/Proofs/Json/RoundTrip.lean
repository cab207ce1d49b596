import EntitlementClient.Content
import EntitlementClient.Proofs.OrderedMap
import EntitlementClient.Proofs.Text.Utf8

/-!
# `EntitlementClient.Proofs.Json.RoundTrip`: what is printed is read back

A value whose numbers are integers of 64 bits is read back from its compact text, unless
it is nested deeper than the reader goes or has an object that names a member twice. `Json.reads` says
so for a value at the head of a longer text, which is what the induction needs: after a
value inside an array or an object comes a comma or the closing bracket (`Json.Ends`), and
neither can continue a numeral. `Json.readChars?_renderChars` is the case of a whole text,
and `Content.readJson?_utf8` that of a body.

Doubles are left out. The reader takes their digits as an integer and scales it, and each
of the two steps rounds, so the double that comes back can be a neighbour of the one that
was printed.
-/

set_option autoImplicit false

namespace EntitlementClient

/-! ### Values that are read back -/

/-- An integer that fits in 64 bits, signed or unsigned. -/
def Number.IsWord : Number → Prop
  | .integer n => -(Nat.pow 2 63 : Nat) ≤ n ∧ n < (Nat.pow 2 64 : Nat)
  | .float _ => False

namespace Json

mutual

/-- Every number in the value, at any depth, is an integer that fits in 64 bits. -/
def Integral : Json → Prop
  | .number n => n.IsWord
  | .array items => IntegralItems items
  | .object members => IntegralMembers members
  | _ => True

/-- So is every number of a list of values. -/
def IntegralItems : List Json → Prop
  | [] => True
  | v :: rest => v.Integral ∧ IntegralItems rest

/-- So is every number of a list of members. -/
def IntegralMembers : List (String × Json) → Prop
  | [] => True
  | (_, v) :: rest => v.Integral ∧ IntegralMembers rest

end

mutual

/-- How deep arrays and objects are nested in the value. -/
def depth : Json → Nat
  | .array items => depthItems items + 1
  | .object members => depthMembers members + 1
  | _ => 0

/-- How deep they are nested in the values of a list. -/
def depthItems : List Json → Nat
  | [] => 0
  | v :: rest => max v.depth (depthItems rest)

/-- How deep they are nested in the values of members. -/
def depthMembers : List (String × Json) → Nat
  | [] => 0
  | (_, v) :: rest => max v.depth (depthMembers rest)

end

/-! ### Numerals -/

/-- What can follow a value inside of another: nothing that would continue a numeral. -/
def Ends (tail : List Char) : Prop := ∀ c ∈ tail.head?, c = ',' ∨ c = ']' ∨ c = '\x7d'

/-- Digits are gathered whole when their value fits. The value only grows along the digits, so
what has been gathered before fits too. -/
theorem gatherDigits_eq {value : Nat} {digits : List Char}
    (h : Nat.ofDigitChars 10 digits value < Nat.pow 2 64) :
    gatherDigits value digits = (Nat.ofDigitChars 10 digits value, []) := by
  induction digits generalizing value with
  | nil => rfl
  | cons c rest ih =>
    rw [Nat.ofDigitChars_cons, Nat.mul_comm] at h ⊢
    -- The next value is at most the whole, which fits.
    have hnext : value * 10 + (c.toNat - '0'.toNat) < Nat.pow 2 64 := by
      rw [Nat.ofDigitChars_eq_ofDigitChars_zero] at h
      have hpow : 1 * (value * 10 + (c.toNat - '0'.toNat)) ≤
          10 ^ rest.length * (value * 10 + (c.toNat - '0'.toNat)) :=
        Nat.mul_le_mul_right _ (Nat.pow_pos (by decide))
      omega
    rw [gatherDigits, if_pos hnext, ih h]

/-- The decimal of a number other than zero does not begin with a zero. The induction takes the
last digit off. -/
theorem head?_toDigits_ne {n : Nat} (h : n ≠ 0) : (Nat.toDigits 10 n).head? ≠ some '0' := by
  have hdigit : ∀ m < 10, m ≠ 0 → some (Nat.digitChar m) ≠ some '0' := by decide
  induction n using Nat.strongRecOn with
  | ind n ih =>
    rw [Nat.toDigits_eq_if (by decide)]
    split
    · rename_i hlt
      exact hdigit n hlt h
    · rename_i hle
      have hhead := ih (n / 10) (by omega) (by omega)
      have hne : Nat.toDigits 10 (n / 10) ≠ [] := Nat.toDigits_ne_nil
      cases hdigits : Nat.toDigits 10 (n / 10) with
      | nil => exact absurd hdigits hne
      | cons c rest => rwa [hdigits] at hhead

/-- The digits of a number are taken whole from the head of a text. What ends a value is no digit,
so they end there. -/
theorem splitDigits_toDigits (n : Nat) {tail : List Char} (htail : Ends tail) :
    splitDigits (Nat.toDigits 10 n ++ tail) = (Nat.toDigits 10 n, tail) := by
  have hdigits : ∀ c ∈ Nat.toDigits 10 n, c.isDigit = true :=
    fun c hc => Nat.isDigit_of_mem_toDigits (by decide) (by decide) hc
  have hstop : tail.takeWhile Char.isDigit = [] ∧ tail.dropWhile Char.isDigit = tail := by
    cases tail with
    | nil => exact ⟨rfl, rfl⟩
    | cons c rest =>
      have hc : c.isDigit = false := by
        rcases htail c rfl with rfl | rfl | rfl <;> decide
      exact ⟨List.takeWhile_cons_of_neg (by simp [hc]), List.dropWhile_cons_of_neg (by simp [hc])⟩
  rw [splitDigits, List.takeWhile_append_of_pos hdigits, List.dropWhile_append_of_pos hdigits,
    hstop.1, hstop.2, List.append_nil]

/-- The digits of a number are the whole part of a numeral. They have no leading zero, apart from
the digit of zero itself. -/
theorem readWhole_toDigits (n : Nat) {tail : List Char} (htail : Ends tail) :
    readWhole (Nat.toDigits 10 n ++ tail) = some (Nat.toDigits 10 n, tail) := by
  unfold readWhole
  rw [splitDigits_toDigits n htail]
  by_cases hzero : n = 0
  · subst hzero
    rw [Nat.toDigits_zero]
    rfl
  · -- The reader refuses a zero before other digits, and there is none.
    have hhead := head?_toDigits_ne hzero
    have hne : Nat.toDigits 10 n ≠ [] := Nat.toDigits_ne_nil
    generalize Nat.toDigits 10 n = digits at hhead hne
    split
    · rename_i heq
      cases heq
      exact absurd rfl hne
    · rename_i heq
      cases heq
      exact absurd rfl hhead
    · rename_i heq
      cases heq
      exact absurd rfl hhead
    · rfl

/-- What ends a value has neither a point nor an exponent. -/
theorem Ends.readFraction {tail : List Char} (htail : Ends tail) :
    readFraction tail = some (none, tail) := by
  cases tail with
  | nil => rfl
  | cons c rest => rcases htail c rfl with rfl | rfl | rfl <;> rfl

/-- It has no exponent either. -/
theorem Ends.readExponent {tail : List Char} (htail : Ends tail) :
    readExponent tail = some (none, tail) := by
  cases tail with
  | nil => rfl
  | cons c rest => rcases htail c rfl with rfl | rfl | rfl <;> rfl

/-- The text of an integer is a numeral with its sign and its digits, and with neither a fraction
nor an exponent. -/
theorem readNumeral_renderInt (n : Int) {tail : List Char} (htail : Ends tail) :
    readNumeral (Number.renderInt n ++ tail) =
      some (⟨n < 0, Nat.toDigits 10 n.natAbs, none, none⟩, tail) := by
  unfold Number.renderInt
  split
  · rename_i hneg
    rw [List.cons_append, readNumeral]
    simp only [readWhole_toDigits n.natAbs htail, htail.readFraction, htail.readExponent,
      Option.bind_eq_bind, Option.bind_some, decide_eq_true hneg]
    rfl
  · rename_i hneg
    -- The first digit is not a minus sign.
    have hsign : ∀ rest, Nat.toDigits 10 n.natAbs ++ tail ≠ '-' :: rest := by
      intro rest heq
      have hmem : '-' ∈ Nat.toDigits 10 n.natAbs := by
        cases hdigits : Nat.toDigits 10 n.natAbs with
        | nil => exact absurd hdigits Nat.toDigits_ne_nil
        | cons c rest =>
          rw [hdigits, List.cons_append] at heq
          cases heq
          exact List.mem_cons_self
      exact absurd (Nat.isDigit_of_mem_toDigits (by decide) (by decide) hmem) (by decide)
    have hwhole := readWhole_toDigits n.natAbs htail
    generalize Nat.toDigits 10 n.natAbs = digits at hsign hwhole ⊢
    unfold readNumeral
    split
    rename_i negative cs hmatch
    split at hmatch
    · rename_i rest heq
      exact absurd heq (hsign rest)
    · cases hmatch
      simp only [hwhole, htail.readFraction, htail.readExponent, Option.bind_eq_bind,
        Option.bind_some, decide_eq_false hneg]
      rfl

/-- The numeral of an integer that fits is the integer. A negative one is read as the number of
its digits, and then negated. -/
theorem toNumber?_of_isWord {n : Int} (h : (Number.integer n).IsWord) :
    Numeral.toNumber? ⟨n < 0, Nat.toDigits 10 n.natAbs, none, none⟩ = some (.integer n) := by
  have hlow : -(9223372036854775808 : Int) ≤ n := h.1
  have hhigh : n < (18446744073709551616 : Int) := h.2
  have hgather : gatherDigits 0 (Nat.toDigits 10 n.natAbs) = (n.natAbs, []) := by
    have hvalue : Nat.ofDigitChars 10 (Nat.toDigits 10 n.natAbs) 0 = n.natAbs :=
      Nat.ofDigitChars_ten_toDigits
    have hfits : n.natAbs < 18446744073709551616 := by omega
    rw [gatherDigits_eq (by rwa [hvalue]), hvalue]
  unfold Numeral.toNumber?
  rw [hgather]
  by_cases hneg : n < 0
  · have hfits : ¬ (n.natAbs = 0 ∨ Nat.pow 2 63 < n.natAbs) := by
      show ¬ (n.natAbs = 0 ∨ 9223372036854775808 < n.natAbs)
      omega
    have hvalue : -(n.natAbs : Int) = n := by omega
    simp only [decide_eq_true hneg, if_true, if_neg hfits, hvalue]
  · have hvalue : (n.natAbs : Int) = n := by omega
    simp only [decide_eq_false hneg, hvalue]
    rfl

/-! ### Strings -/

/-- The four digits that are written for a control character are read back. -/
theorem hexQuad?_control {n : Nat} (h : n < 32) :
    hexQuad? '0' '0' (Nat.digitChar (n / 16)) (Nat.digitChar (n % 16)) = some n := by
  have hall : ∀ n < 32,
      hexQuad? '0' '0' (Nat.digitChar (n / 16)) (Nat.digitChar (n % 16)) = some n := by decide
  exact hall n h

/-- An escaped control character is read as the character. Five of them have a letter of their
own, and the others are written with four digits. -/
theorem readString_escapeControl {c : Char} (h : c.toNat < 32) (done rest : List Char) :
    readString done (escapeControl c ++ rest) = readString (c :: done) rest := by
  unfold escapeControl
  split
  · rename_i heq
    subst heq
    rfl
  split
  · rename_i heq
    subst heq
    rfl
  split
  · rename_i heq
    subst heq
    rfl
  split
  · rename_i heq
    subst heq
    rfl
  split
  · rename_i heq
    subst heq
    rfl
  · have hlow : ¬ (0xD800 ≤ c.toNat ∧ c.toNat < 0xDC00) := by omega
    have hhigh : ¬ (0xDC00 ≤ c.toNat ∧ c.toNat < 0xE000) := by omega
    simp only [List.cons_append, List.nil_append, readString, hexQuad?_control h, if_neg hlow,
      if_neg hhigh, Char.ofNat_toNat]

/-- An escaped character is read as the character. Only the quote, the backslash and the control
characters are escaped. -/
theorem readString_escapeChar (c : Char) (done rest : List Char) :
    readString done (escapeChar c ++ rest) = readString (c :: done) rest := by
  unfold escapeChar
  split
  · rename_i heq
    subst heq
    rfl
  split
  · rename_i heq
    subst heq
    rfl
  split
  · rename_i hcontrol
    exact readString_escapeControl hcontrol done rest
  · rename_i hquote hbackslash hcontrol
    rw [List.singleton_append, readString.eq_def]
    split
    · rename_i heq
      cases heq
    · rename_i heq
      cases heq
      exact absurd rfl hquote
    · rename_i heq
      cases heq
      exact absurd rfl hbackslash
    · rename_i heq
      cases heq
      exact absurd rfl hbackslash
    · rename_i heq
      cases heq
      rw [if_neg hcontrol]

/-- The characters of a string are read up to the quote that closes it. The induction goes over
the characters, with those that have been read generalised. -/
theorem readString_flatMap (text done tail : List Char) :
    readString done (text.flatMap escapeChar ++ '"' :: tail) =
      some (String.ofList (done.reverse ++ text), tail) := by
  induction text generalizing done with
  | nil =>
    rw [List.append_nil]
    rfl
  | cons c rest ih =>
    rw [List.flatMap_cons, List.append_assoc, readString_escapeChar, ih, List.reverse_cons,
      List.append_assoc]
    rfl

/-- A printed string is read back. What follows its closing quote is left. -/
theorem readString_renderString (text : String) (tail : List Char) :
    ∃ rest, renderString text.toList ++ tail = '"' :: rest ∧
      readString [] rest = some (text, tail) := by
  refine ⟨text.toList.flatMap escapeChar ++ '"' :: tail, ?_, ?_⟩
  · simp [renderString]
  · rw [readString_flatMap, List.reverse_nil, List.nil_append, String.ofList_toList]

/-! ### Values -/

/-- A text that begins with neither a blank nor the bracket that closes an array or an object. -/
def Begins (cs : List Char) : Prop :=
  ∃ c rest, cs = c :: rest ∧ isBlank c = false ∧ c ≠ ']' ∧ c ≠ '\x7d'

/-- What follows does not matter for how a text begins. -/
theorem Begins.append {cs : List Char} (h : Begins cs) (tail : List Char) :
    Begins (cs ++ tail) := by
  obtain ⟨c, rest, rfl, hc⟩ := h
  exact ⟨c, rest ++ tail, rfl, hc⟩

/-- There are no blanks to skip. -/
theorem Begins.skipBlanks {cs : List Char} (h : Begins cs) : skipBlanks cs = cs := by
  obtain ⟨c, rest, rfl, hc, -⟩ := h
  exact List.dropWhile_cons_of_neg (by simp [hc])

/-- What ends a value is no blank either. -/
theorem Ends.skipBlanks {tail : List Char} (h : Ends tail) : skipBlanks tail = tail := by
  cases tail with
  | nil => rfl
  | cons c rest => rcases h c rfl with rfl | rfl | rfl <;> rfl

/-- The text of an integer begins with a sign or a digit. -/
theorem renderInt_eq_cons (n : Int) :
    ∃ c rest, Number.renderInt n = c :: rest ∧ (c = '-' ∨ c.isDigit = true) := by
  unfold Number.renderInt
  split
  · exact ⟨_, _, rfl, Or.inl rfl⟩
  · cases hdigits : Nat.toDigits 10 n.natAbs with
    | nil => exact absurd hdigits Nat.toDigits_ne_nil
    | cons c rest =>
      have hmem : c ∈ Nat.toDigits 10 n.natAbs := hdigits ▸ List.mem_cons_self
      exact ⟨c, rest, rfl, Or.inr (Nat.isDigit_of_mem_toDigits (by decide) (by decide) hmem)⟩

/-- The text of a value begins with neither a blank nor a closing bracket. So the reader has
nothing to skip before it, and does not take it for the end of a list. -/
theorem begins_renderChars (v : Json) (h : v.Integral) : Begins v.renderChars := by
  cases v with
  | null => exact ⟨_, _, rfl, rfl, by decide, by decide⟩
  | bool b => cases b <;> exact ⟨_, _, rfl, rfl, by decide, by decide⟩
  | number n =>
    cases n with
    | integer n =>
      obtain ⟨c, rest, hrender, hc⟩ := renderInt_eq_cons n
      refine ⟨c, rest, hrender, ?_⟩
      rcases hc with rfl | hdigit
      · exact ⟨rfl, by decide, by decide⟩
      · have hblank : ∀ d : Char, d.isDigit = false → c ≠ d := by
          rintro d hd rfl
          rw [hdigit] at hd
          cases hd
        simp [isBlank, hblank]
    | float x => exact absurd h id
  | string text => exact ⟨_, _, rfl, rfl, by decide, by decide⟩
  | array items => exact ⟨_, _, rfl, rfl, by decide, by decide⟩
  | object members => exact ⟨_, _, rfl, rfl, by decide, by decide⟩

/-- So does the text of a list of values, if there are any. -/
theorem begins_renderItems (v : Json) (rest : List Json) (h : v.Integral) :
    Begins (renderItems (v :: rest)) := by
  cases rest with
  | nil => exact begins_renderChars v h
  | cons w rest => exact (begins_renderChars v h).append _

/-- The text of members begins with the quote of the first name. -/
theorem begins_renderMembers (m : String × Json) (rest : List (String × Json)) :
    Begins (renderMembers (m :: rest)) := by
  cases rest <;> exact ⟨_, _, rfl, rfl, by decide, by decide⟩

/-- A text that begins with a sign or a digit is read as a number, since no other value begins so.
-/
theorem readValue_of_number {cs : List Char} (fuel depth : Nat) (hbegins : Begins cs)
    (h : ∃ c rest, cs = c :: rest ∧ (c = '-' ∨ c.isDigit = true)) :
    readValue (fuel + 1) depth cs =
      match readNumeral cs with
      | none => none
      | some (n, rest) => n.toNumber?.map fun number => (.number number, rest) := by
  obtain ⟨c, rest, rfl, hc⟩ := h
  have hne : ∀ d : Char, d ≠ '-' → d.isDigit = false → c ≠ d := by
    rintro d hminus hdigit rfl
    rcases hc with hc | hc
    · exact hminus hc
    · rw [hdigit] at hc
      cases hc
  rw [readValue, hbegins.skipBlanks]
  split
  case h_7 => rfl
  all_goals
    rename_i heq
    cases heq
    exact absurd rfl (hne _ (by decide) (by decide))

/-- A value is read back from the head of any text in which it ends, with a step of the
reader for each half of a character and no more depth than it has. -/
def Reads (v : Json) : Prop :=
  ∀ (fuel depth : Nat) (tail : List Char), v.depth ≤ depth → 2 * v.renderChars.length ≤ fuel →
    Ends tail → readValue fuel depth (v.renderChars ++ tail) = some (v, tail)

/-- The comma and the brackets end a value. -/
theorem ends_cons {c : Char} (h : c = ',' ∨ c = ']' ∨ c = '\x7d') (rest : List Char) :
    Ends (c :: rest) := by
  intro d hd
  obtain rfl := Option.some.inj hd
  exact h

/-- After an item and a comma comes another item. -/
theorem readItems_comma {v : Json} {fuel depth : Nat} {done : List Json} {cs rest : List Char}
    (h : readValue fuel depth cs = some (v, ',' :: rest)) :
    readItems (fuel + 1) depth done cs = readItems fuel depth (v :: done) rest := by
  rw [readItems, h]
  rfl

/-- After an item and the closing bracket the list is complete. -/
theorem readItems_bracket {v : Json} {fuel depth : Nat} {done : List Json} {cs rest : List Char}
    (h : readValue fuel depth cs = some (v, ']' :: rest)) :
    readItems (fuel + 1) depth done cs = some ((v :: done).reverse, rest) := by
  rw [readItems, h]
  rfl

/-- Values that are read back are read back from a list. The induction goes over the values, with
those that have been read and the fuel generalised. -/
theorem readItems_renderItems {items : List Json} (hne : items ≠ []) (hreads : ∀ v ∈ items, v.Reads)
    {fuel depth : Nat} {done : List Json} {tail : List Char} (hdepth : depthItems items ≤ depth)
    (hfuel : 2 * (renderItems items).length < fuel) :
    readItems fuel depth done (renderItems items ++ ']' :: tail) =
      some (done.reverse ++ items, tail) := by
  induction items generalizing fuel done with
  | nil => exact absurd rfl hne
  | cons v rest ih =>
    obtain ⟨fuel, rfl⟩ : ∃ n, fuel = n + 1 := ⟨fuel - 1, by omega⟩
    have hv : v.Reads := hreads v List.mem_cons_self
    rw [depthItems] at hdepth
    cases rest with
    | nil =>
      rw [renderItems] at hfuel ⊢
      have hends : Ends (']' :: tail) := ends_cons (by decide) tail
      rw [readItems_bracket (hv _ _ _ (by omega) (by omega) hends), List.reverse_cons]
    | cons w rest =>
      -- The text of the item and the comma pays for their steps, so the rest has fuel enough.
      rw [renderItems, List.length_append, List.length_cons] at hfuel
      have hends : Ends (',' :: (renderItems (w :: rest) ++ ']' :: tail)) := ends_cons (by decide) _
      rw [renderItems, List.append_assoc, List.cons_append,
        readItems_comma (hv _ _ _ (by omega) (by omega) hends),
        ih (List.cons_ne_nil _ _) (fun x hx => hreads x (List.mem_cons_of_mem _ hx)) (by omega)
          (by omega), List.reverse_cons, List.append_assoc]
      rfl

/-- After a member and a comma comes another member. -/
theorem readMembers_comma {name : String} {v : Json} {fuel depth : Nat} {done : OrderedMap Json}
    {cs rest : List Char} (h : readValue fuel depth cs = some (v, ',' :: rest)) :
    readMembers (fuel + 1) depth done (renderString name.toList ++ ':' :: cs) =
      readMembers fuel depth (done.insert name v) rest := by
  obtain ⟨after, hname, hread⟩ := readString_renderString name (':' :: cs)
  have hquote : skipBlanks ('"' :: after) = '"' :: after := rfl
  have hcolon : skipBlanks (':' :: cs) = ':' :: cs := rfl
  rw [hname, readMembers, hquote]
  simp only [hread, hcolon, h]
  rfl

/-- After a member and the closing brace the object is complete. -/
theorem readMembers_brace {name : String} {v : Json} {fuel depth : Nat} {done : OrderedMap Json}
    {cs rest : List Char} (h : readValue fuel depth cs = some (v, '\x7d' :: rest)) :
    readMembers (fuel + 1) depth done (renderString name.toList ++ ':' :: cs) =
      some (done.insert name v, rest) := by
  obtain ⟨after, hname, hread⟩ := readString_renderString name (':' :: cs)
  have hquote : skipBlanks ('"' :: after) = '"' :: after := rfl
  have hcolon : skipBlanks (':' :: cs) = ':' :: cs := rfl
  rw [hname, readMembers, hquote]
  simp only [hread, hcolon, h]
  rfl

/-- Members whose values are read back are set one after the other in the members that are there.
The induction goes over the members. -/
theorem readMembers_renderMembers {members : List (String × Json)} (hne : members ≠ [])
    (hreads : ∀ m ∈ members, m.2.Reads) {fuel depth : Nat} {done : OrderedMap Json}
    {tail : List Char} (hdepth : depthMembers members ≤ depth)
    (hfuel : 2 * (renderMembers members).length < fuel) :
    readMembers fuel depth done (renderMembers members ++ '\x7d' :: tail) =
      some (done.insertAll members, tail) := by
  induction members generalizing fuel done with
  | nil => exact absurd rfl hne
  | cons m rest ih =>
    obtain ⟨fuel, rfl⟩ : ∃ n, fuel = n + 1 := ⟨fuel - 1, by omega⟩
    obtain ⟨name, v⟩ := m
    have hv : v.Reads := hreads _ List.mem_cons_self
    rw [depthMembers] at hdepth
    cases rest with
    | nil =>
      rw [renderMembers, List.length_append, List.length_cons] at hfuel
      have hends : Ends ('\x7d' :: tail) := ends_cons (by decide) tail
      rw [renderMembers, List.append_assoc, List.cons_append,
        readMembers_brace (hv _ _ _ (by omega) (by omega) hends)]
      rfl
    | cons n rest =>
      -- The text of the member and the comma pays for theirs.
      rw [renderMembers, List.length_append, List.length_cons, List.length_append,
        List.length_cons] at hfuel
      have hends : Ends (',' :: (renderMembers (n :: rest) ++ '\x7d' :: tail)) :=
        ends_cons (by decide) _
      rw [renderMembers, List.append_assoc, List.cons_append, List.append_assoc, List.cons_append,
        readMembers_comma (hv _ _ _ (by omega) (by omega) hends)]
      exact ih (List.cons_ne_nil _ _) (fun x hx => hreads x (List.mem_cons_of_mem _ hx)) (by omega)
        (by omega)

/-- After an opening bracket come the values, or the closing one. -/
theorem readValue_array (fuel depth : Nat) (cs : List Char) :
    readValue (fuel + 1) (depth + 1) ('[' :: cs) =
      match skipBlanks cs with
      | ']' :: rest => some (array [], rest)
      | rest => (readItems fuel depth [] rest).map fun (items, rest) => (array items, rest) := rfl

/-- After an opening brace come the members, or the closing one. -/
theorem readValue_object (fuel depth : Nat) (cs : List Char) :
    readValue (fuel + 1) (depth + 1) ('\x7b' :: cs) =
      match skipBlanks cs with
      | '\x7d' :: rest => some (object [], rest)
      | rest =>
        (readMembers fuel depth .empty rest).map fun (fields, rest) => (ofMap fields, rest) := rfl

/-- An array is read back when its values are. Each of them is nested less deep, and its text is
shorter. -/
theorem reads_array {items : List Json} (hintegral : ∀ v ∈ items, v.Integral)
    (hreads : ∀ v ∈ items, v.Reads) : (array items).Reads := by
  intro fuel depth tail hdepth hfuel hends
  rw [Json.depth] at hdepth
  rw [renderChars, List.length_cons, List.length_append] at hfuel
  obtain ⟨fuel, rfl⟩ : ∃ n, fuel = n + 1 := ⟨fuel - 1, by omega⟩
  obtain ⟨depth, rfl⟩ : ∃ n, depth = n + 1 := ⟨depth - 1, by omega⟩
  rw [renderChars, List.cons_append, List.append_assoc, List.singleton_append, readValue_array]
  cases items with
  | nil => rfl
  | cons v rest =>
    -- The first item does not begin like the end of the list, so the reader looks for items.
    have hbegins :=
      (begins_renderItems v rest (hintegral v List.mem_cons_self)).append (']' :: tail)
    rw [hbegins.skipBlanks]
    obtain ⟨c, cs, hcs, -, hbracket, -⟩ := hbegins
    split
    · rename_i heq
      rw [heq] at hcs
      cases hcs
      exact absurd rfl hbracket
    · rw [readItems_renderItems (List.cons_ne_nil _ _) hreads (by omega)
        (by simp only [List.length_singleton] at hfuel; omega)]
      rfl

/-- An object that names every member once is read back when its values are. Without that, a later
member would take the place of an earlier one. -/
theorem reads_object {members : List (String × Json)} (hnodup : (members.map Prod.fst).Nodup)
    (hreads : ∀ m ∈ members, m.2.Reads) : (object members).Reads := by
  intro fuel depth tail hdepth hfuel hends
  rw [Json.depth] at hdepth
  rw [renderChars, List.length_cons, List.length_append] at hfuel
  obtain ⟨fuel, rfl⟩ : ∃ n, fuel = n + 1 := ⟨fuel - 1, by omega⟩
  obtain ⟨depth, rfl⟩ : ∃ n, depth = n + 1 := ⟨depth - 1, by omega⟩
  rw [renderChars, List.cons_append, List.append_assoc, List.singleton_append, readValue_object]
  cases members with
  | nil => rfl
  | cons m rest =>
    have hbegins := (begins_renderMembers m rest).append ('\x7d' :: tail)
    rw [hbegins.skipBlanks]
    obtain ⟨c, cs, hcs, -, -, hbrace⟩ := hbegins
    split
    · rename_i heq
      rw [heq] at hcs
      cases hcs
      exact absurd rfl hbrace
    · rw [readMembers_renderMembers (List.cons_ne_nil _ _) hreads (by omega)
        (by simp only [List.length_singleton] at hfuel; omega)]
      -- The members name each other apart, so setting them gives just them.
      have hentries : (OrderedMap.ofList (m :: rest)).entries = m :: rest :=
        OrderedMap.entries_ofList hnodup
      exact congrArg (fun ms => some (object ms, tail)) hentries

/-- One step of the reader is enough for a value without parts, and there is fuel for it because
no text is empty. -/
theorem reads_of_succ {v : Json}
    (h : ∀ (fuel depth : Nat) (tail : List Char), Ends tail →
      readValue (fuel + 1) depth (v.renderChars ++ tail) = some (v, tail))
    (hintegral : v.Integral) : v.Reads := by
  intro fuel depth tail _ hfuel hends
  obtain ⟨c, rest, hrender, -⟩ := begins_renderChars v hintegral
  rw [hrender, List.length_cons] at hfuel
  obtain ⟨fuel, rfl⟩ : ∃ n, fuel = n + 1 := ⟨fuel - 1, by omega⟩
  exact h fuel depth tail hends

/-- An integer is read back. -/
theorem reads_integer {n : Int} (h : (Number.integer n).IsWord) :
    (number (.integer n)).Reads := by
  have hintegral : (number (.integer n)).Integral := by rwa [Integral]
  refine reads_of_succ (fun fuel depth tail hends => ?_) hintegral
  obtain ⟨c, rest, hrender, hc⟩ := renderInt_eq_cons n
  have hbegins : Begins (Number.renderInt n ++ tail) :=
    (begins_renderChars _ hintegral).append tail
  have hnumber := readValue_of_number fuel depth hbegins
    ⟨c, rest ++ tail, by rw [hrender]; rfl, hc⟩
  rw [readNumeral_renderInt n hends] at hnumber
  dsimp only at hnumber
  rw [toNumber?_of_isWord h] at hnumber
  exact hnumber

/-- A string is read back. -/
theorem reads_string (text : String) (h : (string text).Integral) : (string text).Reads := by
  refine reads_of_succ (fun fuel depth tail _ => ?_) h
  obtain ⟨rest, hrest, hread⟩ := readString_renderString text tail
  have hquote : readValue (fuel + 1) depth ('"' :: rest) =
      (readString [] rest).map fun read => (string read.1, read.2) := rfl
  rw [renderChars, hrest, hquote, hread]
  rfl

mutual

/-- A value without doubles that names every member once is read back. The recursion is that of
the value, together with the lists of its items and its members. -/
theorem reads : (v : Json) → v.WellFormed → v.Integral → v.Reads
  | .null, _, h => reads_of_succ (fun _ _ _ _ => rfl) h
  | .bool true, _, h => reads_of_succ (fun _ _ _ _ => rfl) h
  | .bool false, _, h => reads_of_succ (fun _ _ _ _ => rfl) h
  | .number (.integer n), _, h => reads_integer (by rwa [Integral] at h)
  | .number (.float _), _, h => by
    rw [Integral] at h
    exact absurd h id
  | .string text, _, h => reads_string text h
  | .array items, hformed, h => by
    rw [WellFormed] at hformed
    rw [Integral] at h
    exact reads_array (fun v hv => (readsItems items hformed h v hv).1)
      fun v hv => (readsItems items hformed h v hv).2
  | .object members, hformed, h => by
    rw [WellFormed] at hformed
    rw [Integral] at h
    exact reads_object hformed.1 (readsMembers members hformed.2 h)

/-- So is every value of a list. -/
theorem readsItems : (items : List Json) → WellFormedItems items → IntegralItems items →
    ∀ v ∈ items, v.Integral ∧ v.Reads
  | [], _, _ => fun _ hv => nomatch hv
  | v :: rest, hformed, h => by
    rw [WellFormedItems] at hformed
    rw [IntegralItems] at h
    have hv : v.Reads := reads v hformed.1 h.1
    have hrest := readsItems rest hformed.2 h.2
    intro w hw
    rcases List.mem_cons.mp hw with rfl | hw
    · exact ⟨h.1, hv⟩
    · exact hrest w hw

/-- So is the value of every member of a list. -/
theorem readsMembers : (members : List (String × Json)) → WellFormedMembers members →
    IntegralMembers members → ∀ m ∈ members, m.2.Reads
  | [], _, _ => fun _ hm => nomatch hm
  | (name, v) :: rest, hformed, h => by
    rw [WellFormedMembers] at hformed
    rw [IntegralMembers] at h
    have hv : v.Reads := reads v hformed.1 h.1
    have hrest := readsMembers rest hformed.2 h.2
    intro m hm
    rcases List.mem_cons.mp hm with rfl | hm
    · exact hv
    · exact hrest m hm

end

/-! ### Texts and bodies -/

/-- A value that is printed is read back: one that names every member once, has no
doubles, and is nested no deeper than the reader goes. -/
theorem readChars?_renderChars {v : Json} (hformed : v.WellFormed) (hintegral : v.Integral)
    (hdepth : v.depth ≤ maxDepth) : readChars? v.renderChars = some v := by
  have hends : Ends [] := fun _ h => nomatch h
  have hread := reads v hformed hintegral (4 * v.renderChars.length + 4) maxDepth [] hdepth
    (by omega) hends
  rw [List.append_nil] at hread
  rw [readChars?, hread]
  rfl

/-- So two such values have the same text only when they are the same. -/
theorem renderChars_inj {v w : Json} (hv : v.WellFormed ∧ v.Integral ∧ v.depth ≤ maxDepth)
    (hw : w.WellFormed ∧ w.Integral ∧ w.depth ≤ maxDepth) :
    v.renderChars = w.renderChars ↔ v = w := by
  refine ⟨fun heq => ?_, fun heq => heq ▸ rfl⟩
  have hread := readChars?_renderChars hv.1 hv.2.1 hv.2.2
  rw [heq, readChars?_renderChars hw.1 hw.2.1 hw.2.2] at hread
  exact (Option.some.inj hread).symm

end Json

/-- A value that is sent as the bytes of its text is read back from them. This is what a server
reads from the body of a request, and what a client reads from the body of a reply. -/
theorem Content.readJson?_utf8 {v : Json} (hformed : v.WellFormed) (hintegral : v.Integral)
    (hdepth : v.depth ≤ Json.maxDepth) : readJson? (Text.utf8 v.renderChars) = some v := by
  rw [readJson?, Text.ofUtf8?_utf8, Option.bind_some,
    Json.readChars?_renderChars hformed hintegral hdepth]

/-- A number below the integers, escapes of both kinds, and an object in an array. -/
example : Content.readJson?
      (Text.utf8 "[-9223372036854775808,\"\\n\\u001f\",\x7b\"a\":[]\x7d]".toList) =
    some (.array [.number (.integer (-9223372036854775808)), .string "\n\x1f",
      .object [("a", .array [])]]) := by
  decide +kernel

end EntitlementClient
