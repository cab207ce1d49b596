import EntitlementClient.Duration

/-!
# `EntitlementClient.Proofs.Duration`: a duration is read back from its text

The text of a duration is a mixed-radix numeral. It has nine places (`Place`), from the
year to the nanosecond, and the places that count zero are left out. What is left are the
parts of `counted` (`parts_eq`), which together last as long as the duration
(`nanosOf_counted`).

Reading takes one part at a time. `Part.sumParts?_append` says what one part adds to the
total and where the next one begins, and `sumParts?_textOf` follows by induction for any
parts whose sum is still a duration. So no number that occurs on the way is too large, up
to the longest duration, and `ofText?_text` reads every duration back.
-/

set_option autoImplicit false

namespace EntitlementClient.Duration

/-! ### Places -/

/-- The number of a measure, whatever it counts. -/
def Measure.size : Measure → Nat
  | .nanos n | .seconds n => n

/-- How many nanoseconds a measure lasts. -/
def Measure.toNanos : Measure → Nat
  | .nanos n => n
  | .seconds n => n * nanosPerSecond

/-- A unit in which durations are written. -/
inductive Place where
  | year
  | month
  | day
  | hour
  | minute
  | second
  | milli
  | micro
  | nano
deriving DecidableEq, Repr

namespace Place

/-- The places, the longest unit first. -/
def all : List Place := [year, month, day, hour, minute, second, milli, micro, nano]

/-- The name behind a number. The longest units have a plural. -/
def name (place : Place) (n : Nat) : String :=
  match place with
  | year => if n = 1 then "year" else "year" ++ "s"
  | month => if n = 1 then "month" else "month" ++ "s"
  | day => if n = 1 then "day" else "day" ++ "s"
  | hour => "h"
  | minute => "m"
  | second => "s"
  | milli => "ms"
  | micro => "us"
  | nano => "ns"

/-- What a unit measures. -/
def measure : Place → Measure
  | year => .seconds 31557600
  | month => .seconds 2630016
  | day => .seconds 86400
  | hour => .seconds 3600
  | minute => .seconds 60
  | second => .seconds 1
  | milli => .nanos 1000000
  | micro => .nanos 1000
  | nano => .nanos 1

/-- Every unit lasts some time, so a count of it can be divided by its length. -/
theorem size_measure_pos (place : Place) : 0 < place.measure.size := by
  cases place <;> decide

/-- The name of a place consists of letters and stands in the table of units, for what the
place measures. -/
structure IsName (place : Place) (name : String) : Prop where
  /-- Reading the name stops at its end. -/
  letters : name.toList.all isUnitChar = true
  /-- The table has the name. -/
  found : (unit? name.toList).map TimeUnit.whole = some place.measure

/-- Each name that is written is a name of its place. The table of units is searched for
the names of a single unit and of several, which are the only two that a place has. -/
theorem isName_name (place : Place) (n : Nat) : place.IsName (place.name n) := by
  -- A place has at most two names, so the table is only looked up for numbers that are given.
  have hnumber : place.name n = place.name 1 ∨ place.name n = place.name 0 := by
    by_cases hone : n = 1
    · exact .inl (hone ▸ rfl)
    · exact .inr (by cases place <;> simp [name, hone])
  rcases hnumber with h | h <;> rw [h] <;> cases place <;> exact ⟨rfl, by decide +kernel⟩

/-- No place is named by the empty text: the table has no such unit. -/
theorem IsName.toList_ne_nil {place : Place} {name : String} (h : place.IsName name) :
    name.toList ≠ [] := by
  intro hnil
  have hfound := h.found
  rw [hnil] at hfound
  cases hfound

end Place

/-! ### Numbers -/

/-- The characters of units are letters of the alphabet or the micro sign. -/
theorem toNat_of_isUnitChar {c : Char} (h : isUnitChar c = true) :
    65 ≤ c.toNat ∧ c.toNat ≤ 122 ∨ c.toNat = 181 := by
  rcases Bool.or_eq_true_iff.mp h with halpha | hmicro
  · rcases Bool.or_eq_true_iff.mp halpha with hupper | hlower
    · have hrange : 'A'.val ≤ c.val ∧ c.val ≤ 'Z'.val := of_decide_eq_true hupper
      exact .inl ⟨hrange.1, Nat.le_trans hrange.2 (by decide)⟩
    · have hrange := Bool.and_eq_true_iff.mp hlower
      have hfrom : 'a'.val ≤ c.val := of_decide_eq_true hrange.1
      have hto : c.val ≤ 'z'.val := of_decide_eq_true hrange.2
      exact .inl ⟨Nat.le_trans (by decide) hfrom, hto⟩
  · exact .inr (congrArg Char.toNat (of_decide_eq_true hmicro))

/-- So no digit stands in a unit, and a number ends where its unit begins. -/
theorem isDigit_eq_false_of_isUnitChar {c : Char} (h : isUnitChar c = true) : c.isDigit = false := by
  have hrange := toNat_of_isUnitChar h
  have hnot : ¬ (48 ≤ c.toNat ∧ c.toNat ≤ 57) := by omega
  exact Bool.eq_false_iff.mpr fun hdigit => hnot (Char.isDigit_iff_toNat.mp hdigit)

/-- Between the blank and the letters of units there is no white space. -/
theorem isBlank_eq_false {c : Char} (h : 33 ≤ c.toNat ∧ c.toNat ≤ 122 ∨ c.toNat = 181) :
    Text.isBlank c = false := by
  simp only [Text.isBlank, Bool.or_eq_false_iff, Bool.and_eq_false_iff, decide_eq_false_iff_not]
  omega

/-- No white space stands in a unit. -/
theorem isBlank_eq_false_of_isUnitChar {c : Char} (h : isUnitChar c = true) :
    Text.isBlank c = false := by
  have hrange := toNat_of_isUnitChar h
  exact isBlank_eq_false (by omega)

/-- A digit is no white space, so none is skipped before it. -/
theorem isBlank_eq_false_of_isDigit {c : Char} (h : c.isDigit = true) : Text.isBlank c = false := by
  have hrange : 48 ≤ c.toNat ∧ c.toNat ≤ 57 := Char.isDigit_iff_toNat.mp h
  exact isBlank_eq_false (by omega)

/-- Digits are taken as far as they go, and those of the rest follow. -/
theorem takeDigits_append {digits : List Char} (h : ∀ c ∈ digits, c.isDigit = true)
    (rest : List Char) :
    takeDigits (digits ++ rest) =
      (digits.map (fun c => c.toNat - 48) ++ (takeDigits rest).1, (takeDigits rest).2) := by
  induction digits with
  | nil => rfl
  | cons c digits ih =>
    have hc : c.isDigit = true := h c List.mem_cons_self
    rw [List.cons_append, takeDigits, if_pos hc, ih fun d hd => h d (List.mem_cons_of_mem _ hd)]
    rfl

/-- No digits are taken where a unit begins. -/
theorem takeDigits_cons {c : Char} (h : isUnitChar c = true) (rest : List Char) :
    takeDigits (c :: rest) = ([], c :: rest) := by
  simp [takeDigits, isDigit_eq_false_of_isUnitChar h, isBlank_eq_false_of_isUnitChar h]

/-- The digits of a number are read back as the number. -/
theorem numberOf_toDigits (n : Nat) :
    numberOf ((Nat.toDigits 10 n).map fun c => c.toNat - 48) = n := by
  have hvalue : Nat.ofDigitChars 10 (Nat.toDigits 10 n) 0 = n := Nat.ofDigitChars_ten_toDigits
  simp only [Nat.ofDigitChars_eq_foldl, Nat.mul_comm 10] at hvalue
  rw [numberOf, List.foldl_map]
  exact hvalue

/-- A number in front of a letter is read as it was written, without decimals. -/
theorem readAmount?_toDigits (n : Nat) {c : Char} (h : isUnitChar c = true) (rest : List Char) :
    readAmount? (Nat.toDigits 10 n ++ c :: rest) = some (⟨n, none⟩, c :: rest) := by
  have htake : takeDigits (Nat.toDigits 10 n ++ c :: rest) =
      ((Nat.toDigits 10 n).map (fun c => c.toNat - 48), c :: rest) := by
    rw [takeDigits_append fun d hd => Nat.isDigit_of_mem_toDigits (by decide) (by decide) hd,
      takeDigits_cons h, List.append_nil]
  have hpoint : c ≠ '.' := by
    rintro rfl
    cases h
  have hne : (Nat.toDigits 10 n).map (fun c => c.toNat - 48) ≠ [] := by
    simp
  unfold readAmount?
  rw [htake]
  -- There are digits, and no point behind them, so only the last case is left.
  split
  · rename_i heq
    exact absurd (congrArg Prod.fst heq) hne
  · rename_i heq
    exact absurd (List.cons.inj (congrArg Prod.snd heq)).1 hpoint
  · rename_i heq
    cases heq
    rw [numberOf_toDigits]

/-! ### Sums -/

namespace Measure

variable {measure : Measure} {n total : Nat}

/-- So many times a measure fits in 64 bits if it can be added to a duration. A number of
nanoseconds must come to less than a second. -/
theorem mul_size_lt (hsub : ∀ k, measure = .nanos k → n * k < nanosPerSecond)
    (hsum : total + n * measure.toNanos < wordSize * nanosPerSecond) :
    n * measure.size < wordSize := by
  cases measure with
  | nanos k => exact Nat.lt_trans (hsub k rfl) (by decide)
  | seconds k =>
    refine Nat.lt_of_mul_lt_mul_right (a := nanosPerSecond) ?_
    calc n * k * nanosPerSecond = n * (k * nanosPerSecond) := Nat.mul_assoc ..
      _ ≤ total + n * (k * nanosPerSecond) := Nat.le_add_left ..
      _ < wordSize * nanosPerSecond := hsum

/-- So many times a measure is added to a total if the sum is that of a duration. None of the
numbers on the way is too large then. -/
theorem times?_addTo? (hsub : ∀ k, measure = .nanos k → n * k < nanosPerSecond)
    (hsum : total + n * measure.toNanos < wordSize * nanosPerSecond) :
    ∃ times, measure.times? n = some times ∧
      times.addTo? total = some (total + n * measure.toNanos) := by
  have hword : n * measure.size < wordSize := mul_size_lt hsub hsum
  cases measure with
  | nanos k =>
    -- Two times less than a second fits in 64 bits.
    have hcarry : total % nanosPerSecond + n * k < wordSize := by
      have hk : n * k < nanosPerSecond := hsub k rfl
      have hrest : total % nanosPerSecond < nanosPerSecond := Nat.mod_lt _ (by decide)
      have hroom : nanosPerSecond + nanosPerSecond ≤ wordSize := by decide
      omega
    have hboth : (total % nanosPerSecond + n * k < wordSize &&
        total + n * k < wordSize * nanosPerSecond) = true := by
      rw [decide_eq_true hcarry, Bool.true_and]
      exact decide_eq_true hsum
    exact ⟨.nanos (n * k), if_pos hword, if_pos hboth⟩
  | seconds k =>
    refine ⟨.seconds (n * k), if_pos hword, ?_⟩
    rw [addTo?, Nat.mul_assoc]
    exact if_pos hsum

end Measure

/-! ### Parts -/

/-- A number of units. -/
structure Part where
  /-- The unit. -/
  place : Place
  /-- How many there are. -/
  number : Nat
  /-- Units below the second do not come to a second. -/
  subsecond : ∀ k, place.measure = .nanos k → number * k < nanosPerSecond

namespace Part

/-- The part as it is written. -/
def text (part : Part) : String := toString part.number ++ part.place.name part.number

/-- How many nanoseconds the part lasts. -/
def nanos (part : Part) : Nat := part.number * part.place.measure.toNanos

/-- A part is written as its digits and, right after them, its unit. -/
theorem toList_text (part : Part) :
    part.text.toList =
      Nat.toDigits 10 part.number ++ (part.place.name part.number).toList := by
  rw [text, String.toList_append, Nat.toString_eq_ofList_toDigits, String.toList_ofList]

/-- A part is added to a total if the sum is that of a duration. The unit is that of the part's
place. -/
theorem addAmount?_number (part : Part) {total : Nat} {unit : TimeUnit}
    (hunit : unit.whole = part.place.measure)
    (hsum : total + part.nanos < wordSize * nanosPerSecond) :
    addAmount? total ⟨part.number, none⟩ unit = some (total + part.nanos) := by
  have hword : part.number < wordSize :=
    Nat.lt_of_le_of_lt (Nat.le_mul_of_pos_right _ part.place.size_measure_pos)
      (Measure.mul_size_lt part.subsecond hsum)
  obtain ⟨times, htimes, hadd⟩ := Measure.times?_addTo? part.subsecond hsum
  simp only [addAmount?, hunit, word?, if_pos hword, htimes, hadd, Option.bind_eq_bind,
    Option.bind_some]
  rfl

/-- A part at the head of the characters is added to the total. Then there is nothing
left, or the next part begins. -/
theorem sumParts?_append (part : Part) {total : Nat}
    (hsum : total + part.nanos < wordSize * nanosPerSecond) {rest : List Char}
    (hrest : ∀ c ∈ rest.head?, isUnitChar c = false) (fuel : Nat) :
    sumParts? (fuel + 1) total (part.text.toList ++ rest) =
      match rest.dropWhile Text.isBlank with
      | [] => some (total + part.nanos)
      | c :: next => if c.isDigit then sumParts? fuel (total + part.nanos) (c :: next) else none := by
  have hname : part.place.IsName (part.place.name part.number) := part.place.isName_name part.number
  have hall := List.all_eq_true.mp hname.letters
  obtain ⟨c, letters, hletters⟩ := List.exists_cons_of_ne_nil hname.toList_ne_nil
  have hread : readAmount? (part.text.toList ++ rest) =
      some (⟨part.number, none⟩, (part.place.name part.number).toList ++ rest) := by
    have hc : isUnitChar c = true := hall c (hletters ▸ List.mem_cons_self)
    rw [toList_text, hletters, List.append_assoc, List.cons_append, readAmount?_toDigits _ hc]
  -- The letters of the name end where the rest begins.
  have htake : ((part.place.name part.number).toList ++ rest).takeWhile isUnitChar =
      (part.place.name part.number).toList := by
    rw [List.takeWhile_append_of_pos hall, List.append_right_eq_self]
    cases rest with
    | nil => rfl
    | cons d rest => rw [List.takeWhile_cons_of_neg (by simp [hrest d rfl])]
  have hdrop : ((part.place.name part.number).toList ++ rest).dropWhile isUnitChar = rest := by
    rw [List.dropWhile_append_of_pos hall]
    cases rest with
    | nil => rfl
    | cons d rest => rw [List.dropWhile_cons_of_neg (by simp [hrest d rfl])]
  obtain ⟨unit, hunit, hmeasure⟩ := Option.map_eq_some_iff.mp hname.found
  simp only [sumParts?, hread, htake, hdrop, hunit, addAmount?_number part hmeasure hsum,
    Option.bind_eq_bind, Option.bind_some]
  cases rest.dropWhile Text.isBlank <;> rfl

/-- Reading stops behind the last part, with the total. -/
theorem sumParts?_text (part : Part) {total : Nat}
    (hsum : total + part.nanos < wordSize * nanosPerSecond) (fuel : Nat) :
    sumParts? (fuel + 1) total part.text.toList = some (total + part.nanos) := by
  have hstop : ∀ c ∈ ([] : List Char).head?, isUnitChar c = false := fun _ h => nomatch h
  have hread := part.sumParts?_append hsum hstop fuel
  rwa [List.append_nil] at hread

/-- Behind a part that is not the last, reading goes on at the digit that follows the blank. This
is the step of the induction over parts. -/
theorem sumParts?_text_blank (part : Part) {total : Nat}
    (hsum : total + part.nanos < wordSize * nanosPerSecond) {c : Char} (hc : c.isDigit = true)
    (rest : List Char) (fuel : Nat) :
    sumParts? (fuel + 1) total (part.text.toList ++ ' ' :: c :: rest) =
      sumParts? fuel (total + part.nanos) (c :: rest) := by
  have hstop : ∀ d ∈ (' ' :: c :: rest).head?, isUnitChar d = false := by
    rintro d ⟨⟩
    rfl
  have hdrop : (' ' :: c :: rest).dropWhile Text.isBlank = c :: rest := by
    rw [List.dropWhile_cons_of_pos (by decide), List.dropWhile_cons_of_neg]
    exact Bool.eq_false_iff.mp (isBlank_eq_false_of_isDigit hc)
  rw [part.sumParts?_append hsum hstop, hdrop]
  exact if_pos hc

/-- A part begins with a digit. -/
theorem toList_text_eq_cons (part : Part) :
    ∃ c rest, part.text.toList = c :: rest ∧ c.isDigit = true := by
  have hne : Nat.toDigits 10 part.number ≠ [] := Nat.toDigits_ne_nil
  obtain ⟨c, digits, hdigits⟩ := List.exists_cons_of_ne_nil hne
  have hmem : c ∈ Nat.toDigits 10 part.number := hdigits ▸ List.mem_cons_self
  refine ⟨c, digits ++ (part.place.name part.number).toList, ?_, ?_⟩
  · rw [toList_text, hdigits, List.cons_append]
  · exact Nat.isDigit_of_mem_toDigits (by decide) (by decide) hmem

end Part

/-- How many nanoseconds parts last together. -/
def nanosOf (parts : List Part) : Nat := parts.foldr (fun part total => part.nanos + total) 0

/-- A part adds its own length to that of the parts behind it. -/
theorem nanosOf_cons (part : Part) (parts : List Part) :
    nanosOf (part :: parts) = part.nanos + nanosOf parts := List.foldr_cons ..

/-- Parts as they are written. -/
def textOf (parts : List Part) : String := String.intercalate " " (parts.map Part.text)

/-- A part alone is written without a blank. -/
theorem textOf_singleton (part : Part) : textOf [part] = part.text := String.intercalate_singleton

/-- Between two parts stands one blank. -/
theorem toList_textOf_cons_cons (first second : Part) (parts : List Part) :
    (textOf (first :: second :: parts)).toList =
      first.text.toList ++ ' ' :: (textOf (second :: parts)).toList := by
  simp only [textOf, List.map_cons, String.intercalate_cons_cons, String.toList_append,
    List.append_assoc]
  rfl

/-- The text of parts begins with a digit, so no white space is skipped before it. -/
theorem toList_textOf_eq_cons (first : Part) (parts : List Part) :
    ∃ c rest, (textOf (first :: parts)).toList = c :: rest ∧ c.isDigit = true := by
  obtain ⟨c, rest, htext, hdigit⟩ := first.toList_text_eq_cons
  cases parts with
  | nil => exact ⟨c, rest, by rw [textOf_singleton, htext], hdigit⟩
  | cons second parts =>
    exact ⟨c, rest ++ ' ' :: (textOf (second :: parts)).toList,
      by rw [toList_textOf_cons_cons, htext, List.cons_append], hdigit⟩

/-- The text of parts adds what they last together to the total. The induction goes over the
parts, with the total and the fuel generalised. -/
theorem sumParts?_textOf (first : Part) (parts : List Part) {total fuel : Nat}
    (hsum : total + nanosOf (first :: parts) < wordSize * nanosPerSecond)
    (hfuel : (textOf (first :: parts)).toList.length < fuel) :
    sumParts? fuel total (textOf (first :: parts)).toList =
      some (total + nanosOf (first :: parts)) := by
  induction parts generalizing first total fuel with
  | nil =>
    obtain ⟨fuel, rfl⟩ := Nat.exists_eq_succ_of_ne_zero (Nat.ne_zero_of_lt hfuel)
    exact first.sumParts?_text hsum fuel
  | cons second parts ih =>
    obtain ⟨fuel, rfl⟩ := Nat.exists_eq_succ_of_ne_zero (Nat.ne_zero_of_lt hfuel)
    rw [nanosOf_cons, ← Nat.add_assoc] at hsum ⊢
    rw [toList_textOf_cons_cons] at hfuel ⊢
    have hfirst : total + first.nanos < wordSize * nanosPerSecond :=
      Nat.lt_of_le_of_lt (Nat.le_add_right ..) hsum
    -- Every part has a character, so the fuel outlasts the parts.
    have hlength : (textOf (second :: parts)).toList.length < fuel := by
      rw [List.length_append, List.length_cons] at hfuel
      omega
    obtain ⟨c, rest, htext, hdigit⟩ := toList_textOf_eq_cons second parts
    rw [htext, first.sumParts?_text_blank hfirst hdigit, ← htext, ih second hsum hlength]

/-! ### The parts of a duration -/

/-- How often a unit goes into what the longer ones leave of a duration. -/
def count (d : Duration) : Place → Nat
  | .year => d.nanos / nanosPerSecond / 31557600
  | .month => d.nanos / nanosPerSecond % 31557600 / 2630016
  | .day => d.nanos / nanosPerSecond % 31557600 % 2630016 / 86400
  | .hour => d.nanos / nanosPerSecond % 31557600 % 2630016 % 86400 / 3600
  | .minute => d.nanos / nanosPerSecond % 31557600 % 2630016 % 86400 % 3600 / 60
  | .second => d.nanos / nanosPerSecond % 31557600 % 2630016 % 86400 % 60
  | .milli => d.nanos % nanosPerSecond / 1000000
  | .micro => d.nanos % nanosPerSecond / 1000 % 1000
  | .nano => d.nanos % nanosPerSecond % 1000

/-- What is counted in units below the second does not come to a second, because the seconds were
taken out first. -/
theorem count_subsecond (d : Duration) (place : Place) (k : Nat) (h : place.measure = .nanos k) :
    d.count place * k < nanosPerSecond := by
  have hrest : d.nanos % nanosPerSecond < nanosPerSecond := Nat.mod_lt _ (by decide)
  cases place <;> cases h <;> simp only [count] <;> omega

/-- The part of a duration at a place. -/
def part (d : Duration) (place : Place) : Part := ⟨place, d.count place, d.count_subsecond place⟩

/-- The parts of a duration that count something. -/
def counted (d : Duration) : List Part :=
  (Place.all.map d.part).filter fun part => part.number ≠ 0

/-- The texts of the parts that count something are the short parts of all of them, where
a count of zero gives no text. -/
theorem map_text_filter (parts : List Part) :
    (parts.filter fun part => part.number ≠ 0).map Part.text =
      parts.flatMap fun part => shortPart part.number (part.place.name part.number) := by
  induction parts with
  | nil => rfl
  | cons part parts ih =>
    rw [List.flatMap_cons, ← ih, shortPart]
    split
    · rename_i hzero
      rw [List.filter_cons_of_neg (by simp [hzero]), List.nil_append]
    · rename_i hzero
      rw [List.filter_cons_of_pos (by simp [hzero])]
      rfl

/-- The parts that a duration writes are the texts of the parts that it counts. -/
theorem parts_eq (d : Duration) : d.parts = d.counted.map Part.text := by
  rw [counted, map_text_filter]
  simp only [parts, Place.all, List.map_cons, List.map_nil, List.flatMap_cons, List.flatMap_nil,
    List.append_nil, List.append_assoc]
  rfl

/-- Parts that count nothing add nothing to the sum. -/
theorem nanosOf_filter (parts : List Part) :
    nanosOf (parts.filter fun part => part.number ≠ 0) = nanosOf parts := by
  induction parts with
  | nil => rfl
  | cons part parts ih =>
    rw [nanosOf_cons, ← ih]
    by_cases hzero : part.number = 0
    · have hnanos : part.nanos = 0 := by rw [Part.nanos, hzero, Nat.zero_mul]
      rw [List.filter_cons_of_neg (by simp [hzero]), hnanos, Nat.zero_add]
    · rw [List.filter_cons_of_pos (by simp [hzero]), nanosOf_cons]

/-- The part of a place lasts as often as its unit is counted. -/
theorem nanos_part (d : Duration) (place : Place) :
    (d.part place).nanos = d.count place * place.measure.toNanos := by rw [Part.nanos, part]

/-- The seconds are the sum of their years, months, days, hours and minutes, and of what
is left over. -/
theorem sum_seconds (s : Nat) :
    s / 31557600 * 31557600 + (s % 31557600 / 2630016 * 2630016 +
      (s % 31557600 % 2630016 / 86400 * 86400 + (s % 31557600 % 2630016 % 86400 / 3600 * 3600 +
      (s % 31557600 % 2630016 % 86400 % 3600 / 60 * 60 +
      s % 31557600 % 2630016 % 86400 % 60 * 1)))) = s := by
  omega

/-- What is below a second is the sum of its milliseconds, its microseconds and its
nanoseconds. -/
theorem sum_nanos (n : Nat) :
    n / 1000000 * 1000000 + (n / 1000 % 1000 * 1000 + n % 1000 * 1) = n := by
  omega

/-- Counts of seconds as counts of nanoseconds. -/
theorem sum_scaled (s n k : Nat) :
    s / 31557600 * (31557600 * k) + (s % 31557600 / 2630016 * (2630016 * k) +
      (s % 31557600 % 2630016 / 86400 * (86400 * k) +
      (s % 31557600 % 2630016 % 86400 / 3600 * (3600 * k) +
      (s % 31557600 % 2630016 % 86400 % 3600 / 60 * (60 * k) +
      (s % 31557600 % 2630016 % 86400 % 60 * (1 * k) + n))))) = s * k + n := by
  have hsum := congrArg (fun sum => sum * k + n) (sum_seconds s)
  simpa only [Nat.add_mul, Nat.mul_assoc, Nat.add_assoc] using hsum

/-- The parts of a duration last as long as the duration. The places that count zero are left out,
and add nothing. -/
theorem nanosOf_counted (d : Duration) : nanosOf d.counted = d.nanos := by
  rw [counted, nanosOf_filter, Place.all]
  -- The sum is taken apart by lemmas: to compute with the units would take too long.
  simp only [List.map_cons, List.map_nil, nanosOf_cons, nanos_part]
  calc _ = d.nanos / nanosPerSecond * nanosPerSecond + _ := sum_scaled _ _ _
    _ = d.nanos / nanosPerSecond * nanosPerSecond + d.nanos % nanosPerSecond :=
      congrArg _ (sum_nanos _)
    _ = d.nanos := Nat.div_add_mod' ..

/-- **Round trip.** Every duration is read back from its text, to the nanosecond. -/
theorem ofText?_text (d : Duration) : ofText? d.text = some d := by
  unfold text
  split
  · rename_i hzero
    have hd : d = zero := by
      obtain ⟨nanos, inRange⟩ := d
      cases hzero
      rfl
    rw [hd]
    decide
  · rename_i hne
    obtain ⟨first, parts, hcounted⟩ : ∃ first parts, d.counted = first :: parts := by
      refine List.exists_cons_of_ne_nil fun hnil => hne ?_
      rw [← nanosOf_counted, hnil]
      rfl
    have hsum : nanosOf (first :: parts) = d.nanos := by rw [← hcounted, nanosOf_counted]
    have hread : sumParts? ((textOf d.counted).toList.length + 1) 0 (textOf d.counted).toList =
        some d.nanos := by
      rw [hcounted, sumParts?_textOf first parts _ (Nat.lt_succ_self _), hsum, Nat.zero_add]
      rw [Nat.zero_add, hsum]
      exact d.inRange
    -- Zero without a unit is read apart, but parts are not written so: they would not be read.
    have hzero : textOf d.counted ≠ "0" := by
      intro h
      rw [h] at hread
      cases hread
    rw [parts_eq]
    show ofText? (textOf d.counted) = some d
    rw [ofText?, if_neg hzero]
    dsimp only
    rw [hread]
    exact dif_pos d.inRange

/-- The longest duration. -/
example : (⟨wordSize * nanosPerSecond - 1, by decide⟩ : Duration).text =
    "584542046090years 7months 15days 17h 5m 3s 999ms 999us 999ns" := by decide +kernel

end EntitlementClient.Duration
