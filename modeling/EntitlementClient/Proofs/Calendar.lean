import EntitlementClient.Calendar

/-!
# `EntitlementClient.Proofs.Calendar`: counting days and back

A day of the calendar has a number, and the day with that number is the day itself
(`Date.ofDays_toDays`). The year is found from an estimate that is right or one year too
early (`Date.yearOfDays_eq`), and the month by going through the months of that year
(`Date.monthAndDay_eq`). So the date no days ahead is the same date
(`Date.daysAhead_zero`).
-/

set_option autoImplicit false

namespace EntitlementClient.Date

/-- A day of the calendar: the month has a number from 1 to 12, and the month has that
many days. -/
structure IsDay (d : Date) : Prop where
  /-- There is no year before the first. -/
  one_le_year : 1 ≤ d.year
  /-- The calendar reaches that far. -/
  year_le : d.year ≤ maxYear
  /-- Months count from 1. -/
  one_le_month : 1 ≤ d.month
  /-- Days count from 1. -/
  one_le_day : 1 ≤ d.day
  /-- The month is one of the year, and has the day. -/
  day_le : ∃ length, (monthLengths d.year)[d.month - 1]? = some length ∧ d.day ≤ length

/-! ### Years -/

/-- The months of a year make up its days: 366 in a leap year, 365 in any other. -/
theorem foldr_monthLengths (year : Nat) :
    (monthLengths year).foldr (· + ·) 0 = if isLeapYear year = true then 366 else 365 := by
  unfold monthLengths
  cases isLeapYear year with
  | true => rfl
  | false => rfl

/-- The days of a year lie between those before it and those before the next. The count of leap
days makes this so: it grows by one exactly after a leap year. -/
theorem daysBeforeYear_succ (y : Nat) :
    daysBeforeYear (y + 2) = daysBeforeYear (y + 1) + (monthLengths (y + 1)).foldr (· + ·) 0 := by
  have hstep : ∀ k, 0 < k → (y + 1) / k = y / k + if (y + 1) % k = 0 then 1 else 0 := by
    intro k hk
    simp only [Nat.succ_div, Nat.dvd_iff_mod_eq_zero]
  have hfew : y / 100 ≤ y / 4 := Nat.div_le_div_left (by decide) (by decide)
  rw [foldr_monthLengths]
  simp only [daysBeforeYear, isLeapYear, Nat.add_sub_cancel, Nat.reduceSubDiff, hstep 4 (by decide),
    hstep 100 (by decide), hstep 400 (by decide)]
  -- A leap day is one of a fourth year, unless the year is a hundredth and no four hundredth.
  by_cases hfour : (y + 1) % 4 = 0
  · by_cases hhundred : (y + 1) % 100 = 0
    · by_cases hfourHundred : (y + 1) % 400 = 0
      · simp only [hfour, hhundred, hfourHundred, if_true, decide_true, Bool.or_true, Bool.and_self]
        omega
      · simp only [hfour, hhundred, hfourHundred, if_true, if_false, decide_true, decide_false, ne_eq,
          not_true_eq_false, Bool.or_self, Bool.and_false, Bool.false_eq_true]
        omega
    · have hfourHundred : ¬ (y + 1) % 400 = 0 := by omega
      simp only [hfour, hhundred, hfourHundred, if_true, if_false, decide_true, decide_false, ne_eq,
        not_false_eq_true, Bool.or_false, Bool.and_self]
      omega
  · have hhundred : ¬ (y + 1) % 100 = 0 := by omega
    have hfourHundred : ¬ (y + 1) % 400 = 0 := by omega
    simp only [hfour, hhundred, hfourHundred, if_false, decide_false, Bool.false_and,
      Bool.false_eq_true]
    omega

/-- A year begins no earlier than the one before it. -/
theorem daysBeforeYear_le_succ (y : Nat) : daysBeforeYear y ≤ daysBeforeYear (y + 1) := by
  simp only [daysBeforeYear]
  omega

/-- The year of a day is the one in which it lies. The estimate from which the search starts is
off by at most one year. -/
theorem yearOfDays_eq {n y : Nat} (hfrom : daysBeforeYear (y + 1) ≤ n)
    (hto : n < daysBeforeYear (y + 2)) : yearOfDays n = y + 1 := by
  -- The estimate is never too late, and at most one year too early.
  have hestimate : n * 400 / 146097 = y ∨ n * 400 / 146097 + 1 = y := by
    simp only [daysBeforeYear] at hfrom hto
    omega
  unfold yearOfDays
  dsimp only
  rcases hestimate with hright | hearly
  · rw [hright, if_neg (Nat.not_lt.mpr hfrom), if_neg (Nat.not_le.mpr hto)]
  · have hbefore := Nat.le_trans (daysBeforeYear_le_succ y) hfrom
    rw [hearly, if_neg (Nat.not_lt.mpr hbefore), if_pos hfrom]

/-! ### Months -/

/-- The day with number `n` in the month after the first `k` is found in that month. The induction
runs along the months, with the first of them generalised. -/
theorem monthAndDay_eq {lengths : List Nat} {k n length : Nat} (hmonth : lengths[k]? = some length)
    (hday : n < length) (first : Nat) :
    monthAndDay first ((lengths.take k).foldr (· + ·) 0 + n) lengths = (first + k, n + 1) := by
  induction lengths generalizing k first with
  | nil => cases hmonth
  | cons head rest ih =>
    cases k with
    | zero =>
      obtain rfl := Option.some.inj hmonth
      simp [monthAndDay, hday]
    | succ k =>
      have hskip : ¬ head + (rest.take k).foldr (· + ·) 0 + n < head := by omega
      have hrest : head + (rest.take k).foldr (· + ·) 0 + n - head =
          (rest.take k).foldr (· + ·) 0 + n := by omega
      show monthAndDay first (head + (rest.take k).foldr (· + ·) 0 + n) (head :: rest) = _
      rw [monthAndDay, if_neg hskip, hrest, ih hmonth]
      simp [Nat.add_assoc, Nat.add_comm 1 k]

/-- The days before a month and those of the month are days of the year. -/
theorem foldr_take_add_le {lengths : List Nat} {k length : Nat}
    (hmonth : lengths[k]? = some length) :
    (lengths.take k).foldr (· + ·) 0 + length ≤ lengths.foldr (· + ·) 0 := by
  induction lengths generalizing k with
  | nil => cases hmonth
  | cons head rest ih =>
    cases k with
    | zero =>
      obtain rfl := Option.some.inj hmonth
      simp
    | succ k =>
      have hrest := ih hmonth
      simp only [List.take_succ_cons, List.foldr_cons]
      omega

/-! ### Days -/

variable {d : Date}

/-- A day lies in its year: the next year begins after it. -/
theorem IsDay.toDays_lt (h : d.IsDay) : d.toDays < daysBeforeYear (d.year + 1) := by
  obtain ⟨length, hmonth, hday⟩ := h.day_le
  obtain ⟨y, hy⟩ : ∃ y, d.year = y + 1 := ⟨d.year - 1, by have := h.one_le_year; omega⟩
  have hyear := foldr_take_add_le hmonth
  have hpos := h.one_le_day
  rw [toDays, hy, daysBeforeYear_succ, ← hy]
  omega

/-- The day with the number of a day is the day. So no two days have the same number. -/
theorem ofDays_toDays (h : d.IsDay) : ofDays d.toDays = d := by
  obtain ⟨length, hmonth, hday⟩ := h.day_le
  have hpos := h.one_le_day
  have hyear : yearOfDays d.toDays = d.year := by
    obtain ⟨y, hy⟩ : ∃ y, d.year = y + 1 := ⟨d.year - 1, by have := h.one_le_year; omega⟩
    have hlt := h.toDays_lt
    rw [hy] at hlt ⊢
    refine yearOfDays_eq ?_ hlt
    rw [toDays, hy]
    omega
  have hdays : d.toDays - daysBeforeYear d.year =
      ((monthLengths d.year).take (d.month - 1)).foldr (· + ·) 0 + (d.day - 1) := by
    rw [toDays]
    omega
  have hfound := monthAndDay_eq hmonth (by omega : d.day - 1 < length) 1
  have hmonthNumber : 1 + (d.month - 1) = d.month := by have := h.one_le_month; omega
  have hdayNumber : d.day - 1 + 1 = d.day := by omega
  unfold ofDays
  dsimp only
  rw [hyear, hdays, hfound, hmonthNumber, hdayNumber]

/-- The date no days ahead is the date itself. -/
theorem daysAhead_zero (h : d.IsDay) : d.daysAhead 0 = d := by
  have hreached : d.toDays + 0 < daysBeforeYear (maxYear + 1) := by
    have hmono : ∀ k, daysBeforeYear (d.year + 1) ≤ daysBeforeYear (d.year + 1 + k) := by
      intro k
      induction k with
      | zero => exact Nat.le_refl _
      | succ k ih => exact Nat.le_trans ih (daysBeforeYear_le_succ _)
    obtain ⟨k, hk⟩ := Nat.le.dest (Nat.succ_le_succ h.year_le)
    have hlast := hmono k
    rw [show d.year + 1 + k = maxYear + 1 from hk] at hlast
    exact Nat.lt_of_lt_of_le h.toDays_lt hlast
  unfold daysAhead addDays?
  dsimp only
  rw [if_pos hreached, Nat.add_zero, ofDays_toDays h]
  rfl

end EntitlementClient.Date
