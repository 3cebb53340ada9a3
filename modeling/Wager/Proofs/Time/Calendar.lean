import Mathlib.Tactic.IntervalCases
import Wager.Time.Calendar

/-!
# Days of the calendar

Every day is a day of the calendar, and the calendar gives it back.

An era of 400 years is three centuries that lack a leap day and one that does not, a century is 24
groups of four years and one group that may lack its leap day, and a group is three plain years and
one that ends with the leap day, if there is one. So a day of an era is given by four numbers, its
century, its group in it, its year in that and its day in that (`PartsOfEra`). The formula for the
year of an era has the right value because each of the three corrections in it takes one of only two
values on such a day.

## Main definitions

* `Date.yearOfEra`: The year of a day of an era.
* `Date.PartsOfEra`: A day of an era by century, group, year and day.

## Theorems

* `Date.exists_partsOfEra`: Every day of an era has parts.
* `Date.PartsOfEra.yearOfEra_eq`: The year of an era in terms of the parts.
* `Date.toDays_ofDays`: A day is the day of its date.
* `Date.isValid_ofDays`: A date has a month and a day that there are.
-/

namespace Wager.Date

/-- The year of an era that a day of the era falls into; years begin in March. -/
def yearOfEra (day : Int) : Int := (day - day / 1460 + day / 36524 - day / 146096) / 365

/-- Day `n` of year `y` of group `p` of century `q` is day `day` of its era. Only the last year of a
group has a leap day, and the last group of a century only if it is the last century. -/
structure PartsOfEra (day q p y n : Int) : Prop where
  century : 0 ≤ q ∧ q ≤ 3
  group : 0 ≤ p ∧ p ≤ 24
  year : 0 ≤ y ∧ y ≤ 3
  dayOfYear : 0 ≤ n ∧ n ≤ 365
  leap : n = 365 → y = 3 ∧ (p = 24 → q = 3)
  total : day = 36524 * q + 1461 * p + 365 * y + n

/-- Every day of an era has parts. -/
theorem exists_partsOfEra {day : Int} (h : 0 ≤ day) (h' : day < 146097) :
    ∃ q p y n, PartsOfEra day q p y n := by
  -- The last day of the era would begin a fifth century, and a leap day a fifth year.
  have hcentury : ∃ q r : Int, 0 ≤ q ∧ q ≤ 3 ∧ 0 ≤ r ∧ r ≤ 36524 ∧ (r = 36524 → q = 3) ∧
      day = 36524 * q + r :=
    ⟨min (day / 36524) 3, day - 36524 * min (day / 36524) 3, by omega⟩
  obtain ⟨q, r, hq, hq', hr, hr', hlast, rfl⟩ := hcentury
  have hyear : ∃ y n : Int, 0 ≤ y ∧ y ≤ 3 ∧ 0 ≤ n ∧ n ≤ 365 ∧ (n = 365 → y = 3) ∧
      r % 1461 = 365 * y + n :=
    ⟨min (r % 1461 / 365) 3, r % 1461 - 365 * min (r % 1461 / 365) 3, by omega⟩
  obtain ⟨y, n, hy, hy', hn, hn', hleap, hrest⟩ := hyear
  exact ⟨q, r / 1461, y, n, ⟨hq, hq'⟩, by omega, ⟨hy, hy'⟩, ⟨hn, hn'⟩, by omega, by omega⟩

namespace PartsOfEra

variable {day q p y n : Int}

/-- The year of an era, with each correction of the formula in its two cases. -/
theorem yearOfEra_eq (h : PartsOfEra day q p y n) : yearOfEra day = 100 * q + 4 * p + y := by
  obtain ⟨hq, hp, hy, hn, hleap, htotal⟩ := h
  have hgroups : day / 1460 = 25 * q + p ∧ 24 * q + p + 365 * y + n < 1460 ∨
      day / 1460 = 25 * q + p + 1 ∧ 1460 ≤ 24 * q + p + 365 * y + n := by omega
  have hcenturies : day / 36524 = q ∧ day / 146096 = 0 ∨
      day / 36524 = q + 1 ∧ day / 146096 = 1 := by omega
  unfold yearOfEra
  omega

/-- The day of a year, as the days of the era less those of the years before. -/
theorem dayOfYear_eq (h : PartsOfEra day q p y n) :
    day - (365 * yearOfEra day + yearOfEra day / 4 - yearOfEra day / 100) = n := by
  have hyear := h.yearOfEra_eq
  obtain ⟨hq, hp, hy, hn, hleap, htotal⟩ := h
  omega

end PartsOfEra

theorem exists_partsOfEra_mod (days : Int) :
    ∃ q p y n, PartsOfEra ((days + 719468) % 146097) q p y n :=
  exists_partsOfEra (by omega) (by omega)

/-- A date in terms of the parts of its day; `m` is its month, counted from March. -/
theorem ofDays_eq {days era q p y n : Int} (h : PartsOfEra ((days + 719468) % 146097) q p y n)
    (hera : era = (days + 719468) / 146097) :
    ∃ m : Int, 0 ≤ m ∧ m ≤ 11 ∧ m = (5 * n + 2) / 153 ∧
      ofDays days = {
        year := 100 * q + 4 * p + y + era * 400 + if m < 10 then 0 else 1
        month := (if m < 10 then m + 3 else m - 9).toNat
        day := (n - (153 * m + 2) / 5 + 1).toNat } := by
  have hday := h.dayOfYear_eq
  have hyear := h.yearOfEra_eq
  have hn := h.dayOfYear
  refine ⟨(5 * n + 2) / 153, by omega, by omega, rfl, ?_⟩
  unfold yearOfEra at hday hyear
  simp only [ofDays, hday, ← hera]
  rw [hyear, Date.mk.injEq]
  refine ⟨?_, rfl, rfl⟩
  by_cases hm : (5 * n + 2) / 153 < 10
  · rw [if_pos hm, if_pos hm, if_neg (by omega), Int.add_zero]
  · rw [if_neg hm, if_neg hm, if_pos (by omega)]

/-- A day is the day of its date. -/
theorem toDays_ofDays (days : Int) : (ofDays days).toDays = days := by
  obtain ⟨q, p, y, n, h⟩ := exists_partsOfEra_mod days
  generalize hera : (days + 719468) / 146097 = era
  obtain ⟨m, hm, hm', hmonth, heq⟩ := ofDays_eq h hera.symm
  rw [heq]
  obtain ⟨hq, hp, hy, hn, -, htotal⟩ := h
  -- The year and the day are found again in what the date says of them.
  generalize hyear : 100 * q + 4 * p + y = year
  have hdiv : (year + era * 400) / 400 = era := by omega
  have hmod : (year + era * 400) % 400 = year := by omega
  have hgroups : year / 4 = 25 * q + p := by omega
  have hcenturies : year / 100 = q := by omega
  have hday : ((n - (153 * m + 2) / 5 + 1).toNat : Int) = n - (153 * m + 2) / 5 + 1 := by omega
  unfold toDays
  by_cases hlate : m < 10
  · have hnot : ¬ (m + 3).toNat ≤ 2 := by omega
    have hcount : (((m + 3).toNat : Int) + 9) % 12 = m := by omega
    simp only [if_pos hlate, if_neg hnot, hcount, hday, Int.add_zero, hdiv, hmod, hgroups,
      hcenturies]
    omega
  · have hearly : (m - 9).toNat ≤ 2 := by omega
    have hcount : (((m - 9).toNat : Int) + 9) % 12 = m := by omega
    simp only [if_neg hlate, if_pos hearly, hcount, hday, Int.add_sub_cancel, hdiv, hmod, hgroups,
      hcenturies]
    omega

/-- A date has a month and a day that there are. -/
theorem isValid_ofDays (days : Int) : (ofDays days).isValid = true := by
  obtain ⟨q, p, y, n, h⟩ := exists_partsOfEra_mod days
  obtain ⟨m, hm, hm', hmonth, heq⟩ := ofDays_eq h rfl
  rw [heq]
  obtain ⟨hq, hp, hy, hn, hleap, -⟩ := h
  have hdays : (n - (153 * m + 2) / 5 + 1).toNat ≤
      daysInMonth (100 * q + 4 * p + y + (days + 719468) / 146097 * 400 + if m < 10 then 0 else 1)
        (if m < 10 then m + 3 else m - 9).toNat := by
    by_cases hfebruary : m = 11
    · -- The last day of the last month is the leap day, so the year that begins has one.
      subst hfebruary
      simp only [daysInMonth, isLeapYear, Int.reduceLT, if_false, Int.reduceSub, Int.reduceToNat,
        if_true]
      split
      · omega
      · rename_i hnot
        simp only [Bool.and_eq_true, beq_iff_eq, Bool.or_eq_true, bne_iff_ne, ne_eq] at hnot
        omega
    · simp only [daysInMonth]
      interval_cases m <;> simp <;> omega
  simp only [isValid, Bool.and_eq_true, decide_eq_true_eq]
  refine ⟨⟨⟨?_, ?_⟩, by omega⟩, hdays⟩ <;> split <;> omega

end Wager.Date
