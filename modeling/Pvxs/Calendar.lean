import Mathlib.Tactic.IntervalCases
/-
Broken-down UTC time and the day arithmetic of `StatusDate` (`certstatus.h`).

`tmToTimeTUTC` is the code's conversion from a `std::tm` to seconds since the
epoch: whole years by the 4/100/400 rule written with C division, month starts
from `kMonthStartDays`, and a leap day after February.  `gmtime` is the C
library's conversion the other way (the proleptic Gregorian calendar in UTC),
whose fields `StatusDate::toString` formats.

* `tmToTimeTUTC_gmtime` — the code's conversion inverts `gmtime` at every time
  from the epoch on;
* `tmToTimeTUTC_eq_timegm_add` — from 1901 on it agrees with `timegm`, except
  in years before 1969 whose distance to 1969 is not a multiple of 4: there
  the truncating division of `(year - 1969) / 4` counts one leap day too few
  and the time is one day late;
* `gmtime_normal` — the fields of `gmtime t` lie in the ranges `strftime`
  prints with two (or, for the year, four) digits.

Design notes: `time_t` and `int` are integers (nothing overflows in the years
the code meets); C's `/` on `int` is `Int.tdiv`.  `gmtime` finds the year by
stepping one year at a time from 1970 (`yearOf`), with a fuel that is always
enough (`yearOf_inRange`), and the month by the downward search of glibc's
`__offtime` (`monthOf`).
-/

namespace Pvxs

/-- `std::tm`: the fields of a broken-down time that the code reads or sets.
The defaults are those of `std::tm tm = {}`. -/
structure Tm where
  tmSec : ℤ := 0
  tmMin : ℤ := 0
  tmHour : ℤ := 0
  tmMday : ℤ := 0
  tmMon : ℤ := 0
  tmYear : ℤ := 0
  tmWday : ℤ := 0
  tmYday : ℤ := 0
  deriving DecidableEq, Repr

/-- The Gregorian leap-year test, as `tmToTimeTUTC` writes it. -/
def isLeap (y : ℤ) : Bool := y % 4 = 0 && (y % 100 ≠ 0 || y % 400 = 0)

/-- `kMonthStartDays`: the day of a common year on which each month starts. -/
def kMonthStartDays : List ℤ := [0, 31, 59, 90, 120, 151, 181, 212, 243, 273, 304, 334]

/-- Days from the epoch to January 1 of `year`, as `tmToTimeTUTC` counts them
with C's truncating division. -/
def daysToYear (year : ℤ) : ℤ :=
  (year - 1970) * 365 + (year - 1969).tdiv 4 - (year - 1901).tdiv 100 + (year - 1601).tdiv 400

/-- `StatusDate::tmToTimeTUTC`.  Its callers pass months 0–11 (a `tm` filled by
`std::get_time` or `ASN1_TIME_to_tm`), the range of `kMonthStartDays`. -/
def tmToTimeTUTC (tm : Tm) : ℤ :=
  let year := 1900 + tm.tmYear
  let days := daysToYear year + kMonthStartDays.getD tm.tmMon.toNat 0
    + (if tm.tmMon > 1 ∧ isLeap year then 1 else 0) + (tm.tmMday - 1)
  ((days * 24 + tm.tmHour) * 60 + tm.tmMin) * 60 + tm.tmSec

/-! ### The proleptic Gregorian calendar -/

/-- Days in year `y`. -/
def yearDays (y : ℤ) : ℤ := if isLeap y then 366 else 365

/-- Days from the epoch to January 1 of `y` in the proleptic Gregorian calendar
(floor division, so years on both sides of 1970 are counted right). -/
def daysBeforeYear (y : ℤ) : ℤ :=
  365 * (y - 1970) + (y - 1) / 4 - (y - 1) / 100 + (y - 1) / 400 - 477

theorem yearDays_ge (y : ℤ) : 365 ≤ yearDays y := by
  unfold yearDays; split <;> omega

theorem daysBeforeYear_succ (y : ℤ) :
    daysBeforeYear (y + 1) = daysBeforeYear y + yearDays y := by
  simp only [daysBeforeYear, yearDays, isLeap, add_sub_cancel_right]
  split <;> rename_i h <;> simp only [Bool.and_eq_true, decide_eq_true_eq, Bool.or_eq_true, bne_iff_ne] at h <;>
    omega

/-- From 1969 on every operand of the code's year count is non-negative, so C
division is floor division and the count is the calendar's. -/
theorem daysToYear_eq (y : ℤ) (h : 1969 ≤ y) : daysToYear y = daysBeforeYear y := by
  rw [daysToYear, Int.tdiv_eq_ediv (by omega) (by omega), Int.tdiv_eq_ediv (by omega) (by omega),
    Int.tdiv_eq_ediv (by omega) (by omega), daysBeforeYear]
  omega

/-- Below 1969 the code's count of fourth years truncates toward zero where
the calendar's floors: from 1901 on, January 1 of a year before 1969 comes
out one day late unless `1969 - y` is a multiple of 4. -/
theorem daysToYear_eq_add (y : ℤ) (h : 1901 ≤ y) :
    daysToYear y = daysBeforeYear y + if y < 1969 ∧ (1969 - y) % 4 ≠ 0 then 1 else 0 := by
  rcases le_or_lt 1969 y with hy | hy
  · rw [daysToYear_eq y hy, if_neg (by omega), add_zero]
  · have hneg : (y - 1969).tdiv 4 = -((1969 - y) / 4) := by
      rw [show y - 1969 = -(1969 - y) by omega, Int.neg_tdiv, Int.tdiv_eq_ediv (by omega) (by omega)]
    rw [daysToYear, hneg, Int.tdiv_eq_ediv (by omega) (by omega), Int.tdiv_eq_ediv (by omega) (by omega),
      daysBeforeYear]
    split_ifs <;> omega

/-- Year and day of year of the day `d` days after January 1 of `y`, stepping
one year at a time for at most `n` steps. -/
def yearOf : ℕ → ℤ → ℤ → ℤ × ℤ
  | 0, y, d => (y, d)
  | n + 1, y, d =>
    if d < 0 then yearOf n (y - 1) (d + yearDays (y - 1))
    else if yearDays y ≤ d then yearOf n (y + 1) (d - yearDays y)
    else (y, d)

/-- Each step of `yearOf` keeps the day it denotes. -/
theorem yearOf_days (n : ℕ) (y d : ℤ) :
    daysBeforeYear (yearOf n y d).1 + (yearOf n y d).2 = daysBeforeYear y + d := by
  induction n generalizing y d with
  | zero => rfl
  | succ n ih =>
    have hprev := daysBeforeYear_succ (y - 1)
    rw [sub_add_cancel] at hprev
    simp only [yearOf]
    split
    · rw [ih]; omega
    · split
      · rw [ih, daysBeforeYear_succ]; omega
      · rfl

/-- Counting forward, `n` steps reach the year of any day `d < 365 n`. -/
theorem yearOf_inRange (n : ℕ) (y d : ℤ) (h0 : 0 ≤ d) (h : d < 365 * n) :
    0 ≤ (yearOf n y d).2 ∧ (yearOf n y d).2 < yearDays (yearOf n y d).1 ∧
      y ≤ (yearOf n y d).1 := by
  induction n generalizing y d with
  | zero => omega
  | succ n ih =>
    have hy := yearDays_ge y
    simp only [yearOf, if_neg (show ¬d < 0 by omega)]
    split
    · obtain ⟨h1, h2, h3⟩ := ih (y + 1) (d - yearDays y) (by omega) (by push_cast at h; omega)
      exact ⟨h1, h2, by omega⟩
    · exact ⟨h0, by dsimp only; omega, le_rfl⟩

/-- The first day of month `m` (0–11) in a year with leap flag `leap`. -/
def monthStart (leap : Bool) (m : ℕ) : ℤ :=
  kMonthStartDays.getD m 0 + if leap ∧ 1 < m then 1 else 0

/-- The last month at or below `m` that starts on or before day `d`: the
downward search of glibc's `__offtime`. -/
def monthOf (leap : Bool) (d : ℤ) : ℕ → ℕ
  | 0 => 0
  | m + 1 => if monthStart leap (m + 1) ≤ d then m + 1 else monthOf leap d m

theorem monthOf_le (leap : Bool) (d : ℤ) (m : ℕ) : monthOf leap d m ≤ m := by
  induction m with
  | zero => rfl
  | succ m ih => simp only [monthOf]; split <;> omega

theorem monthStart_monthOf_le (leap : Bool) {d : ℤ} (h : 0 ≤ d) (m : ℕ) :
    monthStart leap (monthOf leap d m) ≤ d := by
  induction m with
  | zero => simpa [monthOf, monthStart, kMonthStartDays] using h
  | succ m ih => simp only [monthOf]; split <;> assumption

/-- The search stops at `m` or below a month that starts after `d`. -/
theorem monthOf_top_or_lt (leap : Bool) (d : ℤ) (m : ℕ) :
    monthOf leap d m = m ∨ d < monthStart leap (monthOf leap d m + 1) := by
  induction m with
  | zero => exact .inl rfl
  | succ m ih =>
    simp only [monthOf]
    split
    · exact .inl rfl
    · rcases ih with h | h
      · exact .inr (by rw [h]; omega)
      · exact .inr h

/-- No month is longer than 31 days. -/
theorem monthStart_succ_le (leap : Bool) (m : ℕ) (hm : m < 11) :
    monthStart leap (m + 1) ≤ monthStart leap m + 31 := by
  interval_cases m <;> cases leap <;> decide

theorem yearDays_le_monthStart (y : ℤ) : yearDays y ≤ monthStart (isLeap y) 11 + 31 := by
  unfold yearDays monthStart; cases isLeap y <;> decide

/-- `gmtime`: the UTC broken-down time `t` seconds after the epoch. -/
def gmtime (t : ℤ) : Tm :=
  let days := t / 86400
  let secs := t % 86400
  let yd := yearOf (days.natAbs + 1) 1970 days
  let mon := monthOf (isLeap yd.1) yd.2 11
  { tmSec := secs % 60, tmMin := secs / 60 % 60, tmHour := secs / 3600,
    tmMday := yd.2 - monthStart (isLeap yd.1) mon + 1, tmMon := mon, tmYear := yd.1 - 1900,
    tmWday := (days + 4) % 7, tmYday := yd.2 }

/-- The year loop of `gmtime`, from the epoch, on a day count `days ≥ 0`. -/
theorem yearOf_epoch {days : ℤ} (h : 0 ≤ days) :
    daysBeforeYear (yearOf (days.natAbs + 1) 1970 days).1
        + (yearOf (days.natAbs + 1) 1970 days).2 = days ∧
      0 ≤ (yearOf (days.natAbs + 1) 1970 days).2 ∧
      (yearOf (days.natAbs + 1) 1970 days).2 < yearDays (yearOf (days.natAbs + 1) 1970 days).1 ∧
      1970 ≤ (yearOf (days.natAbs + 1) 1970 days).1 := by
  have hd := yearOf_days (days.natAbs + 1) 1970 days
  have hr := yearOf_inRange (days.natAbs + 1) 1970 days h (by omega)
  exact ⟨by rw [hd]; simp [daysBeforeYear], hr⟩

/-- The code's month start, table entry plus leap day, is `monthStart`. -/
theorem kMonthStartDays_add_leap (leap : Bool) (m : ℕ) :
    kMonthStartDays.getD (m : ℤ).toNat 0 + (if (m : ℤ) > 1 ∧ leap then 1 else 0)
      = monthStart leap m := by
  simp only [monthStart, Int.toNat_ofNat, gt_iff_lt, Nat.one_lt_cast, and_comm]

/-- **`tmToTimeTUTC` inverts `gmtime`** at every time from the epoch on. -/
theorem tmToTimeTUTC_gmtime (t : ℤ) (h : 0 ≤ t) : tmToTimeTUTC (gmtime t) = t := by
  obtain ⟨hd, -, -, hy⟩ := yearOf_epoch (show 0 ≤ t / 86400 by omega)
  simp only [tmToTimeTUTC, gmtime, add_sub_cancel]
  generalize yearOf _ 1970 (t / 86400) = yd at hd hy ⊢
  generalize monthOf (isLeap yd.1) yd.2 11 = m
  have hm := kMonthStartDays_add_leap (isLeap yd.1) m
  rw [daysToYear_eq _ (by omega)]
  omega

/-- `timegm`: seconds since the epoch of a broken-down UTC time with month
0–11, by the proleptic Gregorian calendar. -/
def timegm (tm : Tm) : ℤ :=
  let year := 1900 + tm.tmYear
  let days := daysBeforeYear year + monthStart (isLeap year) tm.tmMon.toNat + (tm.tmMday - 1)
  ((days * 24 + tm.tmHour) * 60 + tm.tmMin) * 60 + tm.tmSec

/-- The code's month start, table entry plus leap day, is `monthStart` for
every `tm_mon`: below 0 both read the table at 0 and add no leap day. -/
theorem kMonthStartDays_add_leap_toNat (leap : Bool) (mon : ℤ) :
    kMonthStartDays.getD mon.toNat 0 + (if mon > 1 ∧ leap then 1 else 0) = monthStart leap mon.toNat := by
  simp only [monthStart, gt_iff_lt, Int.lt_toNat, Nat.cast_one, and_comm]

/-- **`tmToTimeTUTC` against `timegm`** from 1901 on: equal, except in the years
before 1969 other than 1901, 1905, ..., 1965, where the code's time is one day
(86400 s) late. -/
theorem tmToTimeTUTC_eq_timegm_add (tm : Tm) (h : 1901 ≤ 1900 + tm.tmYear) :
    tmToTimeTUTC tm = timegm tm +
      if 1900 + tm.tmYear < 1969 ∧ (1969 - (1900 + tm.tmYear)) % 4 ≠ 0 then 86400 else 0 := by
  have hm := kMonthStartDays_add_leap_toNat (isLeap (1900 + tm.tmYear)) tm.tmMon
  simp only [tmToTimeTUTC, timegm, daysToYear_eq_add _ h]
  split_ifs at hm ⊢ <;> omega

/-- Days in month `m` (1–12) of year `y`. -/
def daysInMonth (y m : ℤ) : ℤ :=
  if m = 12 then yearDays y - monthStart (isLeap y) 11
  else monthStart (isLeap y) m.toNat - monthStart (isLeap y) (m - 1).toNat

/-- The field ranges of a `std::tm` that `strftime` prints at fixed width: two
digits for day, hour, minute and second, four for the year. -/
structure Tm.Normal (tm : Tm) : Prop where
  sec : 0 ≤ tm.tmSec ∧ tm.tmSec < 60
  min : 0 ≤ tm.tmMin ∧ tm.tmMin < 60
  hour : 0 ≤ tm.tmHour ∧ tm.tmHour < 24
  mday : 1 ≤ tm.tmMday ∧ tm.tmMday ≤ 31
  mon : 0 ≤ tm.tmMon ∧ tm.tmMon < 12
  wday : 0 ≤ tm.tmWday ∧ tm.tmWday < 7
  year : 1000 ≤ tm.tmYear + 1900 ∧ tm.tmYear + 1900 ≤ 9999

/-- The day of month `gmtime` derives from a day of year is 1–31. -/
theorem mday_bounds (y d : ℤ) (h0 : 0 ≤ d) (h1 : d < yearDays y) :
    1 ≤ d - monthStart (isLeap y) (monthOf (isLeap y) d 11) + 1 ∧
      d - monthStart (isLeap y) (monthOf (isLeap y) d 11) + 1 ≤ 31 := by
  have hlo := monthStart_monthOf_le (isLeap y) h0 11
  have hle := monthOf_le (isLeap y) d 11
  refine ⟨by omega, ?_⟩
  rcases monthOf_top_or_lt (isLeap y) d 11 with htop | hlt
  · have := yearDays_le_monthStart y
    rw [htop] at hlo ⊢; omega
  · rcases Nat.lt_or_ge (monthOf (isLeap y) d 11) 11 with hm | hm
    · have := monthStart_succ_le (isLeap y) _ hm; omega
    · have := yearDays_le_monthStart y
      rw [show monthOf (isLeap y) d 11 = 11 by omega] at hlo ⊢; omega

/-- Every time from the epoch to the end of year 9999 breaks down into a
`Tm.Normal`. -/
theorem gmtime_normal (t : ℤ) (h0 : 0 ≤ t) (h1 : t ≤ 253402300799) : (gmtime t).Normal := by
  obtain ⟨hd, hd0, hd1, hy⟩ := yearOf_epoch (show 0 ≤ t / 86400 by omega)
  have hmday := mday_bounds _ _ hd0 hd1
  have hmon := monthOf_le (isLeap (yearOf ((t / 86400).natAbs + 1) 1970 (t / 86400)).1)
    (yearOf ((t / 86400).natAbs + 1) 1970 (t / 86400)).2 11
  simp only [daysBeforeYear] at hd
  exact ⟨by simp only [gmtime]; omega, by simp only [gmtime]; omega, by simp only [gmtime]; omega,
    hmday, by simp only [gmtime]; omega, by simp only [gmtime]; omega,
    by simp only [gmtime]; omega⟩

/-- The day `gmtime` gives is a day of its month. -/
theorem gmtime_mday_le (t : ℤ) (h0 : 0 ≤ t) :
    (gmtime t).tmMday ≤ daysInMonth (1900 + (gmtime t).tmYear) ((gmtime t).tmMon + 1) := by
  obtain ⟨-, -, hlt, -⟩ := yearOf_epoch (show 0 ≤ t / 86400 by omega)
  simp only [gmtime, daysInMonth, add_sub_cancel]
  generalize yearOf _ 1970 (t / 86400) = yd at hlt ⊢
  have htop := monthOf_top_or_lt (isLeap yd.1) yd.2 11
  have hle := monthOf_le (isLeap yd.1) yd.2 11
  generalize monthOf (isLeap yd.1) yd.2 11 = m at htop hle ⊢
  split_ifs with h12
  · have : m = 11 := by omega
    subst this
    omega
  · rw [show ((m : ℤ) + 1).toNat = m + 1 by omega, show ((m : ℤ) + 1 - 1).toNat = m by omega]
    omega

/-- From the end of year 9999 on, `gmtime` is in year 10000 or later. -/
theorem gmtime_year_ge (t : ℤ) (h : 253402300800 ≤ t) : 9999 < 1900 + (gmtime t).tmYear := by
  obtain ⟨hd, -, hlt, -⟩ := yearOf_epoch (show 0 ≤ t / 86400 by omega)
  simp only [gmtime, add_sub_cancel]
  generalize yearOf _ 1970 (t / 86400) = yd at hd hlt ⊢
  by_contra hy
  have hsucc := daysBeforeYear_succ yd.1
  have hmono : daysBeforeYear (yd.1 + 1) ≤ daysBeforeYear 10000 := by
    simp only [daysBeforeYear]; omega
  have h10000 : daysBeforeYear 10000 = 2932897 := by decide
  omega

end Pvxs
