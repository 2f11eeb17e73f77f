import Clearance.Time.Timestamp
import Mathlib.Algebra.Ring.Nat

/-!
# The calendar forth and back

Every day number of the calendar has a date, and the date has that day number.  So a timestamp is
put together again from its date, its time of day and its offset.
-/

namespace Clearance.Time

/-- A date that the calendar has. -/
structure Date.Valid (d : Date) : Prop where
  year_pos : 1 ≤ d.year
  year_le : d.year ≤ 9999
  month_pos : 1 ≤ d.month
  month_le : d.month ≤ 12
  day_pos : 1 ≤ d.day
  day_le : d.day ≤ daysInMonth d.year d.month

/-- Walking down the months finds the month with the day. -/
theorem splitMonths_spec (lengths : List Nat) (month rest : Nat) (h : rest < lengths.sum) :
    ∃ k, (splitMonths lengths month rest).1 = month + k ∧
      (splitMonths lengths month rest).2 < (lengths[k]?).getD 0 ∧ k < lengths.length ∧
      (lengths.take k).sum + (splitMonths lengths month rest).2 = rest := by
  induction lengths generalizing month rest with
  | nil => simp at h
  | cons length later ih =>
      unfold splitMonths
      split
      · rename_i hlt
        exact ⟨0, rfl, hlt, by simp, by simp⟩
      · rename_i hge
        rw [List.sum_cons] at h
        obtain ⟨k, hmonth, hday, hk, hsum⟩ := ih (month + 1) (rest - length) (by omega)
        refine ⟨k + 1, by omega, hday, by simpa using hk, ?_⟩
        rw [List.take_succ_cons, List.sum_cons]
        omega

theorem sum_monthLengths (year : Nat) :
    (monthLengths year).sum = if isLeapYear year then 366 else 365 := by
  unfold monthLengths
  split <;> rfl

theorem foldl_add_eq_sum (lengths : List Nat) (n : Nat) :
    lengths.foldl (· + ·) n = n + lengths.sum := by
  induction lengths generalizing n with
  | nil => rfl
  | cons length rest ih =>
      rw [List.foldl_cons, ih, List.sum_cons]
      omega

theorem length_monthLengths (year : Nat) : (monthLengths year).length = 12 := rfl

theorem dayCount_eq : dayCount = 3652059 := by
  decide

/--
The parts of a day number: its cycles of 400, 100, 4 and 1 years, and the day of the year.  A year
has a day of number 365 only where it leaps.
-/
theorem exists_cycles {n : Nat} (h : n < dayCount) : ∃ a b c d day,
    (a ≤ 24 ∧ b ≤ 3 ∧ c ≤ 24 ∧ d ≤ 3) ∧ a * 146097 + b * 36524 + c * 1461 + d * 365 + day = n ∧
      (day < 365 ∨ day = 365 ∧ d = 3 ∧ (c = 24 -> b = 3)) ∧
      Date.ofDayNumber n =
        { year := a * 400 + b * 100 + c * 4 + d + 1
          month := (splitMonths (monthLengths (a * 400 + b * 100 + c * 4 + d + 1)) 1 day).1
          day := (splitMonths (monthLengths (a * 400 + b * 100 + c * 4 + d + 1)) 1 day).2 + 1 } := by
  rw [dayCount_eq] at h
  refine ⟨n / 146097, min (n % 146097 / 36524) 3, _, _, _, ?_, ?_, ?_, rfl⟩
  all_goals
    generalize hr : n % 146097 = r
    generalize hb : min (r / 36524) 3 = b
    generalize hs : r - b * 36524 = s
    generalize ht : s % 1461 = t
    generalize hd : min (t / 365) 3 = d
  · omega
  · omega
  · omega

/-- The date of a day number is in the calendar and has that number. -/
theorem ofDayNumber_spec {n : Nat} (h : n < dayCount) :
    (Date.ofDayNumber n).Valid ∧ (Date.ofDayNumber n).dayNumber = n := by
  obtain ⟨a, b, c, d, day, ⟨ha, hb, hc, hd⟩, hwhole, hday, hdate⟩ := exists_cycles h
  obtain ⟨year, hyear⟩ : ∃ year, year = a * 400 + b * 100 + c * 4 + d + 1 := ⟨_, rfl⟩
  rw [← hyear] at hdate
  have hleap : day < (monthLengths year).sum := by
    rw [sum_monthLengths]
    rcases hday with hday | ⟨hday, hlast, hcentury⟩
    · split <;> omega
    · have hfour : year % 4 = 0 := by omega
      have hhundred : year % 100 = 0 -> c = 24 := by omega
      have hrest : c = 24 -> b = 3 -> year % 400 = 0 := by omega
      have hyes : isLeapYear year = true := by
        simp only [isLeapYear, Bool.and_eq_true, Bool.or_eq_true, bne_iff_ne, beq_iff_eq]
        by_cases hc24 : c = 24
        · exact ⟨hfour, .inr (hrest hc24 (hcentury hc24))⟩
        · exact ⟨hfour, .inl fun h => hc24 (hhundred h)⟩
      rw [if_pos hyes, hday]
      decide
  have hbefore : daysBeforeYear year + day = n := by
    have hless : year - 1 = a * 400 + b * 100 + c * 4 + d := by omega
    have hquarter : (a * 400 + b * 100 + c * 4 + d) / 4 = a * 100 + b * 25 + c := by omega
    have hcentury : (a * 400 + b * 100 + c * 4 + d) / 100 = a * 4 + b := by omega
    have hcycle : (a * 400 + b * 100 + c * 4 + d) / 400 = a := by omega
    simp only [daysBeforeYear, hless, hquarter, hcentury, hcycle]
    omega
  obtain ⟨k, hmonth, hlt, hk, hsum⟩ := splitMonths_spec (monthLengths year) 1 day hleap
  rw [length_monthLengths] at hk
  have hindex : (Date.ofDayNumber n).month - 1 = k := by
    rw [hdate]
    simp only [hmonth]
    omega
  constructor
  · have hlength : (Date.ofDayNumber n).day ≤ ((monthLengths year)[k]?).getD 0 := by
      rw [hdate]
      exact hlt
    have hname : (Date.ofDayNumber n).year = year := by rw [hdate]
    constructor
    case day_le => rwa [daysInMonth, hname, hindex]
    all_goals
      rw [hdate]
      simp only [hmonth]
      have hcount := dayCount_eq
      omega
  · have hname : (Date.ofDayNumber n).year = year := by rw [hdate]
    have hplace : (Date.ofDayNumber n).day - 1 = (splitMonths (monthLengths year) 1 day).2 := by
      rw [hdate]
      rfl
    rw [Date.dayNumber, daysBeforeMonth, foldl_add_eq_sum, hname, hindex, hplace]
    omega

end Clearance.Time

namespace Clearance

open Time

/-- A time of day that a clock can show. -/
structure Time.Clock.Valid (c : Clock) : Prop where
  hour_lt : c.hour < 24
  minute_lt : c.minute < 60
  second_lt : c.second < 60
  micro_lt : c.micro < microsPerSecond

namespace Timestamp

variable {t : Timestamp}

theorem date_spec (h : t.wall < wallLimit) :
    t.date.Valid ∧ t.date.dayNumber = t.wall / microsPerDay := by
  refine ofDayNumber_spec ?_
  rw [wallLimit, Nat.mul_comm] at h
  exact Nat.div_lt_of_lt_mul h

theorem valid_clock (t : Timestamp) : t.clock.Valid := by
  constructor
  all_goals
    simp only [clock, microsPerDay, microsPerSecond]
    omega

theorem micros_clock (t : Timestamp) : t.clock.micros = t.wall % microsPerDay := by
  simp only [Clock.micros, clock]
  generalize t.wall % microsPerDay = m
  simp only [microsPerSecond]
  omega

/-- A timestamp of the calendar is put together again from its parts. -/
theorem ofParts_parts (h : t.wall < wallLimit) : ofParts t.date t.clock t.offset = t := by
  rw [ofParts, (date_spec h).2, micros_clock, Nat.mul_comm, Nat.div_add_mod]

end Timestamp

end Clearance
