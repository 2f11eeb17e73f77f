import Clearance.Proofs.Decimal.Digits
import Clearance.Proofs.Time.Calendar

/-!
# Minutes of the day

The text of a minute has two digits for the hour, a colon, and two digits for the minute of the
hour.  Texts of minutes are in the order of the minutes, and the time of day that a timestamp shows
begins with the text of its minute, whatever its seconds are.
-/

namespace Clearance

namespace Time

def minutesPerDay : Nat := 1440

/-- The text of a minute of the day, with two digits for the hour and two for the minute. -/
def minuteText (minute : Nat) : String :=
  String.ofList [(minute / 600).digitChar, (minute / 60 % 10).digitChar, ':',
    (minute % 60 / 10).digitChar, (minute % 10).digitChar]

theorem digitChar_lt_iff {a b : Nat} (ha : a < 10) (hb : b < 10) :
    a.digitChar < b.digitChar ↔ a < b := by
  rw [Char.lt_def, UInt32.lt_iff_toNat_lt]
  change a.digitChar.toNat < b.digitChar.toNat ↔ a < b
  rw [Nat.toNat_digitChar_of_lt_ten ha, Nat.toNat_digitChar_of_lt_ten hb]
  omega

theorem digitChar_inj {a b : Nat} (ha : a < 10) (hb : b < 10) :
    a.digitChar = b.digitChar ↔ a = b := by
  rw [← Char.toNat_inj, Nat.toNat_digitChar_of_lt_ten ha, Nat.toNat_digitChar_of_lt_ten hb]
  omega

/-- The order of the texts is that of the minutes. -/
theorem minuteText_lt_iff {m n : Nat} (hm : m < minutesPerDay) (hn : n < minutesPerDay) :
    minuteText m < minuteText n ↔ m < n := by
  unfold minutesPerDay at hm hn
  have hhours : m / 600 < 10 ∧ n / 600 < 10 := by omega
  have htens : m % 60 / 10 < 10 ∧ n % 60 / 10 < 10 := by omega
  have hlast (k : Nat) : k % 10 < 10 := Nat.mod_lt k (by decide)
  simp only [minuteText, String.lt_iff, String.toList_ofList, List.cons_lt_cons_iff,
    digitChar_lt_iff hhours.1 hhours.2, digitChar_inj hhours.1 hhours.2,
    digitChar_lt_iff htens.1 htens.2, digitChar_inj htens.1 htens.2,
    digitChar_lt_iff (hlast _) (hlast _), digitChar_inj (hlast _) (hlast _),
    Char.lt_irrefl, List.not_lt_nil, false_or, true_and, and_false, or_false]
  omega

theorem minuteText_le_iff {m n : Nat} (hm : m < minutesPerDay) (hn : n < minutesPerDay) :
    minuteText m ≤ minuteText n ↔ m ≤ n := by
  rw [← String.not_lt, minuteText_lt_iff hn hm, Nat.not_lt]

/-- A number of two digits is written as its two digits. -/
theorem toList_padLeft_two {n : Nat} (h : n < 100) :
    (Decimal.padLeft 2 n).toList = [(n / 10).digitChar, (n % 10).digitChar] := by
  rw [Decimal.toList_padLeft, Decimal.digitChars]
  by_cases hn : n < 10
  · rw [Nat.toDigits_of_lt_base hn, Nat.div_eq_of_lt hn, Nat.mod_eq_of_lt hn]
    rfl
  · have hten : n / 10 < 10 := by omega
    rw [Nat.toDigits_of_base_le (by decide) (by omega), Nat.toDigits_of_lt_base hten]
    rfl

end Time

open Time

namespace Timestamp

/-- The whole minutes that a timestamp shows since midnight. -/
def minuteOfDay (t : Timestamp) : Nat :=
  t.wall % microsPerDay / (60 * microsPerSecond)

theorem minuteOfDay_lt (t : Timestamp) : t.minuteOfDay < minutesPerDay := by
  simp only [minuteOfDay, microsPerDay, microsPerSecond, minutesPerDay]
  omega

theorem minuteOfDay_eq_clock (t : Timestamp) :
    t.minuteOfDay = t.clock.hour * 60 + t.clock.minute := by
  simp only [minuteOfDay, clock, microsPerDay, microsPerSecond]
  omega

/-- The first five characters of a time of day are the text of its minute. -/
theorem take_timeOfDay (t : Timestamp) :
    String.ofList (t.timeOfDay.toList.take 5) = minuteText t.minuteOfDay := by
  have hvalid := t.valid_clock
  have hhour : t.clock.hour < 100 := by
    have := hvalid.hour_lt
    omega
  have hminute : t.clock.minute < 60 := hvalid.minute_lt
  have hdigits : t.minuteOfDay / 600 = t.clock.hour / 10 ∧
      t.minuteOfDay / 60 % 10 = t.clock.hour % 10 ∧
      t.minuteOfDay % 60 / 10 = t.clock.minute / 10 ∧
      t.minuteOfDay % 10 = t.clock.minute % 10 := by
    rw [minuteOfDay_eq_clock]
    omega
  obtain ⟨h₁, h₂, h₃, h₄⟩ := hdigits
  simp only [timeOfDay, hourMinuteSecond, minuteText, String.toList_append,
    toList_padLeft_two hhour, toList_padLeft_two (Nat.lt_trans hminute (by decide)), h₁, h₂, h₃, h₄]
  rfl

end Timestamp

end Clearance
