/-!
# Calendar

The proleptic Gregorian calendar from year 1 to year 9999.  Days are counted from the first of
January of year 1, which is day zero.
-/

namespace Clearance.Time

def isLeapYear (year : Nat) : Bool :=
  year % 4 == 0 && (year % 100 != 0 || year % 400 == 0)

/-- The lengths of the months of a year, in order. -/
def monthLengths (year : Nat) : List Nat :=
  [31, if isLeapYear year then 29 else 28, 31, 30, 31, 30, 31, 31, 30, 31, 30, 31]

def daysInMonth (year month : Nat) : Nat :=
  ((monthLengths year)[month - 1]?).getD 0

/-- The days before the first of January of a year. -/
def daysBeforeYear (year : Nat) : Nat :=
  let y := year - 1
  y * 365 + y / 4 - y / 100 + y / 400

def daysBeforeMonth (year month : Nat) : Nat :=
  ((monthLengths year).take (month - 1)).foldl (· + ·) 0

/-- A day of the calendar by its name. -/
structure Date where
  year : Nat
  month : Nat
  day : Nat
  deriving DecidableEq, Repr

/-- Why three numbers name no day. -/
inductive DateFault where
  | year (given : Nat)
  | month
  | day
  deriving DecidableEq, Repr

def DateFault.message : DateFault -> String
  | .year given => "year " ++ toString given ++ " is out of range"
  | .month => "month must be in 1..12"
  | .day => "day is out of range for month"

/-- The day with the given numbers, if the calendar has it. -/
def Date.make (year month day : Nat) : Except DateFault Date :=
  if year < 1 || 9999 < year then .error (.year year)
  else if month < 1 || 12 < month then .error .month
  else if day < 1 || daysInMonth year month < day then .error .day
  else .ok { year, month, day }

def Date.dayNumber (d : Date) : Nat :=
  daysBeforeYear d.year + daysBeforeMonth d.year d.month + (d.day - 1)

/-- Finds month and day of the month for a day of the year, walking down the months. -/
def splitMonths : List Nat -> Nat -> Nat -> Nat × Nat
  | [], month, rest => (month, rest)
  | length :: later, month, rest =>
      if rest < length then (month, rest) else splitMonths later (month + 1) (rest - length)

/--
The date of a day number.  Years repeat in cycles of 400, 100, 4 and 1; the last day of a cycle
of 400 or of 4 would open a fourth century or year of its own and is held back in the third.
-/
def Date.ofDayNumber (n : Nat) : Date :=
  let cycle400 := n / 146097
  let n := n % 146097
  let century := min (n / 36524) 3
  let n := n - century * 36524
  let cycle4 := n / 1461
  let n := n % 1461
  let single := min (n / 365) 3
  let n := n - single * 365
  let year := cycle400 * 400 + century * 100 + cycle4 * 4 + single + 1
  let (month, day) := splitMonths (monthLengths year) 1 n
  { year, month, day := day + 1 }

/-- The number of days that the calendar has. -/
def dayCount : Nat := daysBeforeYear 10000

/-- The weekday of a day number, Monday being zero. -/
def weekday (dayNumber : Nat) : Nat :=
  dayNumber % 7

/-- The day number of the Monday that opens the first numbered week of a year. -/
def firstMonday (year : Nat) : Int :=
  let first := daysBeforeYear year
  let day := weekday first
  if 3 < day then (first : Int) + (7 - day) else (first : Int) - day

/-- Whether a year has a week 53: it starts on a Thursday, or leaps and starts on a Wednesday. -/
def hasWeek53 (year : Nat) : Bool :=
  let day := weekday (daysBeforeYear year)
  day == 3 || (day == 2 && isLeapYear year)

example : Date.ofDayNumber 0 = ⟨1, 1, 1⟩ := by decide +kernel
example : Date.ofDayNumber (Date.dayNumber ⟨2024, 2, 29⟩) = ⟨2024, 2, 29⟩ := by decide +kernel
example : Date.ofDayNumber (dayCount - 1) = ⟨9999, 12, 31⟩ := by decide +kernel

end Clearance.Time
