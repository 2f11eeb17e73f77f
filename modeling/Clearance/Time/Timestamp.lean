import Clearance.Decimal.Layout
import Clearance.Time.Calendar

/-!
# Timestamps

A timestamp is a reading of a wall clock, to the microsecond, with or without the offset of its
zone from universal time.  Timestamps with an offset are compared as instants.
-/

namespace Clearance

namespace Time

def microsPerSecond : Nat := 1000000
def microsPerDay : Nat := 86400 * microsPerSecond

/-- The microseconds that the calendar spans. -/
def wallLimit : Nat := dayCount * microsPerDay

/-- The time of day of a wall clock. -/
structure Clock where
  hour : Nat
  minute : Nat
  second : Nat
  micro : Nat
  deriving DecidableEq, Repr

def Clock.micros (c : Clock) : Nat :=
  ((c.hour * 60 + c.minute) * 60 + c.second) * microsPerSecond + c.micro

end Time

open Time

/-- A wall clock reading in microseconds since the calendar began, and the zone's offset. -/
structure Timestamp where
  wall : Nat
  offset : Option Int
  deriving DecidableEq, Repr, Inhabited

namespace Timestamp

def date (t : Timestamp) : Date :=
  Date.ofDayNumber (t.wall / microsPerDay)

def clock (t : Timestamp) : Clock :=
  let m := t.wall % microsPerDay
  let s := m / microsPerSecond
  { hour := s / 3600, minute := s / 60 % 60, second := s % 60, micro := m % microsPerSecond }

def ofParts (d : Date) (c : Clock) (offset : Option Int) : Timestamp :=
  { wall := d.dayNumber * microsPerDay + c.micros, offset }

/-- The instant of a timestamp; one without an offset counts as universal time. -/
def instant (t : Timestamp) : Int :=
  (t.wall : Int) - t.offset.getD 0

/-- Why no timestamp results. -/
inductive RangeFault where
  /-- The wall clock would leave the calendar. -/
  | wall
  /-- The local zone shows a year that the calendar does not have. -/
  | year (given : Nat)
  deriving DecidableEq, Repr

def RangeFault.message : RangeFault -> String
  | .wall => "date value out of range"
  | .year given => "year " ++ Decimal.natText given ++ " is out of range"

/-- The timestamp a number of microseconds later on the same wall clock. -/
def shift (t : Timestamp) (micros : Int) : Except RangeFault Timestamp :=
  let wall := (t.wall : Int) + micros
  if 0 <= wall && wall < wallLimit then .ok { t with wall := wall.toNat } else .error .wall

/--
Reads a timestamp without an offset on the local clock, whose zone has the given offset.  Near
the ends of the calendar the local reading has no year, or its universal time none.
-/
def localize (zone : Int) (t : Timestamp) : Except RangeFault Timestamp :=
  match t.offset with
  | some _ => .ok t
  | none =>
      let ahead := (t.wall : Int) + zone
      let universal := (t.wall : Int) - zone
      if ahead < 0 then .error (.year 0)
      else if (wallLimit : Int) <= ahead then .error (.year 10000)
      else if universal < 0 || (wallLimit : Int) <= universal then .error .wall
      else .ok { t with offset := some zone }

theorem localize_of_offset {zone : Int} {t : Timestamp} {offset : Int}
    (h : t.offset = some offset) : t.localize zone = .ok t := by
  simp [localize, h]

/-! ## Written forms -/

open Decimal (padLeft)

def dateText (d : Date) : String :=
  padLeft 4 d.year ++ "-" ++ padLeft 2 d.month ++ "-" ++ padLeft 2 d.day

def microText (micro : Nat) : String :=
  if micro = 0 then "" else "." ++ padLeft 6 micro

def hourMinuteSecond (c : Clock) : String :=
  padLeft 2 c.hour ++ ":" ++ padLeft 2 c.minute ++ ":" ++ padLeft 2 c.second

/-- An offset as sign, hours and minutes, with seconds and microseconds only if there are any. -/
def offsetText (offset : Int) : String :=
  let n := offset.natAbs
  let seconds := n / microsPerSecond
  let base :=
    (if offset < 0 then "-" else "+") ++ padLeft 2 (seconds / 3600) ++ ":"
      ++ padLeft 2 (seconds / 60 % 60)
  if n % (60 * microsPerSecond) = 0 then base
  else base ++ ":" ++ padLeft 2 (seconds % 60) ++ microText (n % microsPerSecond)

def isoTextWith (separator : String) (t : Timestamp) : String :=
  dateText t.date ++ separator ++ hourMinuteSecond t.clock ++ microText t.clock.micro
    ++ (t.offset.map offsetText).getD ""

/-- The standard text: date, the letter T, time, and the offset if there is one. -/
def isoText (t : Timestamp) : String :=
  isoTextWith "T" t

/-- The text with a blank between date and time. -/
def spacedText (t : Timestamp) : String :=
  isoTextWith " " t

/-- The standard text with the letter Z for universal time and offsets cut to whole minutes. -/
def zuluText (t : Timestamp) : String :=
  let zone :=
    match t.offset with
    | none => ""
    | some 0 => "Z"
    | some offset =>
        let minutes := offset.natAbs / (60 * microsPerSecond)
        (if offset < 0 then "-" else "+") ++ padLeft 2 (minutes / 60) ++ ":"
          ++ padLeft 2 (minutes % 60)
  dateText t.date ++ "T" ++ hourMinuteSecond t.clock ++ microText t.clock.micro ++ zone

/-- The time of day to the second. -/
def timeOfDay (t : Timestamp) : String :=
  hourMinuteSecond t.clock

/-- Date and time of day to the second; the year has no leading zeros. -/
def plainText (t : Timestamp) : String :=
  let d := t.date
  Decimal.natText d.year ++ "-" ++ padLeft 2 d.month ++ "-" ++ padLeft 2 d.day ++ " "
    ++ hourMinuteSecond t.clock

end Timestamp

end Clearance
