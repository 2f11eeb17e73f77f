import Clearance.Decimal.Reading
import Clearance.Value

/-!
# Standard timestamp texts

Reads the texts of the international standard: a date by month or by week, with dashes or
without, then any one character and a time of day with an optional fraction and offset.
-/

namespace Clearance.Time

open Decimal (isDigit readNat?)

/-- Why a text is no timestamp. -/
inductive IsoFault where
  | malformed
  /-- The offset of the zone, in microseconds, is a day or more. -/
  | offset (micros : Int)
  | date (fault : DateFault)
  | hour
  | minute
  | second
  deriving DecidableEq, Repr

/-- What is wrong with a text that is no timestamp. -/
def IsoFault.message (text : String) : IsoFault -> String
  | .malformed => "Invalid isoformat string: " ++ Text.quoted text
  | .offset micros =>
      "offset must be a timedelta strictly between -timedelta(hours=24) and timedelta(hours=24), not "
        ++ Literal.duration micros ++ "."
  | .date fault => fault.message
  | .hour => "hour must be in 0..23"
  | .minute => "minute must be in 0..59"
  | .second => "second must be in 0..59"

/-- The number written by exactly `n` digits at the front, and the rest. -/
def takeNat? (n : Nat) (cs : List Char) : Option (Nat × List Char) :=
  let front := cs.take n
  if front.length = n then (readNat? 10 front).map fun v => (v, cs.drop n) else none

/-- Where the date ends, given the whole text. -/
def dateLength (cs : List Char) : Nat :=
  if cs.length = 7 then 7
  else if cs[4]? = some '-' then
    if cs[5]? = some 'W' then
      if cs[8]? = some '-' then
        if (cs[10]?.map isDigit).getD false then 8 else 10
      else 8
    else 10
  else if cs[4]? = some 'W' then
    let stop := 7 + ((cs.drop 7).takeWhile isDigit).length
    if stop < 9 then stop else if stop % 2 = 0 then 7 else 8
  else 8

/-- Drops a dash if dashes are in use, and refuses one if they are not. -/
def dropDash? (dashed : Bool) (cs : List Char) : Option (List Char) :=
  match cs with
  | '-' :: rest => if dashed then some rest else none
  | _ => if dashed then none else some cs

/-- The day with the given number of a numbered week. -/
def weekDate? (year week day : Nat) : Option Date :=
  if year < 1 || 9999 < year then none
  else if week < 1 || 53 < week || (week == 53 && !hasWeek53 year) then none
  else if day < 1 || 7 < day then none
  else
    let n := firstMonday year + ((week - 1) * 7 + (day - 1) : Nat)
    if 0 <= n && n < dayCount then some (Date.ofDayNumber n.toNat) else none

/-- A date text, by month and day or by week and weekday. -/
def readDate (cs : List Char) : Except IsoFault Date :=
  match takeNat? 4 cs with
  | none => .error .malformed
  | some (year, rest) =>
      let dashed := rest.head? = some '-'
      let rest := if dashed then rest.drop 1 else rest
      match rest with
      | 'W' :: rest =>
          match takeNat? 2 rest with
          | none => .error .malformed
          | some (week, rest) =>
              let day? :=
                if rest.isEmpty then some 1
                else (dropDash? dashed rest).bind fun r =>
                  match takeNat? 1 r with
                  | some (d, []) => some d
                  | _ => none
              match day?.bind (weekDate? year week) with
              | some d => .ok d
              | none => .error .malformed
      | _ =>
          match takeNat? 2 rest with
          | none => .error .malformed
          | some (month, rest) =>
              match (dropDash? dashed rest).bind (takeNat? 2) with
              | some (day, []) => (Date.make year month day).mapError .date
              | _ => .error .malformed

/-- The units of a time of day that were read, and whether they took all characters. -/
structure ClockReading where
  units : List Nat
  micro : Nat := 0
  isWhole : Bool

/--
The fraction of a second.  Digits past the sixth are cut off, and so is anything behind these;
fewer than six must be all there is.
-/
def readFraction? (cs : List Char) : Option ClockReading :=
  let front := cs.take 6
  (readNat? 10 front).map fun n =>
    { units := [], micro := n * Nat.pow 10 (6 - front.length)
      isWhole := ((cs.drop 6).dropWhile isDigit).isEmpty }

/--
A unit of two digits and up to `more` finer ones, with colons between them or without.  A point
or comma opens a fraction behind any unit, and so does whatever follows the finest one.
-/
def readUnits? : (more : Nat) -> (colons? : Option Bool) -> List Char -> Option ClockReading
  | more, colons?, cs => do
      let (unit, rest) <- takeNat? 2 cs
      match rest with
      | [] => return { units := [unit], isWhole := true }
      | [_] => return { units := [unit], isWhole := false }
      | c :: tail =>
          let colons := colons?.getD (c = ':')
          let finer <-
            if c = '.' || c = ',' then readFraction? tail
            else if colons && c != ':' then none
            else
              let next := if colons then tail else rest
              match more with
              | 0 => readFraction? next
              | more + 1 => readUnits? more (some colons) next
          return { finer with units := unit :: finer.units }

/-- Hours, then optionally minutes, seconds and a fraction. -/
def readClock? (cs : List Char) : Option (Clock × Bool) :=
  (readUnits? 2 none cs).map fun r =>
    let unit (n : Nat) : Nat := (r.units[n]?).getD 0
    ({ hour := unit 0, minute := unit 1, second := unit 2, micro := r.micro }, r.isWhole)

/-- Whether a character opens the zone. -/
def isZoneMark (c : Char) : Bool :=
  c == '+' || c == '-' || c == 'Z'

/-- The offset of a zone text in microseconds.  One without seconds has no fraction either. -/
def readZone? (mark : Char) (cs : List Char) : Option Int :=
  if mark = 'Z' then if cs.isEmpty then some 0 else none
  else
    match readClock? cs with
    | some (c, true) =>
        let micros : Int := if c.micros < microsPerSecond then 0 else c.micros
        some (if mark = '-' then -micros else micros)
    | _ => none

def checkClock (c : Clock) : Except IsoFault Clock :=
  if 23 < c.hour then .error .hour
  else if 59 < c.minute then .error .minute
  else if 59 < c.second then .error .second
  else .ok c

/--
A time of day with an optional zone.  Only in front of a zone may characters be left over.
-/
def readTime (cs : List Char) : Except IsoFault (Clock × Option Int) :=
  match readClock? (cs.takeWhile (!isZoneMark ·)), cs.dropWhile (!isZoneMark ·) with
  | none, _ | some (_, false), [] => .error .malformed
  | some (c, true), [] => .ok (c, none)
  | some (c, _), mark :: rest =>
      match readZone? mark rest with
      | none => .error .malformed
      | some offset =>
          if offset.natAbs < microsPerDay then .ok (c, some offset) else .error (.offset offset)

/-- The start of a day. -/
def midnight : Clock := { hour := 0, minute := 0, second := 0, micro := 0 }

/--
Reads a timestamp.  A text of the wrong form is refused before an offset, and an offset before
numbers that name no day or time.  A separator of ASCII may end the text.
-/
def readIso (s : String) : Except IsoFault Timestamp :=
  let cs := s.toList
  if s.utf8ByteSize < 7 then .error .malformed
  else
    let stop := dateLength cs
    match readDate (cs.take stop), cs.drop stop with
    | .error .malformed, _ => .error .malformed
    | front, [] => front.map fun d => Timestamp.ofParts d midnight none
    | front, separator :: rest =>
        if rest.isEmpty && separator.toNat < 128 then
          front.map fun d => Timestamp.ofParts d midnight none
        else do
          let (c, offset) <- readTime rest
          let d <- front
          let c <- checkClock c
          return Timestamp.ofParts d c offset

end Clearance.Time
