import Clearance.Decimal.Reading
import Clearance.Time.Timestamp

/-!
# Timestamps in data

The texts and numbers that data may give a timestamp by: a date with a time and an offset, a date
alone, or the seconds since 1970, which are milliseconds when there are very many.
-/

namespace Clearance.Schema

open Time

/-- Why a text is no timestamp or date. -/
inductive MomentFault where
  | tooShort
  | extraCharacters
  | yearCharacter
  | monthCharacter
  | dayCharacter
  | dateSeparator
  | monthRange
  | dayRange
  | yearRange
  | tooEarly
  | tooLate
  | notANumber
  /-- The time of day or its zone; a text with this fault is read as a date once more. -/
  | time
  deriving DecidableEq, Repr

def MomentFault.message : MomentFault -> String
  | .tooShort => "input is too short"
  | .extraCharacters => "unexpected extra characters at the end of the input"
  | .yearCharacter => "invalid character in year"
  | .monthCharacter => "invalid character in month"
  | .dayCharacter => "invalid character in day"
  | .dateSeparator => "invalid date separator, expected `-`"
  | .monthRange => "month value is outside expected range of 1-12"
  | .dayRange => "day value is outside expected range"
  | .yearRange => "year is out of range"
  | .tooEarly => "dates before 1600 are not supported as unix timestamps"
  | .tooLate => "dates after 9999 are not supported as unix timestamps"
  | .notANumber => "NaN values not permitted"
  | .time => "invalid time"

/-- Two digits. -/
def twoDigits? : List Char -> Option (Nat × List Char)
  | a :: b :: rest => (Decimal.readNat? 10 [a, b]).map fun n => (n, rest)
  | _ => none

/-- A date at the front of a text, and the rest. -/
def readDay (cs : List Char) : Except MomentFault (Date × List Char) :=
  if (String.ofList cs).utf8ByteSize < 10 then .error .tooShort
  else
    match Decimal.readNat? 10 (cs.take 4) with
    | none => .error .yearCharacter
    | some year =>
        match cs.drop 4 with
        | '-' :: rest =>
            match twoDigits? rest with
            | none => .error .monthCharacter
            | some (month, '-' :: rest) =>
                match twoDigits? rest with
                | none => .error .dayCharacter
                | some (day, rest) =>
                    if month < 1 || 12 < month then .error .monthRange
                    else if day < 1 || daysInMonth year month < day then .error .dayRange
                    else if year < 1 then .error .yearRange
                    else .ok ({ year, month, day }, rest)
            | some _ => .error .dateSeparator
        | _ => .error .dateSeparator

/-- Seconds and a fraction behind the minutes, if they follow. -/
def readSeconds? (cs : List Char) : Option ((Nat × Nat) × List Char) :=
  match cs with
  | ':' :: rest => do
      let (second, rest) <- twoDigits? rest
      if 59 < second then none
      match rest with
      | c :: more =>
          if c = '.' || c = ',' then
            let digits := more.takeWhile Decimal.isDigit
            if digits.isEmpty then none
            let front := digits.take 6
            let micro <- (Decimal.readNat? 10 front).map fun n => n * Nat.pow 10 (6 - front.length)
            return ((second, micro), more.drop digits.length)
          else return ((second, 0), rest)
      | [] => return ((second, 0), [])
  | _ => some ((0, 0), cs)

/-- The offset that ends a text: nothing, the letter Z, or hours and minutes. -/
def readOffset? : List Char -> Option (Option Int)
  | [] => some none
  | ['Z'] | ['z'] => some (some 0)
  | sign :: rest => do
      if sign != '+' && sign != '-' && sign != '\u2212' then none
      let (hours, rest) <- twoDigits? rest
      let rest := if rest.head? = some ':' then rest.drop 1 else rest
      let (minutes, rest) <- twoDigits? rest
      if !rest.isEmpty || 59 < minutes || 24 <= hours then none
      let micros : Int := (hours * 60 + minutes : Nat) * (60 * microsPerSecond : Nat)
      return some (if sign = '+' then micros else -micros)

/-- A date, a separator, a time of day and an offset. -/
def readDayAndTime (cs : List Char) : Except MomentFault Timestamp := do
  let (date, rest) <- readDay cs
  let parts? : Option Timestamp := do
    match rest with
    | c :: rest =>
        if c != 'T' && c != 't' && c != ' ' && c != '_' then none
        let (hour, rest) <- twoDigits? rest
        match rest with
        | ':' :: rest =>
            let (minute, rest) <- twoDigits? rest
            if 23 < hour || 59 < minute then none
            let ((second, micro), rest) <- readSeconds? rest
            let offset <- readOffset? rest
            return Timestamp.ofParts date { hour, minute, second, micro } offset
        | _ => none
    | [] => none
  match parts? with
  | some t => return t
  | none => throw .time

/-- The start of 1970 in microseconds of the calendar. -/
def epoch : Int := 719162 * microsPerDay

/-- The most units that are taken for seconds. -/
def secondsLimit : Nat := 20000000000

/-- The timestamp of a number of microseconds since 1970 in universal time. -/
def ofEpochMicros (micros : Int) : Except MomentFault Timestamp :=
  let wall := epoch + micros
  if micros < -11676096000 * microsPerSecond then .error .tooEarly
  else if (wallLimit : Int) <= wall then .error .tooLate
  else .ok { wall := wall.toNat, offset := some 0 }

/-- The timestamp of a whole number of seconds or milliseconds, and microseconds beyond it. -/
def ofEpochParts (n : Int) (micro : Nat) : Except MomentFault Timestamp :=
  if n.natAbs <= secondsLimit then ofEpochMicros (n * microsPerSecond + micro)
  else ofEpochMicros (n * 1000 + micro)

def ofEpochInt (n : Int) : Except MomentFault Timestamp :=
  ofEpochParts n 0

/-- A fraction of a unit in millionths; the product is rounded first, and a half goes up. -/
def millionths (num den : Nat) : Nat :=
  match ((Binary64.ofRatio false num den).scale 1000000).toRatio? with
  | some (num, den) => (2 * num.natAbs + den) / (2 * den)
  | none => 0

/-- The timestamp of a number of seconds or milliseconds: the whole part below, and the fraction. -/
def ofEpochReal (x : Binary64) : Except MomentFault Timestamp :=
  match x.toRatio? with
  | none => .error (if x.isNaN then .notANumber else if x.isNegative then .tooEarly else .tooLate)
  | some (num, den) => ofEpochParts (num.fdiv den) (millionths (num.natAbs % den) den)

/-- The timestamp of a written number: milliseconds are turned into seconds first. -/
def ofEpochDecimal (x : Binary64) : Except MomentFault Timestamp :=
  let seconds? : Option (Int × Nat) := do
    let (num, den) <- x.toRatio?
    if num.natAbs <= secondsLimit * den then return (num, den)
    else (Binary64.ofRatio x.isNegative num.natAbs (den * 1000)).toRatio?
  match seconds? with
  | none => .error .tooLate
  | some (num, den) => ofEpochParts (num.fdiv den) (millionths (num.fmod den).toNat den)

/-- A date with nothing behind it. -/
def readDayOnly (cs : List Char) : Except MomentFault Date := do
  let (date, rest) <- readDay cs
  if rest.isEmpty then return date else throw .extraCharacters

/-- The whole numbers that are read as such, and not as approximations. -/
def isShortInt (n : Int) : Bool :=
  decide (n.natAbs < Nat.pow 2 63)

/--
Reads a timestamp text: with a time, else as a number, else as a date alone.  The fault told is
that of the last attempt, and a text that is no short whole number is tried as a date.
-/
def readMoment (s : String) : Except MomentFault Timestamp :=
  let cs := s.toList
  let dateOnly :=
    (readDayOnly cs).map fun date =>
      Timestamp.ofParts date { hour := 0, minute := 0, second := 0, micro := 0 } none
  match readDayAndTime cs, (Decimal.readInt? cs).filter isShortInt with
  | .ok t, _ => .ok t
  | .error _, some n => ofEpochInt n
  | .error _, none =>
      let (negative, digits) := Decimal.splitSign cs
      match (Decimal.splitUnsigned? negative digits).bind Decimal.Parts.number? with
      | some x =>
          match ofEpochDecimal x with
          | .ok t => .ok t
          | .error _ => dateOnly
      | none => dateOnly

end Clearance.Schema
