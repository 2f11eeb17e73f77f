import Clearance.Binary64
import Clearance.Time.Timestamp

/-!
# Durations

A duration is a whole number of microseconds, given as amounts of several units.  A fractional
amount is split into its whole part, which is exact, and its fraction, which is worked out in
double precision; the leftovers below a microsecond are summed and rounded once, at the end.
-/

namespace Clearance.Time

/-- An amount of a unit. -/
inductive Amount where
  | whole (n : Int)
  | real (x : Binary64)
  deriving Repr

/-- The units of a duration, from the finest to the coarsest. -/
inductive TimeUnit where
  | microseconds | milliseconds | seconds | minutes | hours | days | weeks
  deriving DecidableEq, Repr

def TimeUnit.all : List TimeUnit :=
  [.microseconds, .milliseconds, .seconds, .minutes, .hours, .days, .weeks]

def TimeUnit.name : TimeUnit -> String
  | .microseconds => "microseconds"
  | .milliseconds => "milliseconds"
  | .seconds => "seconds"
  | .minutes => "minutes"
  | .hours => "hours"
  | .days => "days"
  | .weeks => "weeks"

def TimeUnit.micros : TimeUnit -> Nat
  | .microseconds => 1
  | .milliseconds => 1000
  | .seconds => 1000000
  | .minutes => 60000000
  | .hours => 3600000000
  | .days => 86400000000
  | .weeks => 604800000000

/-- Why amounts make no duration. -/
inductive DurationFault where
  | notANumber
  | infinite
  | tooManyDays (days : Int)
  | dayCountTooWide
  deriving DecidableEq, Repr

def DurationFault.isValue : DurationFault -> Bool
  | .notANumber => true
  | _ => false

/-- The whole part of an exact fraction, cut toward zero, and the fraction that is left. -/
def splitRatio (num : Int) (den : Nat) : Int × Int :=
  let whole := num.tdiv den
  (whole, num - whole * den)

/-- The number nearest to a product of a whole number and a fraction. -/
def mulNearest (factor : Nat) (num : Int) (den : Nat) : Binary64 :=
  Binary64.ofRatio (num < 0) (factor * num.natAbs) den

/-- The whole microseconds so far and the leftover below one. -/
structure Tally where
  whole : Int
  leftover : Binary64

/-- Adds an amount of a unit to a tally. -/
def Tally.add (t : Tally) (unit : TimeUnit) : Amount -> Except DurationFault Tally
  | .whole n => .ok { t with whole := t.whole + n * unit.micros }
  | .real x =>
      match x.toRatio? with
      | none => .error (if x.isNaN then .notANumber else .infinite)
      | some (num, den) =>
          let (whole, rest) := splitRatio num den
          let scaled := t.whole + whole * unit.micros
          if rest = 0 then .ok { t with whole := scaled }
          else
            match (mulNearest unit.micros rest den).toRatio? with
            | none => .ok { t with whole := scaled }
            | some (num, den) =>
                let (more, rest) := splitRatio num den
                .ok
                  { whole := scaled + more
                    leftover := t.leftover.add (Binary64.ofRatio (rest < 0) rest.natAbs den) }

/-- The nearest whole number; a half goes to the number that makes the total even. -/
def Tally.round (t : Tally) : Int :=
  match t.leftover.toRatio? with
  | none => t.whole
  | some (num, den) =>
      let total := t.whole * den + num
      let magnitude := Binary64.roundDiv total.natAbs den
      if total < 0 then -(magnitude : Int) else magnitude

/-- The most days a duration may have. -/
def dayLimit : Nat := 999999999

/-- The duration that the amounts make up, in microseconds. -/
def durationOf (amount? : TimeUnit -> Option Amount) : Except DurationFault Int := do
  let tally <- TimeUnit.all.foldlM
    (fun (t : Tally) unit =>
      match amount? unit with
      | some a => t.add unit a
      | none => .ok t)
    { whole := 0, leftover := Binary64.zero false }
  let micros := tally.round
  let days := micros.fdiv microsPerDay
  if 2147483647 < days || days < -2147483648 then throw .dayCountTooWide
  if (dayLimit : Int) < days || days < -(dayLimit : Int) then throw (.tooManyDays days)
  return micros

def DurationFault.message : DurationFault -> String
  | .notANumber => "cannot convert float NaN to integer"
  | .infinite => "cannot convert float infinity to integer"
  | .tooManyDays days =>
      "days=" ++ Decimal.intText days ++ "; must have magnitude <= 999999999"
  | .dayCountTooWide => "Python int too large to convert to C int"

end Clearance.Time
