import Clearance.Time.Timestamp

/-!
# Clocks

Where an engine reads the time.  A clock may move between any two readings: some readings may be
given ahead, and after them it stands still until it is set.  A reading without an offset is local
time.  A clock may be out of order for a number of readings.
-/

namespace Clearance.Engine

structure Clock where
  /-- What the clock shows once the readings ahead are over. -/
  now : Timestamp
  /-- The offset of the local zone, in microseconds. -/
  zone : Int := 0
  /-- How many readings are yet to fail, and what is said of them. -/
  outage : Nat := 0
  complaint : String := ""
  /-- The readings that are yet to come before the clock shows `now`. -/
  ahead : List Timestamp := []
  deriving Inhabited

/-- Why there is no reading. -/
inductive ClockFault where
  | outage (message : String)
  | range (f : Timestamp.RangeFault)
  deriving DecidableEq, Repr

def ClockFault.message : ClockFault -> String
  | .outage message => message
  | .range f => f.message

namespace Clock

/-- What the clock shows next, as it is shown. -/
def face (c : Clock) : Timestamp :=
  c.ahead.headD c.now

/-- The clock after a reading. -/
def next (c : Clock) : Clock :=
  { c with ahead := c.ahead.tail }

def read (c : Clock) : Except ClockFault Timestamp × Clock :=
  match c.outage with
  | n + 1 => (.error (.outage c.complaint), { c with outage := n })
  | 0 => ((c.face.localize c.zone).mapError ClockFault.range, c.next)

/-- The clock a while later. -/
def advance (micros : Int) (c : Clock) : Except Timestamp.RangeFault Clock := do
  return { c with now := <- c.now.shift micros }

/-- Puts the clock out of order. -/
def disturb (message : String) (readings : Nat) (c : Clock) : Clock :=
  { c with outage := readings, complaint := message }

end Clock

end Clearance.Engine
