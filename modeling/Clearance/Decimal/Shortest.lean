import Clearance.Binary64

/-!
# Shortest decimals

The shortest decimal that reads back as a given double-precision number, and among the shortest
the nearest.  A grid of `10 ^ k` that has a point in the interval of reals rounding to the number
also has one of the number's two neighbours on that grid there, so only these two are tested.
-/

namespace Clearance.Decimal

/-- The decimal `digits * 10 ^ exponent`. -/
structure Shortest where
  digits : Nat
  exponent : Int
  deriving DecidableEq, Repr

/-- The power of ten below `mantissa * 2 ^ exponent`, off by at most one. -/
def tensGuess (mantissa : Nat) (exponent : Int) : Int :=
  ((Nat.log2 mantissa : Int) + exponent) * 30103 / 100000

/-- The grid `10 ^ power` in units of `2 ^ exponent`, as a fraction. -/
def gridUnit (power exponent : Int) : Nat × Nat :=
  let ten := Nat.pow 10 power.natAbs
  let two := Nat.pow 2 exponent.natAbs
  let num := (if 0 <= power then ten else 1) * (if 0 <= exponent then 1 else two)
  let den := (if 0 <= power then 1 else ten) * (if 0 <= exponent then two else 1)
  (num, den)

/--
The better of the two neighbours of `4 * mantissa` on the grid `10 ^ power`, if one lies in the
rounding interval.  All lengths are in quarters of the last bit; the interval reaches half a bit
up, and half a bit down or a quarter below a power of two.  Its ends belong to it exactly when
the mantissa is even.
-/
def onGrid (mantissa : Nat) (exponent power : Int) : Option Nat :=
  let (num, den) := gridUnit power (exponent - 2)
  let value := 4 * mantissa * den
  let down := if mantissa = Nat.pow 2 52 && decide (-1074 < exponent) then 1 else 2
  let closed := mantissa % 2 = 0
  let low := (4 * mantissa - down) * den
  let high := (4 * mantissa + 2) * den
  let below := value / num
  let above := below + 1
  let lowFits := low < below * num || (closed && low = below * num)
  let highFits := above * num < high || (closed && above * num = high)
  let belowGap := value - below * num
  let aboveGap := above * num - value
  if lowFits && highFits then
    if belowGap < aboveGap then some below
    else if aboveGap < belowGap then some above
    else some (below + below % 2)
  else if lowFits then some below
  else if highFits then some above
  else none

/-- Tries ever finer grids; seventeen digits always suffice. -/
def search (mantissa : Nat) (exponent : Int) : Nat -> Int -> Shortest
  | 0, power => { digits := (onGrid mantissa exponent power).getD 0, exponent := power }
  | tries + 1, power =>
      match onGrid mantissa exponent power with
      | some digits => { digits, exponent := power }
      | none => search mantissa exponent tries (power - 1)

/-- The shortest decimal that reads back as `mantissa * 2 ^ exponent`. -/
def shortest (mantissa : Nat) (exponent : Int) : Shortest :=
  if mantissa = 0 then { digits := 0, exponent := 0 }
  else search mantissa exponent 19 (tensGuess mantissa exponent + 1)

end Clearance.Decimal
