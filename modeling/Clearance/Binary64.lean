/-!
# Double-precision numbers

The words of the 64-bit binary interchange format, their exact dyadic value, and the rounding of
an exact quotient to the nearest word.  No machine arithmetic is used: every operation is on
`Nat` and `Int`, so a statement about a number is a statement about integers.
-/

namespace Clearance

/-- A double-precision number, given by its 64-bit word. -/
structure Binary64 where
  bits : UInt64
  deriving DecidableEq, Repr, Inhabited

namespace Binary64

/-- What a word stands for, its sign aside: a finite one is `mantissa * 2 ^ exponent`. -/
inductive Magnitude where
  | finite (mantissa : Nat) (exponent : Int)
  | infinite
  | nan
  deriving DecidableEq, Repr

/-- The weight of the sign bit. -/
def signWeight : Nat := Nat.pow 2 63

/-- The word of positive infinity, the least one that is no finite number. -/
def infinityWord : Nat := 2047 * Nat.pow 2 52

def isNegative (x : Binary64) : Bool :=
  decide (signWeight <= x.bits.toNat)

/-- The word without its sign bit. -/
def magnitudeWord (x : Binary64) : Nat :=
  x.bits.toNat % signWeight

/--
The value of a word.  A zero exponent field marks the numbers below the least normal one, which
have no leading bit.
-/
def magnitude (x : Binary64) : Magnitude :=
  let field : Nat := x.magnitudeWord / Nat.pow 2 52
  let fraction := x.magnitudeWord % Nat.pow 2 52
  if field = 2047 then
    if fraction = 0 then .infinite else .nan
  else if field = 0 then .finite fraction (-1074)
  else .finite (fraction + Nat.pow 2 52) ((field : Int) - 1075)

/-- The number with the given sign and magnitude word. -/
def ofWord (negative : Bool) (word : Nat) : Binary64 :=
  ⟨UInt64.ofNat (if negative then signWeight + word else word)⟩

def nan : Binary64 := ⟨UInt64.ofNat (infinityWord + Nat.pow 2 51)⟩
def infinity (negative : Bool) : Binary64 := ofWord negative infinityWord
def zero (negative : Bool) : Binary64 := ofWord negative 0

def isNaN (x : Binary64) : Bool :=
  decide (infinityWord < x.magnitudeWord)

def isFinite (x : Binary64) : Bool :=
  decide (x.magnitudeWord < infinityWord)

def isZero (x : Binary64) : Bool :=
  x.magnitudeWord == 0

/-- The whole number nearest to `num / den`; a half goes to the even neighbour. -/
def roundDiv (num den : Nat) : Nat :=
  let quotient := num / den
  let rest := 2 * (num % den)
  if rest < den then quotient
  else if den < rest then quotient + 1
  else quotient + quotient % 2

/-- The numerator and denominator of `num / den / 2 ^ exponent`. -/
def scaled (num den : Nat) (exponent : Int) : Nat × Nat :=
  if exponent < 0 then (num * Nat.pow 2 exponent.natAbs, den) else (num, den * Nat.pow 2 exponent.natAbs)

/--
The word nearest to `num / den`.  The exponent is chosen so that the quotient has 53 bits, or is
the least one there is; a mantissa that rounds up to 54 bits carries into the exponent field by
itself, and a word beyond the finite ones becomes infinity.
-/
def nearestWord (num den : Nat) : Nat :=
  if num = 0 then 0
  else
    let guess : Int := max ((Nat.log2 num : Int) - Nat.log2 den - 53) (-1074)
    let (n, d) := scaled num den guess
    let exponent := if Nat.pow 2 53 * d <= n then guess + 1 else guess
    let (n, d) := scaled num den exponent
    min ((exponent + 1074).toNat * Nat.pow 2 52 + roundDiv n d) infinityWord

/-- The number nearest to `± num / den`. -/
def ofRatio (negative : Bool) (num den : Nat) : Binary64 :=
  ofWord negative (nearestWord num den)

/-- How many decimal digits a number is written with. -/
def decimalLength (n : Nat) : Nat :=
  (Nat.toDigits 10 n).length

/--
The number nearest to `± digits * 10 ^ exponent`.  Texts far outside the range are decided by
their length, so that a huge exponent costs nothing.
-/
def ofDecimal (negative : Bool) (digits : Nat) (exponent : Int) : Binary64 :=
  if digits = 0 then zero negative
  else
    let top := decimalLength digits + exponent
    if 400 < top then infinity negative
    else if top < -400 then zero negative
    else if exponent < 0 then ofRatio negative digits (Nat.pow 10 exponent.natAbs)
    else ofRatio negative (digits * Nat.pow 10 exponent.natAbs) 1

def ofInt (n : Int) : Binary64 :=
  ofRatio (n < 0) n.natAbs 1

/--
The order of the numbers other than NaN is the order of these keys; both zeros have the key zero.
-/
def orderKey (x : Binary64) : Int :=
  if x.isNegative then -(x.magnitudeWord : Int) else x.magnitudeWord

/-- Numeric equality: NaN equals nothing, and the two zeros are equal. -/
def same (x y : Binary64) : Bool :=
  !x.isNaN && !y.isNaN && x.orderKey == y.orderKey

def lt (x y : Binary64) : Bool :=
  !x.isNaN && !y.isNaN && decide (x.orderKey < y.orderKey)

/-- The whole number that a finite number is equal to, if there is one. -/
def toInt? (x : Binary64) : Option Int :=
  match x.magnitude with
  | .finite mantissa exponent =>
      let sign : Int := if x.isNegative then -1 else 1
      let weight : Nat := Nat.pow 2 exponent.natAbs
      if 0 <= exponent then some (sign * (mantissa * weight))
      else if mantissa % weight = 0 then some (sign * (mantissa / weight))
      else none
  | _ => none

/-- The number as an exact fraction: numerator and positive denominator. -/
def toRatio? (x : Binary64) : Option (Int × Nat) :=
  match x.magnitude with
  | .finite mantissa exponent =>
      let sign : Int := if x.isNegative then -1 else 1
      let weight : Nat := Nat.pow 2 exponent.natAbs
      if 0 <= exponent then some (sign * (mantissa * weight), 1)
      else some (sign * mantissa, weight)
  | _ => none

/-- The number nearest to the product with a positive whole number. -/
def scale (x : Binary64) (factor : Nat) : Binary64 :=
  match x.magnitude with
  | .nan => nan
  | .infinite => x
  | .finite mantissa exponent =>
      let (num, den) := scaled (mantissa * factor) 1 (-exponent)
      ofRatio x.isNegative num den

/-- The number nearest to a sum; a sum of zero is negative only if both numbers are. -/
def add (x y : Binary64) : Binary64 :=
  if x.isNaN || y.isNaN then nan
  else
    match x.toRatio?, y.toRatio? with
    | some (a, b), some (c, d) =>
        let num := a * d + c * b
        let negative := if num = 0 then x.isNegative && y.isNegative else decide (num < 0)
        ofRatio negative num.natAbs (b * d)
    | some _, none => y
    | none, some _ => x
    | none, none => if x.isNegative == y.isNegative then x else nan

theorem not_same_nan (y : Binary64) : same nan y = false := by
  have h : nan.isNaN = true := by decide
  simp [same, h]

example : ofDecimal false 5 (-324) = ⟨1⟩ := by decide +kernel
example : (ofDecimal false 1 400).isFinite = false := by decide +kernel
example : add (ofDecimal false 1 (-1)) (ofDecimal false 2 (-1)) = ⟨0x3fd3333333333334⟩ := by
  decide +kernel
example : (ofDecimal true 15 (-1)).scale 60 = ofInt (-90) := by decide +kernel
example : same (zero true) (zero false) = true := by decide

end Binary64

end Clearance
