import Clearance.Binary64

/-!
# Reading decimals

Digits to numbers.  A reader takes the characters it accepts and nothing else; what surrounds
them is the business of the format it belongs to.
-/

namespace Clearance.Decimal

/-- The value of a digit of a base up to sixteen. -/
def digitValue? (base : Nat) (c : Char) : Option Nat :=
  let n := c.toNat
  let value? :=
    if 48 <= n && n <= 57 then some (n - 48)
    else if 97 <= n && n <= 102 then some (n - 87)
    else if 65 <= n && n <= 70 then some (n - 55)
    else none
  value?.filter (· < base)

def isDigit (c : Char) : Bool :=
  '0' <= c && c <= '9'

def isHexDigit (c : Char) : Bool :=
  (digitValue? 16 c).isSome

/-- The number that digits of a base write, starting from what the digits before them wrote. -/
def readDigits (base : Nat) : Nat -> List Char -> Option Nat
  | acc, [] => some acc
  | acc, c :: rest =>
      match digitValue? base c with
      | some d => readDigits base (acc * base + d) rest
      | none => none

/-- The number written by a nonempty run of digits. -/
def readNat? (base : Nat) (cs : List Char) : Option Nat :=
  if cs.isEmpty then none else readDigits base 0 cs

/-- Splits a sign off: whether it was a minus, and the rest. -/
def splitSign : List Char -> Bool × List Char
  | '-' :: rest => (true, rest)
  | '+' :: rest => (false, rest)
  | cs => (false, cs)

def readInt? (cs : List Char) : Option Int :=
  let (negative, digits) := splitSign cs
  (readNat? 10 digits).map fun n => if negative then -(n : Int) else n

/-- The parts of a decimal text: sign, digits before and after the point, and exponent. -/
structure Parts where
  negative : Bool
  whole : List Char
  fraction : List Char
  exponent : Int

/-- The number written by these parts. -/
def Parts.number? (p : Parts) : Option Binary64 :=
  (readDigits 10 0 (p.whole ++ p.fraction)).map fun digits =>
    Binary64.ofDecimal p.negative digits (p.exponent - p.fraction.length)

/--
Splits an unsigned decimal with optional point and exponent.  At least one digit must stand
beside the point, and at least one in the exponent.
-/
def splitUnsigned? (negative : Bool) (cs : List Char) : Option Parts :=
  let whole := cs.takeWhile isDigit
  let rest := cs.dropWhile isDigit
  let (fraction, rest) :=
    match rest with
    | '.' :: tail => (tail.takeWhile isDigit, tail.dropWhile isDigit)
    | _ => ([], rest)
  if whole.isEmpty && fraction.isEmpty then none
  else
    match rest with
    | [] => some { negative, whole, fraction, exponent := 0 }
    | c :: tail =>
        if c = 'e' || c = 'E' then
          (readInt? tail).map fun exponent => { negative, whole, fraction, exponent }
        else none

def lowerAscii (cs : List Char) : List Char :=
  cs.map Char.toLower

/--
A number in the free form of decimal texts: sign, digits with an optional point and exponent, or
one of the words for infinity and NaN in any case.
-/
def readFree? (cs : List Char) : Option Binary64 :=
  let (negative, body) := splitSign cs
  let word := String.ofList (lowerAscii body)
  if word = "inf" || word = "infinity" then some (Binary64.infinity negative)
  else if word = "nan" then some Binary64.nan
  else (splitUnsigned? negative body).bind Parts.number?

end Clearance.Decimal
