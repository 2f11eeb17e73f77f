import Clearance.Text.Blank
import Clearance.Text.Digit

/-!
# Numerals

Whole numbers as people write them: digits of any script, with blanks around them, perhaps a sign,
and single low lines between digits.
-/

namespace Clearance.Text

/-- The number that digits write, starting from what the digits before them wrote. -/
def readNumeral? (afterDigit : Bool) (acc : Nat) : List Char -> Option Nat
  | [] => if afterDigit then some acc else none
  | c :: rest =>
      if c = '_' then if afterDigit && !rest.isEmpty then readNumeral? false acc rest else none
      else (decimalValue? c).bind fun d => readNumeral? true (acc * 10 + d) rest

/-- The whole number that a text writes. -/
def numeral? (cs : List Char) : Option Int :=
  match strip cs with
  | '-' :: digits => (readNumeral? false 0 digits).map fun n => -(n : Int)
  | '+' :: digits => (readNumeral? false 0 digits).map Int.ofNat
  | digits => (readNumeral? false 0 digits).map Int.ofNat

example : numeral? " -1_000 ".toList = some (-1000) := by decide +kernel
example : numeral? "1__0".toList = none := by decide +kernel
example : numeral? "٣".toList = some 3 := by decide +kernel

end Clearance.Text
