import Clearance.Decimal.Shortest

/-!
# Layouts of decimal texts

A layout says how shortest digits are written: which sizes are positional, how an exponent looks,
and what stands for the words that are no finite numbers.
-/

namespace Clearance.Decimal

/-- The decisions of one written form of double-precision numbers. -/
structure Layout where
  /-- Positional when the point falls strictly after this place ... -/
  pointAbove : Int
  /-- ... and not after this one. -/
  pointUpTo : Int
  /-- Whether a positive exponent carries its sign. -/
  plusSign : Bool
  exponentWidth : Nat
  infinity : String
  nan : String

def digitChars (n : Nat) : List Char :=
  Nat.toDigits 10 n

/-- The decimal text of a whole number. -/
def natText (n : Nat) : String :=
  String.ofList (digitChars n)

def intText (n : Int) : String :=
  if n < 0 then "-" ++ natText n.natAbs else natText n.natAbs

/-- The most digits of a whole number that are read. -/
def mostDigits : Nat := 4300

/-- What is said of a whole number with too many digits. -/
def longNumberText (digits : Nat) : String :=
  "Exceeds the limit (" ++ natText mostDigits ++ " digits) for integer string conversion: value has "
    ++ natText digits ++ " digits; use sys.set_int_max_str_digits() to increase the limit"

/-- Leading zeros up to the given width. -/
def padLeft (width : Nat) (n : Nat) : String :=
  let cs := digitChars n
  String.ofList (List.replicate (width - cs.length) '0' ++ cs)

/-- Digits with a decimal point at the given place, zeros filling the gaps. -/
def positional (cs : List Char) (point : Int) : List Char :=
  if point <= 0 then '0' :: '.' :: List.replicate point.natAbs '0' ++ cs
  else
    let whole := point.toNat
    if cs.length <= whole then cs ++ List.replicate (whole - cs.length) '0' ++ ['.', '0']
    else cs.take whole ++ '.' :: cs.drop whole

def scientific (layout : Layout) (cs : List Char) (exponent : Int) : List Char :=
  let mantissa :=
    match cs with
    | [] => ['0']
    | [c] => [c]
    | c :: rest => c :: '.' :: rest
  let sign := if exponent < 0 then ['-'] else if layout.plusSign then ['+'] else []
  mantissa ++ 'e' :: sign ++ (padLeft layout.exponentWidth exponent.natAbs).toList

/-- The text of a number in a layout. -/
def Layout.text (layout : Layout) (x : Binary64) : String :=
  let sign := if x.isNegative then "-" else ""
  match x.magnitude with
  | .nan => layout.nan
  | .infinite => sign ++ layout.infinity
  | .finite mantissa exponent =>
      let short := shortest mantissa exponent
      let cs := digitChars short.digits
      let point := (cs.length : Int) + short.exponent
      let body :=
        if mantissa = 0 then ['0', '.', '0']
        else if layout.pointAbove < point && point <= layout.pointUpTo then positional cs point
        else scientific layout cs (point - 1)
      sign ++ String.ofList body

/--
The general form: positional from a ten-thousandth up to sixteen places, and an exponent of at
least two digits with its sign beyond that.
-/
def general : Layout :=
  { pointAbove := -4, pointUpTo := 16, plusSign := true, exponentWidth := 2
    infinity := "inf", nan := "nan" }

/-- The general form with the constant names of scripting notation for what is not finite. -/
def scripted : Layout :=
  { general with infinity := "Infinity", nan := "NaN" }

/-- The bare form: a hundred-thousandth is still positional, and exponents are unpadded. -/
def bare : Layout :=
  { pointAbove := -5, pointUpTo := 16, plusSign := true, exponentWidth := 1
    infinity := "null", nan := "null" }

end Clearance.Decimal
