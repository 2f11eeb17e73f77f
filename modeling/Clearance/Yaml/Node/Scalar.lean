import Clearance.Text.Case
import Clearance.Text.Digit
import Clearance.Text.Blank
import Clearance.Time.Iso
import Clearance.Value
import Clearance.Yaml.Node

/-!
# The values of scalars

What the text of a scalar means under its tag.  A tag that is given in the text may not fit it;
what goes wrong then depends on the kind of value.
-/

namespace Clearance.Yaml

open Time (Date Clock IsoFault)

/-- Why a document has no value. -/
inductive ContentFault where
  | flaw (f : Flaw)
  | flag (text : String)
  | emptyNumber
  | whole (base : Nat) (text : String)
  /-- A decimal number has more digits than are read. -/
  | longWhole (digits : Nat)
  | real (text : String)
  /-- A number in base sixty has a place whose weight is beyond all numbers. -/
  | highPlace
  /-- The text of a moment has another form. -/
  | momentForm
  /-- A moment was looked for in a mapping. -/
  | momentKind
  /-- A mapping stands for a scalar that only the mapping itself could tell. -/
  | endless
  | moment (fault : IsoFault)
  deriving DecidableEq, Repr

def ContentFault.message : ContentFault -> String
  | .flaw f => f.message
  | .flag text => Text.quoted text
  | .emptyNumber => "string index out of range"
  | .whole base text =>
      "invalid literal for int() with base " ++ Decimal.natText base ++ ": "
        ++ String.ofList ((Text.quoted text).toList.take 200)
  | .longWhole digits => Decimal.longNumberText digits
  | .real text => "could not convert string to float: " ++ Text.quoted text
  | .highPlace => "int too large to convert to float"
  | .momentForm => "no moment"
  | .momentKind => "a mapping is no moment"
  | .endless => "maximum recursion depth exceeded"
  | .moment fault => fault.message ""

namespace Content

/-- Replaces the decimal digits of all scripts by those of ASCII. -/
def asciiDigits (cs : List Char) : List Char :=
  cs.map fun c => ((Text.decimalValue? c).map fun d => Char.ofNat (48 + d)).getD c

/-- The letter that may follow a zero in front of a number of a base. -/
def baseLetter? : Nat -> Option Char
  | 2 => some 'b'
  | 8 => some 'o'
  | 16 => some 'x'
  | _ => none

/-- Takes the mark of a base off, if it is there. -/
def withoutMark (base : Nat) (cs : List Char) : List Char :=
  match cs with
  | '0' :: c :: rest => if baseLetter? base == some c.toLower then rest else cs
  | cs => cs

/-- A whole number of a base, with a sign and blanks around it; the digits of a decimal count. -/
def wholeOf (base : Nat) (cs : List Char) : Except ContentFault Int :=
  let (negative, digits) := Decimal.splitSign (asciiDigits (Text.strip cs))
  let count := (digits.takeWhile Decimal.isDigit).length
  if base = 10 ∧ Decimal.mostDigits < count then .error (.longWhole count)
  else
    match Decimal.readNat? base (withoutMark base digits) with
    | some n => .ok (if negative then -(n : Int) else n)
    | none => .error (.whole base (String.ofList cs))

def realOf (cs : List Char) : Except ContentFault Binary64 :=
  match Decimal.readFree? (asciiDigits (Text.strip cs)) with
  | some x => .ok x
  | none => .error (.real (String.ofList cs))

/-- Takes the sign off a number that must not be empty, neither with it nor without. -/
def splitNumber (cs : List Char) : Except ContentFault (Bool × List Char) :=
  if cs.isEmpty then .error .emptyNumber else .ok (Decimal.splitSign cs)

/-- The number with these places in base sixty, the highest first. -/
def sixtieths (places : List Int) : Int :=
  places.foldl (fun n d => n * 60 + d) 0

def negateIf (negative : Bool) (n : Int) : Int :=
  if negative then -n else n

/-- A whole number: binary, hexadecimal and octal by the marks in front, else decimal. -/
def whole (text : String) : Except ContentFault Int := do
  let (negative, body) <- splitNumber (text.toList.filter (· != '_'))
  let n <- match body with
    | ['0'] => pure 0
    | '0' :: 'b' :: digits => wholeOf 2 digits
    | '0' :: 'x' :: digits => wholeOf 16 digits
    | '0' :: _ => wholeOf 8 body
    | [] => .error .emptyNumber
    | _ =>
        if body.contains ':' then do
          let places <- (Form.splitColons body).mapM (wholeOf 10)
          pure (sixtieths places)
        else wholeOf 10 body
  return negateIf negative n

/-- The number with these places in base sixty, the lowest first, added up from the lowest. -/
def realSixtieths (places : List Binary64) : Binary64 :=
  (places.foldl
    (fun (sum, weight) x => (Binary64.add sum (x.scale weight), 60 * weight))
    (Binary64.zero false, 1)).1

/-- The most places of a number in base sixty whose weights can be held as numbers with a point. -/
def mostSixtieths : Nat := 174

example : (Binary64.ofInt (60 ^ (mostSixtieths - 1))).isFinite = true := by decide +kernel
example : (Binary64.ofInt (60 ^ mostSixtieths)).isFinite = false := by decide +kernel

/-- The number with the other sign. -/
def negated (x : Binary64) : Binary64 :=
  Binary64.ofWord (!x.isNegative) x.magnitudeWord

/-- A number with a point, or the name of one that is not finite. -/
def real (text : String) : Except ContentFault Binary64 := do
  let (negative, body) <-
    splitNumber ((text.toList.filter (· != '_')).map Text.lower)
  let x <-
    if body == ".inf".toList then pure (Binary64.infinity false)
    else if body == ".nan".toList then pure Binary64.nan
    else if body.contains ':' then do
      let places <- (Form.splitColons body).mapM realOf
      if mostSixtieths < places.length then .error .highPlace
      else pure (realSixtieths places.reverse)
    else realOf body
  return if negative then negated x else x

def flag (text : String) : Except ContentFault Bool :=
  let word := String.ofList (text.toList.map Text.lower)
  if ["yes", "true", "on"].contains word then .ok true
  else if ["no", "false", "off"].contains word then .ok false
  else .error (.flag word)

/-- The offset of a zone, less than a day to either side. -/
def zoneOffset : Form.Zone -> Except ContentFault Int
  | .utc => .ok 0
  | .shifted behind hours minutes =>
      let micros : Nat := (hours * 60 + minutes) * 60 * Time.microsPerSecond
      let offset := negateIf behind micros
      if micros < Time.microsPerDay then .ok offset else .error (.moment (.offset offset))

/-- The millionths that the digits behind the point of the seconds are. -/
def fractionMicros (digits : List Char) : Nat :=
  let front := digits.take 6
  ((Decimal.readNat? 10 front).map fun n => n * Nat.pow 10 (6 - front.length)).getD 0

/-- A date, or a date and a time. -/
def moment (text : String) : Except ContentFault Value := do
  match Form.moment? (withoutLastBreak text.toList) with
  | none => .error .momentForm
  | some m =>
      let date : Except ContentFault Date :=
        (Date.make m.year m.month m.day).mapError fun f => .moment (.date f)
      match m.clock with
      | none => return .date (<- date)
      | some c => do
          let offset? <- match c.zone with
            | none => pure none
            | some zone => do pure (some (<- zoneOffset zone))
          let date <- date
          let clock : Clock :=
            { hour := c.hour, minute := c.minute, second := c.second
              micro := fractionMicros c.fraction }
          let clock <- (Time.checkClock clock).mapError ContentFault.moment
          return .timestamp (Timestamp.ofParts date clock offset?)

/-- The six bits that a character of base 64 stands for. -/
def sextet? (c : Char) : Option Nat :=
  if 'A' <= c && c <= 'Z' then some (c.toNat - 65)
  else if 'a' <= c && c <= 'z' then some (c.toNat - 71)
  else if '0' <= c && c <= '9' then some (c.toNat + 4)
  else if c == '+' then some 62
  else if c == '/' then some 63
  else none

/--
The bytes of a text in base 64.  Other characters are passed over; padding ends the text as soon
as it fills a group of four, and a group that is neither full nor padded is refused.
-/
def bytes? : List Char -> (group : List Nat) -> (padding : Nat) -> Option (List UInt8)
  | [], group, _ => if group.isEmpty then some [] else none
  | c :: rest, group, padding =>
      let byte (n : Nat) : UInt8 := UInt8.ofNat (n % 256)
      if c == '=' then
        if 2 <= group.length then
          if 4 <= group.length + padding + 1 then some [] else bytes? rest group (padding + 1)
        else bytes? rest group padding
      else
        match sextet? c, group with
        | none, _ => bytes? rest group padding
        | some d, [] => bytes? rest [d] 0
        | some d, [a] => (bytes? rest [a, d] 0).map (byte (a * 4 + d / 16) :: ·)
        | some d, [a, b] => (bytes? rest [a, b, d] 0).map (byte (b * 16 + d / 4) :: ·)
        | some d, _ :: _ :: b :: _ => (bytes? rest [] 0).map (byte (b * 64 + d) :: ·)

def binary (text : String) : Except ContentFault Value :=
  if text.toList.all fun c => c.toNat < 128 then
    match bytes? text.toList [] 0 with
    | some bytes => .ok (.bytes bytes)
    | none => .error (.flaw .binary)
  else .error (.flaw .binary)

/-- The value of a scalar under a tag.  A text with escapes that name no character is none. -/
def scalar (tag : Tag) (text : String) (sound : Bool) : Except ContentFault Value :=
  match tag with
  | .null => .ok .null
  | .bool => (flag text).map Value.bool
  | .int => (whole text).map Value.int
  | .real => (real text).map Value.real
  | .binary => binary text
  | .timestamp => moment text
  | .str => .ok (if sound then .str text else .bytes [0xff])
  | .orderedMap | .pairs | .set | .seq | .map => .error (.flaw .wrongKind)
  | .merge | .value | .other _ => .error (.flaw .unknownTag)

example : scalar .int "190:20:30" true = .ok (.int 685230) := by rfl
example : bytes? "aGk=".toList [] 0 = some [0x68, 0x69] := by decide +kernel

end Content

end Clearance.Yaml
