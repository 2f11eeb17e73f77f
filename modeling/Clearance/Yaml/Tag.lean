import Clearance.Decimal.Reading

/-!
# Tags

What a node of a configuration text stands for.  A plain scalar without a tag gets one by its
form: each kind of value has forms of its own, and what has none of them is a text.
-/

namespace Clearance.Yaml

inductive Tag where
  | null | bool | int | real | binary | timestamp | orderedMap | pairs | set | str | seq | map
  /-- The mark of entries that are taken over from another mapping. -/
  | merge
  /-- The mark of the entry that a mapping stands for where a scalar is due. -/
  | value
  | other (name : String)
  deriving DecidableEq, Repr

namespace Tag

/-- What the names of the common tags start with. -/
def common : String := "tag:yaml.org,2002:"

def ofName (name : String) : Tag :=
  let known : List (String × Tag) :=
    [ ("null", .null), ("bool", .bool), ("int", .int), ("float", .real), ("binary", .binary),
      ("timestamp", .timestamp), ("omap", .orderedMap), ("pairs", .pairs), ("set", .set),
      ("str", .str), ("seq", .seq), ("map", .map), ("merge", .merge), ("value", .value) ]
  ((known.find? fun (short, _) => name == common ++ short).map Prod.snd).getD (.other name)

end Tag

/-! ## Forms of plain scalars -/

namespace Form

def isDigitOrLine (c : Char) : Bool :=
  Decimal.isDigit c || c == '_'

/-- A digit, then digits and low lines. -/
def isNumeral : List Char -> Bool
  | [] => false
  | c :: rest => Decimal.isDigit c && rest.all isDigitOrLine

/-- A nonempty run of characters of a kind. -/
def isRun (p : Char -> Bool) (cs : List Char) : Bool :=
  !cs.isEmpty && cs.all p

/-- The characters before and behind the first colon. -/
def splitColons (cs : List Char) : List (List Char) :=
  cs.splitOn ':'

/-- One place of a number in base sixty, the first one aside. -/
def isSixtieth : List Char -> Bool
  | [a] => Decimal.isDigit a
  | [a, b] => '0' <= a && a <= '5' && Decimal.isDigit b
  | _ => false

def unsigned (cs : List Char) : List Char :=
  (Decimal.splitSign cs).2

/-- Whole numbers: binary, octal, decimal, hexadecimal and in base sixty. -/
def isWhole (cs : List Char) : Bool :=
  match unsigned cs with
  | [] => false
  | ['0'] => true
  | '0' :: rest =>
      isRun (fun c => ('0' <= c && c <= '7') || c == '_') rest
        || match rest with
           | 'b' :: digits => isRun (fun c => c == '0' || c == '1' || c == '_') digits
           | 'x' :: digits => isRun (fun c => Decimal.isHexDigit c || c == '_') digits
           | _ => false
  | body =>
      match splitColons body with
      | [] => false
      | first :: places => isNumeral first && places.all isSixtieth

/-- An exponent: a letter, a sign and digits. -/
def isExponent : List Char -> Bool
  | [] => true
  | e :: sign :: digits =>
      (e == 'e' || e == 'E') && (sign == '-' || sign == '+') && isRun Decimal.isDigit digits
  | _ => false

/-- What may follow the point of a number: digits and low lines, and an exponent. -/
def isFraction (cs : List Char) : Bool :=
  isExponent (cs.dropWhile isDigitOrLine)

/-- Numbers with a point, and the names of those that are none. -/
def isReal (cs : List Char) : Bool :=
  let word := String.ofList (unsigned cs)
  let before (body : List Char) := body.takeWhile (· != '.')
  let behind (body : List Char) := (body.dropWhile (· != '.')).drop 1
  let body := unsigned cs
  let pointed := body.contains '.'
  let places := splitColons (before body)
  (pointed && isNumeral (before body) && isFraction (behind body))
    || (match cs with
        | '.' :: c :: rest => Decimal.isDigit c && isFraction rest
        | _ => false)
    || (pointed && decide (2 <= places.length) && isNumeral (places.headD [])
        && places.tail.all isSixtieth && (behind body).all isDigitOrLine)
    || [".inf", ".Inf", ".INF"].contains word
    || [".nan", ".NaN", ".NAN"].contains (String.ofList cs)

def isNull (cs : List Char) : Bool :=
  ["", "~", "null", "Null", "NULL"].contains (String.ofList cs)

def isFlag (cs : List Char) : Bool :=
  [ "yes", "Yes", "YES", "no", "No", "NO", "true", "True", "TRUE", "false", "False", "FALSE",
    "on", "On", "ON", "off", "Off", "OFF" ].contains (String.ofList cs)

/-- The zone of a moment: `Z`, or hours and perhaps minutes ahead or behind. -/
inductive Zone where
  | utc
  | shifted (behind : Bool) (hours : Nat) (minutes : Nat)
  deriving DecidableEq, Repr

/-- The time of a moment, with the digits behind the point of its seconds. -/
structure ClockForm where
  hour : Nat
  minute : Nat
  second : Nat
  fraction : List Char
  zone : Option Zone
  deriving DecidableEq, Repr

structure MomentForm where
  year : Nat
  month : Nat
  day : Nat
  /-- Whether month and day are written with two digits. -/
  padded : Bool
  clock : Option ClockForm
  deriving DecidableEq, Repr

/-- A number of at least and at most so many digits at the front, as many as there are. -/
def digits? (least most : Nat) (cs : List Char) : Option (Nat × List Char) :=
  let run := (cs.take most).takeWhile Decimal.isDigit
  if run.length < least then none
  else (Decimal.readNat? 10 run).map fun n => (n, cs.drop run.length)

def mark? (c : Char) : List Char -> Option (List Char)
  | [] => none
  | d :: rest => if d = c then some rest else none

def isGap (c : Char) : Bool :=
  c == ' ' || c == '\t'

def zone? : List Char -> Option (Option Zone)
  | [] => some none
  | cs =>
      match cs.dropWhile isGap with
      | ['Z'] => some (some .utc)
      | sign :: rest =>
          if sign == '+' || sign == '-' then do
            let (hours, rest) <- digits? 1 2 rest
            let (minutes, rest) <-
              match rest with
              | ':' :: rest => digits? 2 2 rest
              | rest => some (0, rest)
            if rest.isEmpty then some (some (.shifted (sign == '-') hours minutes)) else none
          else none
      | [] => none

def clock? (cs : List Char) : Option ClockForm := do
  let (hour, cs) <- digits? 1 2 cs
  let (minute, cs) <- digits? 2 2 (<- mark? ':' cs)
  let (second, cs) <- digits? 2 2 (<- mark? ':' cs)
  let (fraction, cs) :=
    match cs with
    | '.' :: rest => (rest.takeWhile Decimal.isDigit, rest.dropWhile Decimal.isDigit)
    | cs => ([], cs)
  let zone <- zone? cs
  return { hour, minute, second, fraction, zone }

/-- A date, or a date and a time with a gap or the letter `T` between them. -/
def moment? (cs : List Char) : Option MomentForm := do
  let (year, cs) <- digits? 4 4 cs
  let monthText <- mark? '-' cs
  let (month, behindMonth) <- digits? 1 2 monthText
  let dayText <- mark? '-' behindMonth
  let (day, cs) <- digits? 1 2 dayText
  let padded := monthText.length = behindMonth.length + 2 && dayText.length = cs.length + 2
  match cs with
  | [] => return { year, month, day, padded, clock := none }
  | c :: rest =>
      let clock <-
        if c == 'T' || c == 't' then clock? rest
        else if isGap c then clock? (rest.dropWhile isGap)
        else none
      return { year, month, day, padded, clock := some clock }

/-- Whether a plain scalar is a moment: a date alone must have two digits in each place. -/
def isMoment (cs : List Char) : Bool :=
  (moment? cs).any fun m => m.padded || m.clock.isSome

end Form

/-- Text without one line feed at its end. -/
def withoutLastBreak (cs : List Char) : List Char :=
  if cs.getLast? = some '\n' then cs.dropLast else cs

/-- The tag of a plain scalar. -/
def Tag.ofPlain (text : String) : Tag :=
  if text.isEmpty then .null
  else
    let cs := withoutLastBreak text.toList
    if cs.isEmpty then .str
    else if Form.isNull cs then .null
    else if Form.isFlag cs then .bool
    else if Form.isReal cs then .real
    else if Form.isWhole cs then .int
    else if Form.isMoment cs then .timestamp
    else if cs == ['<', '<'] then .merge
    else if cs == ['='] then .value
    else .str

example : Tag.ofPlain "22:00" = .int := by decide +kernel
example : Tag.ofPlain "09:30" = .str := by decide +kernel
example : Tag.ofPlain "1e3" = .str := by decide +kernel
example : Tag.ofPlain "2024-1-1" = .str := by decide +kernel
example : Tag.ofPlain "2024-01-01" = .timestamp := by decide +kernel

end Clearance.Yaml
