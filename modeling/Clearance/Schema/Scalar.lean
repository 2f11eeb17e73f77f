import Clearance.Schema.Issue
import Clearance.Schema.Moment
import Clearance.Text.Blank

/-!
# Reading scalars

What counts as a text, a Boolean, a number, a timestamp, a list or a dictionary in data.  Readers
are lenient where a value of another kind has one plain meaning.
-/

namespace Clearance.Schema

open Checked (fail)

/-- A text; bytes count if they are the encoding of one. -/
def text (v : Value) : Checked String :=
  match v with
  | .str s => .ok s
  | .bytes b =>
      match String.fromUTF8? ⟨b.toArray⟩ with
      | some s => .ok s
      | none => fail .stringUnicode v
  | _ => fail .stringType v

def nonemptyText (v : Value) : Checked String := do
  let s <- text v
  if s.isEmpty then fail .stringTooShort v else return s

/-- Nothing, or what the reader makes of the value. -/
def optional {α : Type} (read : Value -> Checked α) (v : Value) : Checked (Option α) :=
  match v with
  | .null => .ok none
  | v => (read v).map some

/-- The text behind a value that is a text or its encoding. -/
def textual? (v : Value) : Option String :=
  (text v).toOption

/-- The Boolean words, in any case. -/
def readFlag? (s : String) : Option Bool :=
  let word := String.ofList (Decimal.lowerAscii s.toList)
  if ["0", "off", "f", "false", "n", "no"].contains word then some false
  else if ["1", "on", "t", "true", "y", "yes"].contains word then some true
  else none

def flagOfInt? (n : Int) : Option Bool :=
  if n = 0 then some false else if n = 1 then some true else none

/-- A Boolean: also the words for it, and the numbers zero and one. -/
def flag (v : Value) : Checked Bool :=
  let parsed (b? : Option Bool) : Checked Bool :=
    match b? with
    | some b => .ok b
    | none => fail .boolParsing v
  match v with
  | .bool b => .ok b
  | .int n => parsed (flagOfInt? n)
  | .real x =>
      match x.toInt? with
      | some n => parsed (flagOfInt? n)
      | none => fail .boolType v
  | v =>
      match textual? v with
      | some s => parsed (readFlag? s)
      | none => fail .boolType v

/-- Drops low lines that each stand between two other characters; none if one does not. -/
def dropLowLines? (cs : List Char) : Option (List Char) :=
  let doubled := (cs.zip (cs.drop 1)).any fun (a, b) => a == '_' && b == '_'
  if !cs.contains '_' || cs.head? = some '_' || cs.getLast? = some '_' || doubled then none
  else some (cs.filter (· != '_'))

/-- A number: also a Boolean, and the text of a number. -/
def real (v : Value) : Checked Binary64 :=
  match v with
  | .real x => .ok x
  | .int n =>
      let x := Binary64.ofInt n
      if x.isFinite then .ok x else fail .floatType v
  | .bool b => .ok (Binary64.ofInt (if b then 1 else 0))
  | v =>
      match textual? v with
      | none => fail .floatType v
      | some s =>
          let cs := Text.strip s.toList
          match (Decimal.readFree? cs).orElse fun _ => (dropLowLines? cs).bind Decimal.readFree? with
          | some x => .ok x
          | none => fail .floatParsing v

/-- A number above zero. -/
def positive (v : Value) : Checked Binary64 := do
  let x <- real v
  if (Binary64.zero false).lt x then return x else fail .notPositive v

/-- A whole number text: a sign, digits, and perhaps a point with zeros only behind it. -/
def readWhole? (cs : List Char) : Option Int :=
  let point := cs.dropWhile (· != '.')
  if point.all fun c => c == '.' || c == '0' then
    if point.count '.' <= 1 then Decimal.readInt? (cs.takeWhile (· != '.')) else none
  else none

/-- A whole number: also a Boolean, a number without a fraction, and the text of one. -/
def whole (v : Value) : Checked Int :=
  match v with
  | .int n => .ok n
  | .bool b => .ok (if b then 1 else 0)
  | .real x =>
      match x.toInt? with
      | some n => .ok n
      | none => fail (if x.isFinite then .intFromFloat else .finiteNumber) v
  | v =>
      match textual? v with
      | none => fail .intType v
      | some s =>
          let cs := Text.strip s.toList
          match (readWhole? cs).orElse fun _ => (dropLowLines? cs).bind readWhole? with
          | some n => .ok n
          | none => fail .intParsing v

/-- A timestamp: also its text, a date, and the seconds since 1970. -/
def timestamp (v : Value) : Checked Timestamp :=
  match v with
  | .timestamp t => .ok t
  | .date d => .ok (Timestamp.ofParts d { hour := 0, minute := 0, second := 0, micro := 0 } none)
  | .bool _ => fail .datetimeType v
  | .int n =>
      match ofEpochInt n with
      | .ok t => .ok t
      | .error fault => fail (.datetimeParsing fault.message) v
  | .real x =>
      match ofEpochReal x with
      | .ok t => .ok t
      | .error fault => fail (.datetimeParsing fault.message) v
  | v =>
      match textual? v with
      | none => fail .datetimeType v
      | some s =>
          match readMoment s with
          | .ok t => .ok t
          | .error fault => fail (.datetimeFromDate fault.message) v

/-- One of a closed set of names. -/
def oneOf {α : Type} (names : List String) (ofName? : String -> Option α) (v : Value) :
    Checked α :=
  match (textual? v).bind ofName? with
  | some a => .ok a
  | none => fail (.oneOf names) v

/-- The items of a list, or of another collection that is in order or can be put in one. -/
def listItems (v : Value) : Checked (List Value) :=
  match v with
  | .list items | .tuple items | .set items => .ok items
  | _ => fail .listType v

/-- A list of what a reader accepts. -/
def listOf {α : Type} (read : Value -> Checked α) (v : Value) : Checked (List α) := do
  Checked.items read 0 (<- listItems v)

/-- The step that a key makes: a text as it is, a Boolean as a number, all else as a literal. -/
def keyStep : Value -> Step
  | .str s => .name s
  | .bool b => .index (if b then 1 else 0)
  | key => .name key.literal

/-- The entries of a dictionary whose keys must all be texts. -/
def textEntries : List (Value × Value) -> Checked (List (String × Value))
  | [] => .ok []
  | (k, v) :: rest =>
      let key := Checked.under (keyStep k) (Checked.under (.name "[key]") (text k))
      Checked.app (key.map fun s tail => (s, v) :: tail) (textEntries rest)

/-- A dictionary from texts to anything. -/
def textDict (v : Value) : Checked (List (String × Value)) :=
  match v with
  | .dict entries => textEntries entries
  | _ => fail .dictType v

end Clearance.Schema
