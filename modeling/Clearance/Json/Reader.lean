import Clearance.Decimal.Layout
import Clearance.Decimal.Reading
import Clearance.Json.Document

/-!
# Reading JSON

Reads a document from a text and says where and why it stops being one.  Each step consumes what
it has read, so the number of characters bounds the nesting; it is the fuel of the reader.
-/

namespace Clearance.Json

/-- Why a text is no document. -/
inductive ReadCause where
  | value
  | propertyName
  | colon
  | comma
  | extraData
  | unterminatedString
  | controlCharacter
  | escape
  | unicodeEscape
  | byteOrderMark
  deriving DecidableEq, Repr

def ReadCause.message : ReadCause -> String
  | .value => "Expecting value"
  | .propertyName => "Expecting property name enclosed in double quotes"
  | .colon => "Expecting ':' delimiter"
  | .comma => "Expecting ',' delimiter"
  | .extraData => "Extra data"
  | .unterminatedString => "Unterminated string starting at"
  | .controlCharacter => "Invalid control character at"
  | .escape => "Invalid \\escape"
  | .unicodeEscape => "Invalid \\uXXXX escape"
  | .byteOrderMark => "Unexpected UTF-8 BOM (decode using utf-8-sig)"

/-- A cause and the position where it was found. -/
structure ReadFault where
  cause : ReadCause
  position : Nat
  deriving DecidableEq, Repr

/-- The line of a position, counted from one, and the column in it. -/
def lineAndColumn (cs : List Char) (position : Nat) : Nat × Nat :=
  let before := cs.take position
  (before.count '\n' + 1, ((before.reverse.takeWhile (· != '\n')).length) + 1)

def ReadFault.message (text : String) (fault : ReadFault) : String :=
  let (line, column) := lineAndColumn text.toList fault.position
  fault.cause.message ++ ": line " ++ Decimal.natText line ++ " column "
    ++ Decimal.natText column ++ " (char " ++ Decimal.natText fault.position ++ ")"

/-- What is left to read, and its position. -/
structure Cursor where
  position : Nat
  rest : List Char

namespace Cursor

def skip (c : Cursor) (n : Nat) : Cursor :=
  { position := c.position + n, rest := c.rest.drop n }

def fail {α : Type} (c : Cursor) (cause : ReadCause) : Except ReadFault α :=
  .error { cause, position := c.position }

end Cursor

def isJsonBlank (c : Char) : Bool :=
  c == ' ' || c == '\t' || c == '\n' || c == '\r'

def skipBlanks (c : Cursor) : Cursor :=
  c.skip (c.rest.takeWhile isJsonBlank).length

/-- Four digits of base sixteen at the front. -/
def hexFour? (cs : List Char) : Option Nat :=
  let front := cs.take 4
  if front.length = 4 then Decimal.readNat? 16 front else none

def isHighSurrogate (code : Nat) : Bool :=
  decide (0xd800 <= code) && decide (code <= 0xdbff)

def isLowSurrogate (code : Nat) : Bool :=
  decide (0xdc00 <= code) && decide (code <= 0xdfff)

def shortUnescape? (c : Char) : Option Char :=
  if c = '"' || c = '\\' || c = '/' then some c
  else if c = 'b' then some '\x08'
  else if c = 'f' then some '\x0c'
  else if c = 'n' then some '\n'
  else if c = 'r' then some '\r'
  else if c = 't' then some '\t'
  else none

/--
Reads an escape behind its backslash: the character and how many characters it took.  A code in
four digits must not end the text, and a pair of surrogates makes one character.
-/
def readEscape (c : Cursor) : Except ReadFault (Char × Nat) :=
  match c.rest with
  | 'u' :: digits =>
      match hexFour? digits with
      | none => c.fail .unicodeEscape
      | some code =>
          if digits.length <= 4 then c.fail .unicodeEscape
          else
            match isHighSurrogate code, digits.drop 4 with
            | true, '\\' :: 'u' :: more =>
                if more.length < 5 then .ok (Char.ofNat 0xfffd, 5)
                else
                  match hexFour? more with
                  | none => (c.skip 6).fail .unicodeEscape
                  | some low =>
                      if isLowSurrogate low then
                        .ok (Char.ofNat (0x10000 + (code - 0xd800) * 0x400 + (low - 0xdc00)), 11)
                      else .ok (Char.ofNat 0xfffd, 5)
            | _, _ =>
                if isHighSurrogate code || isLowSurrogate code then .ok (Char.ofNat 0xfffd, 5)
                else .ok (Char.ofNat code, 5)
  | letter :: _ =>
      match shortUnescape? letter with
      | some ch => .ok (ch, 1)
      | none => .error { cause := .escape, position := c.position - 1 }
  | [] => c.fail .unterminatedString

/-- Reads the characters of a text up to its closing quote. -/
def readChars (start : Nat) : Nat -> List Char -> Cursor -> Except ReadFault (String × Cursor)
  | 0, _, _ => .error { cause := .unterminatedString, position := start }
  | fuel + 1, acc, c =>
      match c.rest with
      | [] => .error { cause := .unterminatedString, position := start }
      | '"' :: _ => .ok (String.ofList acc.reverse, c.skip 1)
      | '\\' :: [] => .error { cause := .unterminatedString, position := start }
      | '\\' :: _ =>
          match readEscape (c.skip 1) with
          | .error fault => .error fault
          | .ok (ch, used) => readChars start fuel (ch :: acc) (c.skip (used + 1))
      | ch :: _ =>
          if ch.toNat < 0x20 then c.fail .controlCharacter
          else readChars start fuel (ch :: acc) (c.skip 1)

/-- Reads a text behind its opening quote. -/
def readString (c : Cursor) : Except ReadFault (String × Cursor) :=
  readChars (c.position - 1) (c.rest.length + 1) [] c

/-- The characters of a number: sign and whole part, fraction, exponent. -/
structure NumberText where
  negative : Bool
  whole : List Char
  fraction : List Char
  exponent : List Char

/-- A fraction behind its point, if digits follow. -/
def takeFraction : List Char -> List Char
  | '.' :: rest => rest.takeWhile Decimal.isDigit
  | _ => []

/-- An exponent behind its letter, with its sign, if digits follow. -/
def takeExponent : List Char -> List Char
  | c :: rest =>
      if c = 'e' || c = 'E' then
        match rest with
        | s :: more =>
            if s = '+' || s = '-' then
              let digits := more.takeWhile Decimal.isDigit
              if digits.isEmpty then [] else s :: digits
            else rest.takeWhile Decimal.isDigit
        | [] => []
      else []
  | [] => []

/-- Reads a number, if one starts here. -/
def readNumber? (c : Cursor) : Option (Json × Cursor) :=
  let (negative, cs) :=
    match c.rest with
    | '-' :: rest => (true, rest)
    | cs => (false, cs)
  let whole :=
    match cs with
    | '0' :: _ => ['0']
    | cs => cs.takeWhile Decimal.isDigit
  if whole.isEmpty then none
  else
    let afterWhole := cs.drop whole.length
    let fraction := takeFraction afterWhole
    let fractionLength := if fraction.isEmpty then 0 else fraction.length + 1
    let afterFraction := afterWhole.drop fractionLength
    let exponent := takeExponent afterFraction
    let exponentLength := if exponent.isEmpty then 0 else exponent.length + 1
    let used := (if negative then 1 else 0) + whole.length + fractionLength + exponentLength
    if fraction.isEmpty && exponent.isEmpty then
      (Decimal.readNat? 10 whole).map fun n =>
        (.int (if negative then -(n : Int) else n), c.skip used)
    else
      (Decimal.Parts.number?
        { negative, whole, fraction, exponent := (Decimal.readInt? exponent).getD 0 }).map
        fun x => (.real x, c.skip used)

/-- The words that stand for values. -/
def words : List (List Char × Json) :=
  [ ("null".toList, .null), ("true".toList, .bool true), ("false".toList, .bool false),
    ("NaN".toList, .real Binary64.nan), ("Infinity".toList, .real (Binary64.infinity false)),
    ("-Infinity".toList, .real (Binary64.infinity true)) ]

def readWord? (c : Cursor) : Option (Json × Cursor) :=
  (words.find? fun (word, _) => word.isPrefixOf c.rest).map fun (word, j) =>
    (j, c.skip word.length)

mutual

/-- Reads one value. -/
def readValue : Nat -> Cursor -> Except ReadFault (Json × Cursor)
  | 0, c => c.fail .value
  | fuel + 1, c =>
      match c.rest with
      | '"' :: _ => (readString (c.skip 1)).map fun (s, c) => (.string s, c)
      | '[' :: _ =>
          let c := skipBlanks (c.skip 1)
          match c.rest with
          | ']' :: _ => .ok (.array [], c.skip 1)
          | _ => (readItems fuel [] c).map fun (items, c) => (.array items, c)
      | '\x7b' :: _ =>
          let c := skipBlanks (c.skip 1)
          match c.rest with
          | '\x7d' :: _ => .ok (.object [], c.skip 1)
          | _ => (readMembers fuel [] c).map fun (members, c) => (.object members, c)
      | _ =>
          match readWord? c with
          | some found => .ok found
          | none =>
              match readNumber? c with
              | some found => .ok found
              | none => c.fail .value

/-- Reads the items of an array up to its bracket. -/
def readItems : Nat -> List Json -> Cursor -> Except ReadFault (List Json × Cursor)
  | 0, _, c => c.fail .value
  | fuel + 1, acc, c =>
      match readValue fuel c with
      | .error fault => .error fault
      | .ok (item, c) =>
          let c := skipBlanks c
          match c.rest with
          | ']' :: _ => .ok ((item :: acc).reverse, c.skip 1)
          | ',' :: _ => readItems fuel (item :: acc) (skipBlanks (c.skip 1))
          | _ => c.fail .comma

/-- Reads the members of an object up to its brace. -/
def readMembers : Nat -> List (String × Json) -> Cursor ->
    Except ReadFault (List (String × Json) × Cursor)
  | 0, _, c => c.fail .value
  | fuel + 1, acc, c =>
      match c.rest with
      | '"' :: _ =>
          match readString (c.skip 1) with
          | .error fault => .error fault
          | .ok (name, c) =>
              let c := skipBlanks c
              match c.rest with
              | ':' :: _ =>
                  match readValue fuel (skipBlanks (c.skip 1)) with
                  | .error fault => .error fault
                  | .ok (item, c) =>
                      let c := skipBlanks c
                      match c.rest with
                      | '\x7d' :: _ => .ok (((name, item) :: acc).reverse, c.skip 1)
                      | ',' :: _ => readMembers fuel ((name, item) :: acc) (skipBlanks (c.skip 1))
                      | _ => c.fail .comma
              | _ => c.fail .colon
      | _ => c.fail .propertyName

end

/-- Reads a whole text as one document. -/
def parse (s : String) : Except ReadFault Json :=
  let cs := s.toList
  let start := skipBlanks { position := 0, rest := cs }
  match readValue (2 * cs.length + 2) start with
  | .error fault => .error fault
  | .ok (j, c) =>
      let c := skipBlanks c
      if c.rest.isEmpty then .ok j else c.fail .extraData

end Clearance.Json
