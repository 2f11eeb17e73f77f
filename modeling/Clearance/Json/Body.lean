import Clearance.Json.Reader
import Clearance.Text.Quoted

/-!
# Documents in bodies

A document may come as bytes that do not say how its text is encoded; the zeros among the first of
them tell.  Half of a pair of surrogates is read as the character that stands for what has been
lost.  Of whole numbers only those are read that do not have too many digits.
-/

namespace Clearance.Json

/-! ## Encodings -/

/-- The size of the units of a text in bits; of several bytes the greatest may come first. -/
inductive Encoding where
  | eight
  | sixteen (greatestFirst : Bool)
  | thirtyTwo (greatestFirst : Bool)
  deriving DecidableEq, Repr

namespace Encoding

def name : Encoding -> String
  | .eight => "utf-8"
  | .sixteen greatestFirst => if greatestFirst then "utf-16-be" else "utf-16-le"
  | .thirtyTwo greatestFirst => if greatestFirst then "utf-32-be" else "utf-32-le"

/-- The encoding that the zeros among the first bytes tell. -/
def ofBytes : List Nat -> Encoding
  | 0 :: 0 :: _ :: _ :: _ => .thirtyTwo true
  | 0 :: _ :: _ :: _ :: _ => .sixteen true
  | _ :: 0 :: 0 :: 0 :: _ => .thirtyTwo false
  | _ :: 0 :: _ :: _ :: _ => .sixteen false
  | [0, _] => .sixteen true
  | [_, 0] => .sixteen false
  | _ => .eight

end Encoding

/-- Bytes that are no character, and the position of the first. -/
structure Undecodable where
  encoding : Encoding
  position : Nat
  bytes : List Nat
  /-- Whether there are too few. -/
  isCut : Bool
  deriving DecidableEq, Repr

def Undecodable.message (f : Undecodable) : String :=
  let found :=
    match f.bytes with
    | [byte] =>
        "byte 0x" ++ String.ofList (Text.hexPadded 2 byte) ++ " in position "
          ++ Decimal.natText f.position
    | bytes =>
        "bytes in position " ++ Decimal.natText f.position ++ "-"
          ++ Decimal.natText (f.position + bytes.length - 1)
  "'" ++ f.encoding.name ++ "' codec can't decode " ++ found ++ ": "
    ++ (if f.isCut then "truncated data" else "code point not in range(0x110000)")

/-- The number that bytes make, the greatest of them first or last. -/
def unitOf (greatestFirst : Bool) (bytes : List Nat) : Nat :=
  (if greatestFirst then bytes else bytes.reverse).foldl (fun n byte => 0x100 * n + byte) 0

/-- The units of 16 bits from a position on. -/
def unitsOfTwo (greatestFirst : Bool) : Nat -> List Nat -> Except Undecodable (List Nat)
  | position, a :: b :: rest => do
      return unitOf greatestFirst [a, b] :: (<- unitsOfTwo greatestFirst (position + 2) rest)
  | _, [] => .ok []
  | position, bytes =>
      .error { encoding := .sixteen greatestFirst, position, bytes, isCut := true }

/-- The units of 32 bits from a position on. -/
def unitsOfFour (greatestFirst : Bool) : Nat -> List Nat -> Except Undecodable (List Nat)
  | position, a :: b :: c :: d :: rest => do
      let unit := unitOf greatestFirst [a, b, c, d]
      if 0x10ffff < unit then
        .error
          { encoding := .thirtyTwo greatestFirst, position, bytes := [a, b, c, d], isCut := false }
      else return unit :: (<- unitsOfFour greatestFirst (position + 4) rest)
  | _, [] => .ok []
  | position, bytes =>
      .error { encoding := .thirtyTwo greatestFirst, position, bytes, isCut := true }

/-- A unit alone as a character. -/
def charOfUnit (unit : Nat) : Char :=
  Char.ofNat (if isHighSurrogate unit || isLowSurrogate unit then 0xfffd else unit)

/-- Units of 16 bits as characters; a pair of surrogates makes one. -/
def charsOfUnits : List Nat -> List Char
  | high :: low :: rest =>
      if isHighSurrogate high && isLowSurrogate low then
        Char.ofNat (0x10000 + (high - 0xd800) * 0x400 + (low - 0xdc00)) :: charsOfUnits rest
      else charOfUnit high :: charsOfUnits (low :: rest)
  | [unit] => [charOfUnit unit]
  | [] => []

/-- A byte order mark in front of a text is no part of it. -/
def withoutMark (text : String) : String :=
  match text.toList with
  | '\ufeff' :: rest => String.ofList rest
  | _ => text

/-- The text that the bytes of a text are decoded to. -/
def decode (text : String) : Except Undecodable String :=
  let bytes := text.toUTF8.data.toList.map UInt8.toNat
  match Encoding.ofBytes bytes with
  | .eight => .ok (withoutMark text)
  | .sixteen greatestFirst => do
      return String.ofList (charsOfUnits (<- unitsOfTwo greatestFirst 0 bytes))
  | .thirtyTwo greatestFirst => do
      return String.ofList ((<- unitsOfFour greatestFirst 0 bytes).map charOfUnit)

/-! ## Long numbers -/

/-- What the characters of a document that have gone by end with. -/
inductive Passage where
  | between
  | quoted
  | escaped
  /-- A number that is whole so far. -/
  | whole (digits : Nat)
  | fraction

namespace Passage

def begin (c : Char) : Passage :=
  if c = '"' then .quoted else if Decimal.isDigit c then .whole 1 else .between

/-- The passage with one more character. -/
def next (c : Char) : Passage -> Passage
  | .between => begin c
  | .quoted => if c = '"' then .between else if c = '\\' then .escaped else .quoted
  | .escaped => .quoted
  | .whole digits =>
      if Decimal.isDigit c then .whole (digits + 1)
      else if c = '.' || c = 'e' || c = 'E' then .fraction
      else begin c
  | .fraction =>
      if Decimal.isDigit c || c = 'e' || c = 'E' || c = '+' || c = '-' then .fraction else begin c

/-- The digits of a whole number that is over. -/
def over? : Passage -> Passage -> Option Nat
  | .whole _, .whole _ | .whole _, .fraction => none
  | .whole digits, _ => some digits
  | _, _ => none

end Passage

/-- The digits of the first whole number that has too many of them. -/
def longNumber? (p : Passage) : List Char -> Option Nat
  | [] => (p.over? .between).filter fun digits => decide (Decimal.mostDigits < digits)
  | c :: rest =>
      let q := p.next c
      match (p.over? q).filter fun digits => decide (Decimal.mostDigits < digits) with
      | some digits => some digits
      | none => longNumber? q rest

/-! ## Bodies -/

/-- Why a body holds no document. -/
inductive BodyFault where
  | undecodable (f : Undecodable)
  | malformed (text : String) (f : ReadFault)
  | longNumber (digits : Nat)

def BodyFault.message : BodyFault -> String
  | .undecodable f => f.message
  | .malformed text f => f.message text
  | .longNumber digits => Decimal.longNumberText digits

/-- The part of a text that is read as a document before it fails. -/
def consumed (text : String) : List Char :=
  match parse text with
  | .ok _ => text.toList
  | .error f => text.toList.take f.position

/-- The document in a body; a number that is too long is found before any later fault. -/
def ofBody (body : String) : Except BodyFault Json := do
  let text <- (decode body).mapError BodyFault.undecodable
  match longNumber? .between (consumed text) with
  | some digits => .error (.longNumber digits)
  | none => (parse text).mapError (BodyFault.malformed text)

end Clearance.Json
