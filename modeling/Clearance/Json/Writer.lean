import Clearance.Decimal.Layout
import Clearance.Json.Document

/-!
# Writing JSON

One writer, directed by a style: how far structure is spread over lines, what is escaped in
texts, and how numbers that are not whole are written.
-/

namespace Clearance.Json

/-- How a document is spread out. -/
inductive Spread where
  /-- All on one line, with nothing between the parts. -/
  | compact
  /-- All on one line, with a blank after each comma and colon. -/
  | spaced
  /-- Each item on a line of its own, indented by its depth. -/
  | indented (width : Nat)
  deriving DecidableEq, Repr

/-- The decisions of one written form. -/
structure Style where
  spread : Spread
  /-- Escapes everything outside ASCII. -/
  asciiOnly : Bool
  /-- How numbers that are not whole are written. -/
  realText : Binary64 -> String

/-- The two halves of a character outside the basic plane, as escapes. -/
def surrogates (code : Nat) : Nat × Nat :=
  let rest := code - 0x10000
  (0xd800 + rest / 0x400, 0xdc00 + rest % 0x400)

def unicodeEscape (code : Nat) : List Char :=
  '\\' :: 'u' :: Text.hexPadded 4 code

/-- The escapes that have a letter of their own. -/
def shortEscape? (c : Char) : Option Char :=
  if c = '"' then some '"'
  else if c = '\\' then some '\\'
  else if c = '\n' then some 'n'
  else if c = '\r' then some 'r'
  else if c = '\t' then some 't'
  else if c = '\x08' then some 'b'
  else if c = '\x0c' then some 'f'
  else none

def writtenChar (asciiOnly : Bool) (c : Char) : List Char :=
  match shortEscape? c with
  | some letter => ['\\', letter]
  | none =>
      if c.toNat < 0x20 then unicodeEscape c.toNat
      else if !asciiOnly || c.toNat < 0x7f then [c]
      else if c.toNat < 0x10000 then unicodeEscape c.toNat
      else
        let (high, low) := surrogates c.toNat
        unicodeEscape high ++ unicodeEscape low

/-- A text in double quotes. -/
def writtenString (asciiOnly : Bool) (s : String) : List Char :=
  '"' :: s.toList.flatMap (writtenChar asciiOnly) ++ ['"']

/-- The line break and indent before an item at a depth. -/
def Style.lineStart (style : Style) (depth : Nat) : List Char :=
  match style.spread with
  | .indented width => '\n' :: List.replicate (width * depth) ' '
  | _ => []

/-- What stands between two items at a depth. -/
def Style.separator (style : Style) (depth : Nat) : List Char :=
  match style.spread with
  | .compact => [',']
  | .spaced => [',', ' ']
  | .indented _ => ',' :: style.lineStart depth

def Style.colon (style : Style) : List Char :=
  match style.spread with
  | .compact => [':']
  | _ => [':', ' ']

/-- Items between brackets; with no items the brackets stand together. -/
def Style.bracketed (style : Style) (depth : Nat) (left right : Char) (items : List (List Char)) :
    List Char :=
  match items with
  | [] => [left, right]
  | _ =>
      left :: style.lineStart (depth + 1) ++ List.intercalate (style.separator (depth + 1)) items
        ++ style.lineStart depth ++ [right]

mutual

def write (style : Style) (depth : Nat) : Json -> List Char
  | .null => "null".toList
  | .bool true => "true".toList
  | .bool false => "false".toList
  | .int n => (Decimal.intText n).toList
  | .real x => (style.realText x).toList
  | .string s => writtenString style.asciiOnly s
  | .array items => style.bracketed depth '[' ']' (writeItems style (depth + 1) items)
  | .object members => style.bracketed depth '\x7b' '\x7d' (writeMembers style (depth + 1) members)

def writeItems (style : Style) (depth : Nat) : List Json -> List (List Char)
  | [] => []
  | item :: rest => write style depth item :: writeItems style depth rest

def writeMembers (style : Style) (depth : Nat) : List (String × Json) -> List (List Char)
  | [] => []
  | (name, item) :: rest =>
      (writtenString style.asciiOnly name ++ style.colon ++ write style depth item)
        :: writeMembers style depth rest

end

/-- The text of a document in a style. -/
def render (style : Style) (j : Json) : String :=
  String.ofList (write style 0 j)

/-- ASCII only; numbers that are not finite have names. -/
def asciiStyle (spread : Spread) : Style :=
  { spread, asciiOnly := true, realText := Decimal.scripted.text }

/-- All characters as they are; numbers that are not finite become null. -/
def plainStyle (spread : Spread) : Style :=
  { spread, asciiOnly := false
    realText := fun x => if x.isFinite then Decimal.bare.text x else "null" }

end Clearance.Json
