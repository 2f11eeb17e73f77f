import Clearance.Decimal.Reading

/-!
# Places in a text

A cursor stands before the remaining characters of a text and knows its line and column, which
decide what belongs together.
-/

namespace Clearance.Yaml

/-- The characters that end a line. -/
def isBreak (c : Char) : Bool :=
  c == '\n' || c == '\r' || c == '\x85' || c == '\u2028' || c == '\u2029'

def isSpaceOrTab (c : Char) : Bool :=
  c == ' ' || c == '\t'

/-- The mark of the byte order, which takes no column. -/
def isByteOrderMark (c : Char) : Bool :=
  c == '\ufeff'

structure Cursor where
  rest : List Char
  index : Nat := 0
  line : Nat := 0
  column : Nat := 0

namespace Cursor

/-- The next character. -/
def head? (c : Cursor) : Option Char :=
  c.rest.head?

/-- The character some places further on. -/
def at? (c : Cursor) (n : Nat) : Option Char :=
  c.rest[n]?

def isAtEnd (c : Cursor) : Bool :=
  c.rest.isEmpty

/-- Whether the next character is of a kind. -/
def sees (p : Char -> Bool) (c : Cursor) : Bool :=
  c.head?.any p

/-- Whether the next character is this one. -/
def seesChar (ch : Char) (c : Cursor) : Bool :=
  c.head? == some ch

/-- Moves over one character; a carriage return before a line feed does not yet end the line. -/
def next (c : Cursor) : Cursor :=
  match c.rest with
  | [] => c
  | ch :: rest =>
      if isBreak ch && !(ch == '\r' && rest.head? == some '\n') then
        { rest, index := c.index + 1, line := c.line + 1, column := 0 }
      else
        { rest, index := c.index + 1, line := c.line
          column := if isByteOrderMark ch then c.column else c.column + 1 }

/-- Moves over some characters. -/
def advance : Nat -> Cursor -> Cursor
  | 0, c => c
  | n + 1, c => advance n c.next

/-- The characters of a kind that come next, and the place behind them. -/
def takeWhile (p : Char -> Bool) (c : Cursor) : List Char × Cursor :=
  let taken := c.rest.takeWhile p
  (taken, c.advance taken.length)

def skipWhile (p : Char -> Bool) (c : Cursor) : Cursor :=
  (c.takeWhile p).2

/-- Moves over a line break, if one is next: both kinds of separator stay what they are, any
other break counts as a line feed. -/
def takeBreak? (c : Cursor) : Option (Char × Cursor) :=
  match c.rest with
  | '\r' :: '\n' :: _ => some ('\n', c.advance 2)
  | ch :: _ =>
      if ch == '\u2028' || ch == '\u2029' then some (ch, c.next)
      else if isBreak ch then some ('\n', c.next)
      else none
  | [] => none

/-- Whether the character some places on is a blank, a break or the end. -/
def endsWordAt (n : Nat) (c : Cursor) : Bool :=
  (c.at? n).all fun ch => isSpaceOrTab ch || isBreak ch

/-- Whether the next character is a space, a break or the end. -/
def endsSpaced (c : Cursor) : Bool :=
  c.head?.all fun ch => ch == ' ' || isBreak ch

/-- Whether the line ends here. -/
def endsLine (c : Cursor) : Bool :=
  c.head?.all isBreak

/-- Whether a mark of three equal characters stands here as a word. -/
def seesMark (mark : Char) (c : Cursor) : Bool :=
  c.rest.take 3 == [mark, mark, mark] && c.endsWordAt 3

/-- Whether the start or the end of a document is marked here. -/
def seesDocumentMark (c : Cursor) : Bool :=
  c.seesMark '-' || c.seesMark '.'

theorem rest_next (c : Cursor) : c.next.rest = c.rest.tail := by
  unfold next
  split
  · simp [*]
  · split <;> simp [*]

theorem rest_advance (n : Nat) (c : Cursor) : (c.advance n).rest = c.rest.drop n := by
  induction n generalizing c with
  | zero => simp [advance]
  | succ n ih => simp [advance, ih, rest_next]

end Cursor

end Clearance.Yaml
