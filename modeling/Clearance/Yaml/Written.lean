import Clearance.Text.Quoted
import Clearance.Yaml.Cursor
import Clearance.Yaml.Tag

/-!
# Written scalars

How a text is written as a scalar: plain where the text cannot be taken for anything else, in
single quotes where it is free of special characters, else in double quotes.  Lines are folded at
spaces once they are longer than 80 characters.
-/

namespace Clearance.Yaml

inductive Style where
  | plain | single | double
  deriving DecidableEq, Repr

namespace Style

/-- Whether a character at some place of a text cannot be written as it is. -/
def isSpecial (c : Char) : Bool :=
  !(c == '\n' || decide (0x20 <= c.toNat) && decide (c.toNat <= 0x7e))

/-- The marks that no plain scalar may start with. -/
def isOpeningMark (c : Char) : Bool :=
  "#,[]\x7b\x7d&*!|>'\"%@\x60".toList.contains c

/-- Whether a text goes on with a blank or ends. -/
def isBlankNext (cs : List Char) : Bool :=
  cs.head?.all fun c => c == '\x00' || isSpaceOrTab c || isBreak c

/-- Whether marks inside of a text would be read as more than text. -/
def hasInnerMark : Char -> List Char -> Bool
  | _, [] => false
  | before, c :: rest =>
      (c == ':' && isBlankNext rest) || (c == '#' && isBlankNext [before]) || hasInnerMark c rest

/-- Whether a text has marks that would be read as more than text. -/
def hasMark (cs : List Char) : Bool :=
  match cs with
  | [] => false
  | c :: rest =>
      cs.take 3 == ['-', '-', '-'] || cs.take 3 == ['.', '.', '.'] || isOpeningMark c
        || ((c == '?' || c == ':' || c == '-') && isBlankNext rest) || hasInnerMark c rest

def isSpaceOrBreak (c : Char) : Bool :=
  c == ' ' || c == '\n'

/-- Whether one character directly follows another in a text. -/
def follows (before after : Char) (cs : List Char) : Bool :=
  (cs.zip cs.tail).any fun (a, b) => a == before && b == after

/-- Whether a text may be written without quotes. -/
def allowsPlain (cs : List Char) : Bool :=
  !cs.isEmpty && !cs.any isSpecial && !cs.contains '\n' && !hasMark cs
    && !cs.head?.any isSpaceOrBreak && !cs.getLast?.any isSpaceOrBreak

/-- Whether a text may be written in single quotes. -/
def allowsSingle (cs : List Char) : Bool :=
  !cs.any isSpecial && !follows ' ' '\n' cs && !follows '\n' ' ' cs

def ofText (text : String) : Style :=
  let cs := text.toList
  if allowsPlain cs && Tag.ofPlain text == .str then .plain
  else if allowsSingle cs then .single
  else .double

end Style

namespace Written

/-- The width beyond which a line is folded. -/
def width : Nat := 80

def spaces (n : Nat) : List Char :=
  List.replicate n ' '

/-- A new line that starts at a column. -/
def newLine (indent : Nat) : List Char :=
  '\n' :: spaces indent

/-- The parts of a text: words, runs of spaces and runs of line feeds. -/
inductive Run where
  | word (cs : List Char)
  | spaces (count : Nat)
  | breaks (count : Nat)
  deriving DecidableEq, Repr

/-- Puts a character in front of the runs of the text behind it. -/
def addToRuns (c : Char) (runs : List Run) : List Run :=
  if c == ' ' then
    match runs with
    | .spaces n :: rest => .spaces (n + 1) :: rest
    | runs => .spaces 1 :: runs
  else if c == '\n' then
    match runs with
    | .breaks n :: rest => .breaks (n + 1) :: rest
    | runs => .breaks 1 :: runs
  else
    match runs with
    | .word cs :: rest => .word (c :: cs) :: rest
    | runs => .word [c] :: runs

def runsOf (cs : List Char) : List Run :=
  cs.foldr addToRuns []

/-- A word between single quotes, its own quotes doubled. -/
def doubleQuotes (cs : List Char) : List Char :=
  cs.flatMap fun c => if c == '\'' then ['\'', '\''] else [c]

/--
The runs of a text from a column on.  A single space between words becomes a new line if the line
is too long; one line feed more than there are is written, since a single one reads as a space.
-/
def folded (indent : Nat) (quoted : Bool) : (first : Bool) -> (column : Nat) -> List Run -> List Char
  | _, _, [] => []
  | _, column, .word cs :: rest =>
      let cs := if quoted then doubleQuotes cs else cs
      cs ++ folded indent quoted false (column + cs.length) rest
  | first, column, .spaces n :: rest =>
      if n = 1 && decide (width < column) && !first && !rest.isEmpty then
        newLine indent ++ folded indent quoted false indent rest
      else spaces n ++ folded indent quoted false (column + n) rest
  | _, _, .breaks n :: rest =>
      List.replicate n '\n' ++ newLine indent ++ folded indent quoted false indent rest

/-- The letter of a character that has an escape of its own. -/
def escapeLetter? (c : Char) : Option Char :=
  [ ('\x00', '0'), ('\x07', 'a'), ('\x08', 'b'), ('\t', 't'), ('\n', 'n'), ('\x0b', 'v'),
    ('\x0c', 'f'), ('\r', 'r'), ('\x1b', 'e'), ('"', '"'), ('\\', '\\'), ('\x85', 'N'),
    ('\xa0', '_'), ('\u2028', 'L'), ('\u2029', 'P') ].lookup c

def upperHex (digits n : Nat) : List Char :=
  (Text.hexPadded digits n).map Char.toUpper

/-- The escape of a character: by letter, or by number in two, four or eight digits. -/
def escape (c : Char) : List Char :=
  match escapeLetter? c with
  | some letter => ['\\', letter]
  | none =>
      let n := c.toNat
      if n <= 0xff then '\\' :: 'x' :: upperHex 2 n
      else if n <= 0xffff then '\\' :: 'u' :: upperHex 4 n
      else '\\' :: 'U' :: upperHex 8 n

def needsEscape (c : Char) : Bool :=
  c == '"' || c == '\\' || !(decide (0x20 <= c.toNat) && decide (c.toNat <= 0x7e))

/--
The characters between double quotes, from a column on.  `held` are those that are not written
yet, and `place` counts the characters before.  A line that is too long ends with a backslash
before a space or behind an escape; a space that the next line begins with gets one, too.
-/
def escaped (indent total : Nat) : (place column : Nat) -> (held : List Char) -> List Char -> List Char
  | _, _, held, [] => held
  | place, column, held, c :: rest =>
      let special := needsEscape c
      let out := if special then held ++ escape c else []
      let column := column + out.length
      let held := if special then [] else held
      let reached := if special then column - 1 else column + held.length
      let breakable := c == ' ' || held.isEmpty
      if 0 < place && place + 1 < total && breakable && width < reached then
        let next? := if special then rest.head? else some c
        let blank := next? == some ' '
        out ++ held ++ ['\\'] ++ newLine indent ++ (if blank then ['\\'] else [])
          ++ escaped indent total (place + 1) (if blank then indent + 1 else indent)
            (if special then [] else [c]) rest
      else
        out ++ escaped indent total (place + 1) column (if special then [] else held ++ [c]) rest

/-- A text as a scalar that starts at a column; its further lines start at the indentation. -/
def scalar (indent column : Nat) (text : String) : List Char :=
  let cs := text.toList
  match Style.ofText text with
  | .plain => folded indent false true column (runsOf cs)
  | .single => '\'' :: folded indent true true (column + 1) (runsOf cs) ++ ['\'']
  | .double => '"' :: escaped indent cs.length 0 (column + 1) [] cs ++ ['"']

end Written

end Clearance.Yaml
