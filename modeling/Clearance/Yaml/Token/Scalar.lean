import Clearance.Yaml.Token

/-!
# Scalars in a text

Plain, quoted and block scalars.  In all of them a single line break between two lines of text
reads as a space or as itself, by the rules of the form; further breaks are kept.
-/

namespace Clearance.Yaml

/-- A piece cut off the front of a text, and the place behind it. -/
abbrev Cut (α : Type) := α × Cursor

/-- What the breaks between two lines of text read as: one is a space, of more the first goes. -/
def foldedBreaks (first : Char) (more : List Char) : List Char :=
  if first != '\n' then first :: more
  else if more.isEmpty then [' ']
  else more

/-! ## Plain scalars -/

/-- The characters that end a plain scalar between flow brackets. -/
def isFlowStop (c : Char) : Bool :=
  c == ',' || c == '?' || c == '[' || c == ']' || c == '\x7b' || c == '\x7d'

/-- The brackets and the comma of the flow forms. -/
def isFlowMark (c : Char) : Bool :=
  c == ',' || c == '[' || c == ']' || c == '\x7b' || c == '\x7d'

/-- The word of a plain scalar at the front of a text. -/
def plainWord (flow : Bool) : List Char -> List Char
  | [] => []
  | c :: rest =>
      if isSpaceOrTab c || isBreak c then []
      else if c == ':' && rest.head?.all (fun d =>
          isSpaceOrTab d || isBreak d || (flow && isFlowMark d)) then []
      else if flow && isFlowStop c then []
      else c :: plainWord flow rest

/-- Blank lines behind a break; nothing if a document mark ends them. -/
def plainBreaks : Nat -> Cursor -> List Char -> Option (Cut (List Char))
  | 0, c, breaks => some (breaks, c)
  | fuel + 1, c, breaks =>
      let c := c.skipWhile (· == ' ')
      match c.takeBreak? with
      | none => some (breaks, c)
      | some (b, c) =>
          if c.seesDocumentMark then none else plainBreaks fuel c (breaks ++ [b])

/-- The gap behind a word of a plain scalar. -/
structure Gap where
  /-- What the gap reads as; empty if the scalar ends here. -/
  text : List Char
  after : Cursor
  /-- Whether the gap holds a line break. -/
  broken : Bool

/-- Where the blank lines behind a break lead when a document mark ends them. -/
def skipToMark : Nat -> Cursor -> Cursor
  | 0, c => c
  | fuel + 1, c =>
      let c := c.skipWhile (· == ' ')
      match c.takeBreak? with
      | none => c
      | some (_, c) => if c.seesDocumentMark then c else skipToMark fuel c

def plainGap (c : Cursor) : Gap :=
  let (spaces, c) := c.takeWhile (· == ' ')
  match c.takeBreak? with
  | none => { text := spaces, after := c, broken := false }
  | some (b, c) =>
      let fuel := c.rest.length + 1
      if c.seesDocumentMark then { text := [], after := c, broken := true }
      else
        match plainBreaks fuel c [] with
        | some (more, c) => { text := foldedBreaks b more, after := c, broken := true }
        | none => { text := [], after := skipToMark fuel c, broken := true }

/-- The words of a plain scalar and the gaps between them. -/
def plainWords (flow : Bool) (indent : Int) :
    Nat -> Cursor -> List Char -> List Char -> Bool -> Cut (List Char × Bool)
  | 0, c, text, _, broken => ((text, broken), c)
  | fuel + 1, c, text, gap, broken =>
      if c.seesChar '#' then ((text, broken), c)
      else
        let word := plainWord flow c.rest
        if word.isEmpty then ((text, broken), c)
        else
          let g := plainGap (c.advance word.length)
          let text := text ++ gap ++ word
          if g.text.isEmpty || g.after.seesChar '#'
              || (!flow && decide ((g.after.column : Int) < indent)) then
            ((text, g.broken), g.after)
          else plainWords flow indent fuel g.after text g.text g.broken

/--
A plain scalar: its text, whether it ends behind a line break, and the place behind it.  Lines
that are indented less than the scalar do not belong to it.
-/
def plainScalar (flow : Bool) (indent : Int) (c : Cursor) : Cut (List Char × Bool) :=
  plainWords flow indent (c.rest.length + 1) c [] [] false

/-! ## Quoted scalars -/

/-- The escapes of one letter. -/
def letterEscape? : Char -> Option Char
  | '0' => some '\x00'
  | 'a' => some '\x07'
  | 'b' => some '\x08'
  | 't' => some '\t'
  | '\t' => some '\t'
  | 'n' => some '\n'
  | 'v' => some '\x0b'
  | 'f' => some '\x0c'
  | 'r' => some '\r'
  | 'e' => some '\x1b'
  | ' ' => some ' '
  | '"' => some '"'
  | '\\' => some '\\'
  | '/' => some '/'
  | 'N' => some '\x85'
  | '_' => some '\xa0'
  | 'L' => some '\u2028'
  | 'P' => some '\u2029'
  | _ => none

/-- How many hexadecimal digits follow a letter that starts an escape by number. -/
def escapeWidth? : Char -> Option Nat
  | 'x' => some 2
  | 'u' => some 4
  | 'U' => some 8
  | _ => none

/-- The text of a quoted scalar so far, and whether all its escapes name characters. -/
structure Quote where
  text : List Char := []
  sound : Bool := true

def Quote.add (q : Quote) (cs : List Char) : Quote :=
  { q with text := q.text ++ cs }

/-- Adds the character of a number. -/
def Quote.addCode (q : Quote) (n : Nat) : Except Flaw Quote :=
  if Nat.pow 2 31 <= n then .error .characterOutOfBounds
  else if 0x110000 <= n then .error .characterTooLarge
  else if h : n.isValidChar then .ok (q.add [Char.ofNatAux n h])
  else .ok { q with sound := false }

/-- Blank lines in a quoted scalar. -/
def quotedBreaks : Nat -> Cursor -> List Char -> Except Flaw (Cut (List Char))
  | 0, c, breaks => .ok (breaks, c)
  | fuel + 1, c, breaks =>
      if c.seesDocumentMark then .error .unclosedQuote
      else
        let c := c.skipWhile isSpaceOrTab
        match c.takeBreak? with
        | some (b, c) => quotedBreaks fuel c (breaks ++ [b])
        | none => .ok (breaks, c)

/-- The escape behind a backslash. -/
def quotedEscape (q : Quote) (c : Cursor) : Except Flaw (Cut Quote) :=
  match c.rest with
  | [] => .error .escape
  | ch :: rest =>
      match letterEscape? ch with
      | some d => .ok (q.add [d], c.next)
      | none =>
          match escapeWidth? ch with
          | some width =>
              let digits := rest.take width
              if digits.length = width then
                match Decimal.readNat? 16 digits with
                | some n => do return (<- q.addCode n, c.advance (width + 1))
                | none => .error .escape
              else .error .escape
          | none =>
              match c.takeBreak? with
              | some (_, c) => do
                  let (breaks, c) <- quotedBreaks (c.rest.length + 1) c []
                  return (q.add breaks, c)
              | none => .error .escape

/-- The gap between two words of a quoted scalar. -/
def quotedGap (q : Quote) (c : Cursor) : Except Flaw (Cut Quote) := do
  let (blanks, c) := c.takeWhile isSpaceOrTab
  if c.isAtEnd then .error .unclosedQuote
  match c.takeBreak? with
  | some (b, c) =>
      let (more, c) <- quotedBreaks (c.rest.length + 1) c []
      return (q.add (foldedBreaks b more), c)
  | none => return (q.add blanks, c)

/-- The characters that stand for themselves in quotes of both kinds. -/
def isQuotedPlain (c : Char) : Bool :=
  !(c == '\'' || c == '"' || c == '\\' || isSpaceOrTab c || isBreak c)

/-- The characters of a quoted scalar up to the closing quote. -/
def quotedBody (double : Bool) : Nat -> Quote -> Cursor -> Except Flaw (Cut Quote)
  | 0, _, _ => .error .unclosedQuote
  | fuel + 1, q, c =>
      match c.rest with
      | [] => .error .unclosedQuote
      | ch :: rest => do
          if ch == '\'' then
            if double then quotedBody double fuel (q.add [ch]) c.next
            else if rest.head? == some '\'' then quotedBody double fuel (q.add [ch]) (c.advance 2)
            else return (q, c.next)
          else if ch == '"' then
            if double then return (q, c.next)
            else quotedBody double fuel (q.add [ch]) c.next
          else if ch == '\\' then
            if double then
              let (q, c) <- quotedEscape q c.next
              quotedBody double fuel q c
            else quotedBody double fuel (q.add [ch]) c.next
          else if isQuotedPlain ch then
            let (word, c) := c.takeWhile isQuotedPlain
            quotedBody double fuel (q.add word) c
          else
            let (q, c) <- quotedGap q c
            quotedBody double fuel q c

/-- A quoted scalar, from its opening quote on. -/
def quotedScalar (double : Bool) (c : Cursor) : Except Flaw (Cut Quote) :=
  quotedBody double (c.rest.length + 1) {} c.next

/-! ## Block scalars -/

/-- What becomes of the line breaks at the end of a block scalar. -/
inductive Chomping where
  | strip | clip | keep
  deriving DecidableEq, Repr

def chomping? : Char -> Option Chomping
  | '+' => some .keep
  | '-' => some .strip
  | _ => none

/-- The depth of a block scalar relative to its surroundings. -/
def increment? (c : Char) : Option Nat :=
  Decimal.digitValue? 10 c

/-- The header of a block scalar: chomping and depth, in either order. -/
def blockHeader (c : Cursor) : Except Flaw (Cut (Chomping × Option Nat)) := do
  let step (c : Cursor) : Option (Cut Chomping) :=
    (c.head?.bind chomping?).map fun k => (k, c.next)
  let depth (c : Cursor) : Except Flaw (Cut (Option Nat)) :=
    match c.head?.bind increment? with
    | some 0 => .error .blockHeader
    | some n => .ok (some n, c.next)
    | none => .ok (none, c)
  let (header, c) <- match step c with
    | some (chomping, c) => do
        let (increment, c) <- depth c
        pure ((chomping, increment), c)
    | none => do
        let (increment, c) <- depth c
        match increment, step c with
        | some _, some (chomping, c) => pure ((chomping, increment), c)
        | _, _ => pure ((Chomping.clip, increment), c)
  if c.endsSpaced then return (header, c) else .error .blockHeader

/-- Moves over blanks, a comment and the line break, which are all the line may still hold. -/
def restOfLine (flaw : Flaw) (c : Cursor) : Except Flaw Cursor :=
  let c := c.skipWhile (· == ' ')
  let c := if c.seesChar '#' then c.skipWhile (fun ch => !isBreak ch) else c
  if c.endsLine then .ok ((c.takeBreak?.map Prod.snd).getD c) else .error flaw

/-- Moves over spaces, but not beyond a column. -/
def skipSpacesTo : Nat -> Nat -> Cursor -> Cursor
  | 0, _, c => c
  | fuel + 1, column, c =>
      if c.column < column && c.seesChar ' ' then skipSpacesTo fuel column c.next else c

/-- Blank lines of a block scalar of a depth. -/
def blockBreaks (indent : Nat) : Nat -> Cursor -> List Char -> Cut (List Char)
  | 0, c, breaks => (breaks, c)
  | fuel + 1, c, breaks =>
      let c := skipSpacesTo c.rest.length indent c
      match c.takeBreak? with
      | some (b, c) => blockBreaks indent fuel c (breaks ++ [b])
      | none => (breaks, c)

/-- Blank lines before the first line of text, and the greatest column they lead to. -/
def blockStart : Nat -> Cursor -> List Char -> Nat -> List Char × Nat × Cursor
  | 0, c, breaks, deepest => (breaks, deepest, c)
  | fuel + 1, c, breaks, deepest =>
      let c := c.skipWhile (· == ' ')
      let deepest := max deepest c.column
      match c.takeBreak? with
      | some (b, c) => blockStart fuel c (breaks ++ [b]) deepest
      | none => (breaks, deepest, c)

/-- The lines of a block scalar: its text, the last line break and the breaks behind it. -/
def blockLines (folded : Bool) (indent : Nat) :
    Nat -> Cursor -> List Char -> List Char -> Cut (List Char × List Char × List Char)
  | 0, c, text, breaks => ((text, [], breaks), c)
  | fuel + 1, c, text, breaks =>
      let indented (c : Cursor) : Bool := !c.sees isSpaceOrTab
      let flush := indented c
      let (line, c) := c.takeWhile fun ch => !isBreak ch
      let text := text ++ breaks ++ line
      let (last, c) :=
        match c.takeBreak? with
        | some (b, c) => ([b], c)
        | none => ([], c)
      let (breaks, c) := blockBreaks indent (c.rest.length + 1) c []
      if c.column = indent && !c.isAtEnd then
        let joined :=
          if folded && last == ['\n'] && flush && indented c then
            if breaks.isEmpty then [' '] else []
          else last
        blockLines folded indent fuel c (text ++ joined) breaks
      else ((text, last, breaks), c)

/-- A block scalar, from its mark on; `outer` is the depth of what it stands in. -/
def blockScalar (folded : Bool) (outer : Int) (c : Cursor) : Except Flaw (Cut (List Char)) := do
  let ((chomping, increment), c) <- blockHeader c.next
  let c <- restOfLine .blockHeader c
  let least := (outer + 1).toNat.max 1
  let (breaks, indent, c) :=
    match increment with
    | none =>
        let (breaks, deepest, c) := blockStart (c.rest.length + 1) c [] 0
        (breaks, least.max deepest, c)
    | some n =>
        let indent := least + n - 1
        let (breaks, c) := blockBreaks indent (c.rest.length + 1) c []
        (breaks, indent, c)
  let ((text, last, breaks), c) :=
    if c.column = indent && !c.isAtEnd then blockLines folded indent (c.rest.length + 1) c [] breaks
    else (([], [], breaks), c)
  let tail :=
    match chomping with
    | .strip => []
    | .clip => last
    | .keep => last ++ breaks
  return (text ++ tail, c)

end Clearance.Yaml
