import Clearance.Yaml.Token.Scalar

/-!
# Reading tokens

The text is cut into tokens from front to back.  A key needs no mark of its own in front, so a
place where one may start is remembered until its colon comes; then the tokens that open the key
are put in front of what was read since.
-/

namespace Clearance.Yaml

/-- A place where a key may have started. -/
structure PendingKey where
  /-- How many tokens stood before it. -/
  place : Nat
  /-- Whether nothing but a key can stand there. -/
  required : Bool
  index : Nat
  line : Nat
  column : Nat

structure Lexer where
  cursor : Cursor
  tokens : Array Token := #[]
  /-- How many flow brackets are open. -/
  flow : Nat := 0
  /-- The column of the innermost block; there is none at first. -/
  indent : Int := -1
  /-- The columns of the blocks around it. -/
  outer : List Int := []
  /-- Whether a key may start here. -/
  keyAllowed : Bool := true
  /-- The pending keys, each under the number of flow brackets around it. -/
  pending : List (Nat × PendingKey) := []

namespace Lexer

def push (t : Token) (l : Lexer) : Lexer :=
  { l with tokens := l.tokens.push t }

def moveTo (c : Cursor) (l : Lexer) : Lexer :=
  { l with cursor := c }

def allowKey (allowed : Bool) (l : Lexer) : Lexer :=
  { l with keyAllowed := allowed }

/-- Forgets the pending key of the present level; one that was required is missed. -/
def dropPending (l : Lexer) : Except Flaw Lexer :=
  match l.pending.lookup l.flow with
  | none => .ok l
  | some key =>
      if key.required then .error .missingColon
      else .ok { l with pending := l.pending.filter fun p => p.1 != l.flow }

/-- A key and its colon stand on one line, at most 1024 characters apart. -/
def PendingKey.isStale (key : PendingKey) (c : Cursor) : Bool :=
  key.line != c.line || decide (1024 < c.index - key.index)

/-- Forgets the pending keys that have become too old. -/
def dropStale (l : Lexer) : Except Flaw Lexer :=
  if l.pending.any fun (_, key) => PendingKey.isStale key l.cursor && key.required then
    .error .missingColon
  else .ok { l with pending := l.pending.filter fun (_, key) => !PendingKey.isStale key l.cursor }

/-- Notes that a key may start here. -/
def notePending (l : Lexer) : Except Flaw Lexer :=
  if l.keyAllowed then do
    let l <- l.dropPending
    let key : PendingKey :=
      { place := l.tokens.size, required := l.flow = 0 && l.indent = l.cursor.column
        index := l.cursor.index, line := l.cursor.line, column := l.cursor.column }
    return { l with pending := (l.flow, key) :: l.pending }
  else .ok l

/-- Closes the blocks that are deeper than a column. -/
def closeBlocks (column : Int) (l : Lexer) : Lexer :=
  if l.flow != 0 then l
  else
    let columns := l.indent :: l.outer
    let closed := (columns.takeWhile (column < ·)).length
    let left := columns.drop closed
    { l with
      tokens := l.tokens ++ Array.replicate closed Token.blockEnd
      indent := left.headD (-1)
      outer := left.tail }

/-- Opens a block at a column, if it is deeper than the innermost one. -/
def openBlock? (column : Nat) (l : Lexer) : Option Lexer :=
  if l.indent < column then some { l with indent := column, outer := l.indent :: l.outer } else none

/-- Opens a block at a column and starts it with a token, if it is deeper. -/
def openBlock (column : Nat) (start : Token) (l : Lexer) : Lexer :=
  match l.openBlock? column with
  | some l => l.push start
  | none => l

/-! ## Directives and names -/

def spaces (c : Cursor) : Cursor :=
  c.skipWhile (· == ' ')

/-- A number in a version directive. -/
def versionNumber (c : Cursor) : Except Flaw (Cut Nat) :=
  let (digits, c) := c.takeWhile Decimal.isDigit
  if Decimal.mostDigits < digits.length then .error (.longVersion digits.length)
  else
    match Decimal.readNat? 10 digits with
    | some n => .ok (n, c)
    | none => .error .directive

/-- The handle of a tag: an exclamation mark, and perhaps a name and another mark. -/
def tagHandle (flaw : Flaw) (c : Cursor) : Except Flaw (Cut String) :=
  if !c.seesChar '!' then .error flaw
  else if (c.at? 1) == some ' ' then .ok ("!", c.next)
  else
    let (name, after) := c.next.takeWhile isNameChar
    if after.seesChar '!' then .ok (String.ofList ('!' :: name ++ ['!']), after.next)
    else .error flaw

/-- The characters of an address. -/
def isAddressChar (c : Char) : Bool :=
  isNameChar c || ";/?:@&=+$,.!~*'()[]".toList.contains c

/-- The bytes of escapes by two hexadecimal digits. -/
def addressBytes : Nat -> Cursor -> List UInt8 -> Except Unit (Cut (List UInt8))
  | 0, c, bytes => .ok (bytes, c)
  | fuel + 1, c, bytes =>
      if c.seesChar '%' then
        let digits := (c.rest.drop 1).take 2
        match digits.length, Decimal.readNat? 16 digits with
        | 2, some n => addressBytes fuel (c.advance 3) (bytes ++ [UInt8.ofNat n])
        | _, _ => .error ()
      else .ok (bytes, c)

/-- An address, its escapes resolved. -/
def address (flaw : Flaw) : Nat -> Cursor -> List Char -> Except Flaw (Cut (List Char))
  | 0, c, text => .ok (text, c)
  | fuel + 1, c, text =>
      if c.seesChar '%' then
        match addressBytes (c.rest.length + 1) c [] with
        | .ok (bytes, c) =>
            match String.fromUTF8? ⟨bytes.toArray⟩ with
            | some s => address flaw fuel c (text ++ s.toList)
            | none => .error flaw
        | .error _ => .error flaw
      else
        let (part, after) := c.takeWhile isAddressChar
        if part.isEmpty then .ok (text, c) else address flaw fuel after (text ++ part)

/-- An address that is not empty. -/
def nonemptyAddress (flaw : Flaw) (c : Cursor) : Except Flaw (Cut String) := do
  let (text, after) <- address flaw (c.rest.length + 1) c []
  if after.index = c.index then .error flaw else return (String.ofList text, after)

def directive (c : Cursor) : Except Flaw (Cut Directive) := do
  let (name, c) := c.next.takeWhile isNameChar
  if name.isEmpty || !c.endsSpaced then .error .directive
  let (d, c) <- match String.ofList name with
    | "YAML" => do
        let (major, c) <- versionNumber (spaces c)
        if !c.seesChar '.' then .error .directive
        let (minor, c) <- versionNumber c.next
        if c.endsSpaced then pure (Directive.version major minor, c) else .error .directive
    | "TAG" => do
        let (handle, c) <- tagHandle .directive (spaces c)
        if !c.seesChar ' ' then .error .directive
        let (expansion, c) <- nonemptyAddress .directive (spaces c)
        if c.endsSpaced then pure (Directive.handle handle expansion, c) else .error .directive
    | _ => pure (Directive.other, c.skipWhile fun ch => !isBreak ch)
  return (d, <- restOfLine .directive c)

/-- The name of an anchor or alias, behind its mark. -/
def anchorName (c : Cursor) : Except Flaw (Cut String) :=
  let (name, c) := c.next.takeWhile isNameChar
  let ends := c.endsWordAt 0 || c.sees fun ch => "?:,]\x7d%@\x60".toList.contains ch
  if name.isEmpty || !ends then .error .anchor else .ok (String.ofList name, c)

/-- Whether a mark stands between a place and the next space or break. -/
def hasSecondMark (cs : List Char) : Bool :=
  (cs.takeWhile fun ch => ch != ' ' && !isBreak ch).contains '!'

/-- A tag: in full between angle brackets, alone, or a handle and a rest. -/
def tag (c : Cursor) : Except Flaw (Cut Token) := do
  let (t, c) <-
    if (c.at? 1) == some '<' then do
      let (text, c) <- nonemptyAddress .tag (c.advance 2)
      if c.seesChar '>' then pure (Token.tag none text, c.next) else .error .tag
    else if c.endsWordAt 1 then pure (Token.tag none "!", c.next)
    else if hasSecondMark (c.rest.drop 1) then do
      let (handle, c) <- tagHandle .tag c
      let (rest, c) <- nonemptyAddress .tag c
      pure (Token.tag (some handle) rest, c)
    else do
      let (rest, c) <- nonemptyAddress .tag c.next
      pure (Token.tag (some "!") rest, c)
  if c.endsSpaced then return (t, c) else .error .tag

/-! ## One token -/

/-- A mark of a document, or a directive: it ends all blocks. -/
def boundary (t : Token) (after : Cursor) (l : Lexer) : Except Flaw Lexer := do
  let l <- (l.closeBlocks (-1)).dropPending
  return ((l.push t).allowKey false).moveTo after

def flowStart (t : Token) (l : Lexer) : Except Flaw Lexer := do
  let l <- l.notePending
  return ({ l with flow := l.flow + 1, keyAllowed := true }.push t).moveTo l.cursor.next

def flowEnd (t : Token) (l : Lexer) : Except Flaw Lexer :=
  if l.flow = 0 then .error .outOfPlace
  else do
    let l <- l.dropPending
    return ({ l with flow := l.flow - 1, keyAllowed := false }.push t).moveTo l.cursor.next

def comma (l : Lexer) : Except Flaw Lexer := do
  let l <- l.dropPending
  return ((l.allowKey true).push .comma).moveTo l.cursor.next

def entry (l : Lexer) : Except Flaw Lexer := do
  let l <-
    if l.flow != 0 then pure l
    else if l.keyAllowed then pure (l.openBlock l.cursor.column .blockSequenceStart)
    else .error .misplacedEntry
  let l <- l.dropPending
  return ((l.allowKey true).push .entry).moveTo l.cursor.next

def key (l : Lexer) : Except Flaw Lexer := do
  let l <-
    if l.flow != 0 then pure l
    else if l.keyAllowed then pure (l.openBlock l.cursor.column .blockMappingStart)
    else .error .misplacedKey
  let l <- l.dropPending
  return ((l.allowKey (l.flow = 0)).push .key).moveTo l.cursor.next

/-- A colon: it turns the pending key into a key, or it follows an explicit one. -/
def value (l : Lexer) : Except Flaw Lexer := do
  let l <- match l.pending.lookup l.flow with
    | some pending =>
        let opened? := if l.flow = 0 then l.openBlock? pending.column else none
        let front := if opened?.isSome then #[Token.blockMappingStart, .key] else #[Token.key]
        let l := opened?.getD l
        pure { l with
          pending := l.pending.filter fun p => p.1 != l.flow
          keyAllowed := false
          tokens := l.tokens.extract 0 pending.place ++ front
            ++ l.tokens.extract pending.place l.tokens.size }
    | none =>
        if l.flow != 0 then pure (l.allowKey false)
        else if l.keyAllowed then
          pure ((l.openBlock l.cursor.column .blockMappingStart).allowKey true)
        else .error .misplacedValue
  return (l.push .value).moveTo l.cursor.next

/-- A token that may be the start of a key. -/
def atom (read : Cursor -> Except Flaw (Cut Token)) (l : Lexer) : Except Flaw Lexer := do
  let l <- l.notePending
  let (t, c) <- read l.cursor
  return ((l.allowKey false).push t).moveTo c

def block (folded : Bool) (l : Lexer) : Except Flaw Lexer := do
  let l <- l.dropPending
  let (text, c) <- blockScalar folded l.indent l.cursor
  return ((l.allowKey true).push (.scalar (String.ofList text) false true)).moveTo c

def quoted (double : Bool) : Lexer -> Except Flaw Lexer :=
  atom fun c => do
    let (q, c) <- quotedScalar double c
    return (.scalar (String.ofList q.text) false q.sound, c)

def plain (l : Lexer) : Except Flaw Lexer := do
  let l <- l.notePending
  let ((text, broken), c) := plainScalar (l.flow != 0) (l.indent + 1) l.cursor
  return ((l.allowKey broken).push (.scalar (String.ofList text) true true)).moveTo c

/-- The characters that no plain scalar starts with. -/
def isIndicator (c : Char) : Bool :=
  "-?:,[]\x7b\x7d#&*!|>'\"%@\x60".toList.contains c

/-- Whether a plain scalar starts here. -/
def startsPlain (l : Lexer) (ch : Char) : Bool :=
  (!isIndicator ch && !isSpaceOrTab ch && !isBreak ch)
    || (!l.cursor.endsWordAt 1 && (ch == '-' || (l.flow = 0 && (ch == '?' || ch == ':'))))

/-- Moves over blanks, comments and line breaks to the next token. -/
def skipBlanks : Nat -> Lexer -> Lexer
  | 0, l => l
  | fuel + 1, l =>
      let c := spaces l.cursor
      let c := if c.seesChar '#' then c.skipWhile (fun ch => !isBreak ch) else c
      match c.takeBreak? with
      | some (_, c) => skipBlanks fuel { l with cursor := c, keyAllowed := l.keyAllowed || l.flow = 0 }
      | none => l.moveTo c

/-- Reads the token that starts with a character. -/
def readToken (ch : Char) (l : Lexer) : Except Flaw Lexer := do
  let c := l.cursor
  let spaced := l.flow != 0 || c.endsWordAt 1
  if ch == '%' && c.column = 0 then
    let l <- (l.closeBlocks (-1)).dropPending
    let (d, after) <- directive c
    return ((l.push (.directive d)).allowKey false).moveTo after
  else if c.column = 0 && c.seesMark '-' then l.boundary .documentStart (c.advance 3)
  else if c.column = 0 && c.seesMark '.' then l.boundary .documentEnd (c.advance 3)
  else if ch == '[' then l.flowStart .flowSequenceStart
  else if ch == '\x7b' then l.flowStart .flowMappingStart
  else if ch == ']' then l.flowEnd .flowSequenceEnd
  else if ch == '\x7d' then l.flowEnd .flowMappingEnd
  else if ch == ',' then l.comma
  else if ch == '-' && c.endsWordAt 1 then l.entry
  else if ch == '?' && spaced then l.key
  else if ch == ':' && spaced then l.value
  else if ch == '*' then l.atom fun c => do
    let (name, c) <- anchorName c
    return (.alias name, c)
  else if ch == '&' then l.atom fun c => do
    let (name, c) <- anchorName c
    return (.anchor name, c)
  else if ch == '!' then l.atom tag
  else if ch == '|' && l.flow = 0 then l.block false
  else if ch == '>' && l.flow = 0 then l.block true
  else if ch == '\'' then l.quoted false
  else if ch == '"' then l.quoted true
  else if l.startsPlain ch then l.plain
  else .error .strayCharacter

/-- Reads all tokens; what was read before a flaw is kept. -/
def readAll : Nat -> Lexer -> Array Token × Option Flaw
  | 0, l => (l.tokens, none)
  | fuel + 1, l =>
      let step : Except Flaw (Lexer × Bool) := do
        let l <- (l.skipBlanks (l.cursor.rest.length + 1)).dropStale
        let l := l.closeBlocks l.cursor.column
        match l.cursor.rest with
        | [] => return (<- (l.closeBlocks (-1)).dropPending, true)
        | ch :: _ => return (<- readToken ch l, false)
      match step with
      | .error flaw => (l.tokens, some flaw)
      | .ok (l, true) => (l.tokens, none)
      | .ok (l, false) => readAll fuel l

end Lexer

/-- Whether a character may stand in a text at all. -/
def isPrintable (c : Char) : Bool :=
  let n := c.toNat
  n == 0x9 || n == 0xa || n == 0xd || n == 0x85
    || (decide (0x20 <= n) && decide (n <= 0x7e))
    || (decide (0xa0 <= n) && decide (n <= 0xd7ff))
    || (decide (0xe000 <= n) && decide (n <= 0xfffd))
    || decide (0x10000 <= n)

/-- The tokens of a text, and the flaw that ends them if there is one. -/
def Token.read (text : String) : Array Token × Option Flaw :=
  let cs := text.toList
  if cs.all isPrintable then
    let c : Cursor := { rest := cs }
    let c := if c.sees isByteOrderMark then c.next else c
    Lexer.readAll (2 * cs.length + 2) { cursor := c }
  else (#[], some .unprintable)

end Clearance.Yaml
