import Clearance.Decimal.Layout
import Clearance.Decimal.Reading
import Clearance.Regex.Syntax
import Clearance.Text.Identifier
import Clearance.Text.Names
import Clearance.Text.Numeral

/-!
# Reading patterns

A pattern is cut into tokens, a backslash going with the character behind it, and read by
recursive descent.  Every step takes a token, so the number of tokens bounds the depth; it is the
fuel of the reader.
-/

namespace Clearance.Regex

/-- Why a text is no pattern. -/
inductive Fault where
  /-- It does not follow the grammar or a rule on groups, widths or options. -/
  | malformed
  /-- A repetition count is too large to be kept. -/
  | repetitionTooLarge
  /-- A repetition count has too many digits to be read. -/
  | countTooLong (digits : Nat)
  /-- Both coverages of scripts are asked for. -/
  | scriptClash
  deriving DecidableEq, Repr

def Fault.message : Fault -> String
  | .malformed => "malformed pattern"
  | .repetitionTooLarge => "the repetition number is too large"
  | .countTooLong digits => Decimal.longNumberText digits
  | .scriptClash => "ASCII and UNICODE flags are incompatible"

inductive Token where
  | plain (c : Char)
  | escaped (c : Char)
  /-- A backslash with nothing behind it. -/
  | dangling
  deriving DecidableEq, Repr

def tokenize : List Char -> List Token
  | [] => []
  | ['\\'] => [.dangling]
  | '\\' :: c :: rest => .escaped c :: tokenize rest
  | c :: rest => .plain c :: tokenize rest

/-- What the reader knows: the tokens ahead, the options so far, and the groups. -/
structure Reader where
  tokens : List Token
  flags : Flags := {}
  /-- The widths of the groups in order; a group still open has none. -/
  groups : List (Option Width) := []
  names : List (String × Nat) := []
  /-- In a look back, the number of groups opened before it. -/
  behind : Option Nat := none
  /-- The groups that conditions ask about by number. -/
  asked : List Nat := []

abbrev Reading := StateT Reader (Except Fault)

namespace Reading

def malformed {α : Type} : Reading α :=
  throw .malformed

/-- Refuses to have a lone backslash ahead. -/
def guardAhead : Reading Unit := do
  if let .dangling :: _ := (<- get).tokens then malformed

def peek : Reading (Option Token) := do
  return (<- get).tokens.head?

def advance : Reading Unit := do
  modify fun r => { r with tokens := r.tokens.drop 1 }
  guardAhead

def take : Reading (Option Token) := do
  let t <- peek
  advance
  return t

/-- Takes a given character if it is ahead. -/
def accept (c : Char) : Reading Bool := do
  if (<- peek) == some (.plain c) then
    advance
    return true
  else return false

def expect (c : Char) : Reading Unit := do
  unless (<- accept c) do malformed

/-- Takes up to `n` characters that a test accepts. -/
def takeUpTo (test : Char -> Bool) : Nat -> Reading (List Char)
  | 0 => return []
  | n + 1 => do
      match <- peek with
      | some (.plain c) =>
          if test c then
            advance
            return c :: (<- takeUpTo test n)
          else return []
      | _ => return []

/-- Takes everything up to a closing character, which must come, and takes that too. -/
def takeName (close : Char) : Nat -> Reading (List Char)
  | 0 => malformed
  | fuel + 1 => do
      match <- take with
      | none | some .dangling => malformed
      | some (.plain c) => if c = close then return [] else return c :: (<- takeName close fuel)
      | some (.escaped c) => return '\\' :: c :: (<- takeName close fuel)

def fuel : Reading Nat := do
  return (<- get).tokens.length + 1

/-- A name that is not empty, up to its closing character. -/
def nonemptyName (close : Char) : Reading (List Char) := do
  let name <- takeName close (<- fuel)
  if name.isEmpty then malformed else return name

def liftOption {α : Type} : Option α -> Reading α
  | some a => return a
  | none => malformed

/-! ## Groups -/

def openGroup (name : Option String) : Reading Nat := do
  let r <- get
  let index := r.groups.length + 1
  if let some n := name then
    if (r.names.lookup n).isSome then malformed
  set { r with
    groups := r.groups ++ [none]
    names := match name with
      | some n => (n, index) :: r.names
      | none => r.names }
  return index

def closeGroup (index : Nat) (width : Width) : Reading Unit :=
  modify fun r => { r with groups := r.groups.set (index - 1) (some width) }

/-- The width of a group that is closed. -/
def closedWidth? (r : Reader) (index : Nat) : Option Width :=
  if index = 0 then none else (r.groups[index - 1]?).join

/-- In a look back, refuses groups that are open or belong to the look back itself. -/
def checkBehind (index : Nat) : Reading Unit := do
  let r <- get
  if let some before := r.behind then
    if (closedWidth? r index).isNone || before < index then malformed

/-- A reference back to a closed group. -/
def backreference (index : Nat) : Reading Node := do
  match closedWidth? (<- get) index with
  | none => malformed
  | some width =>
      checkBehind index
      return .backreference index width

/-! ## Escapes -/

def isOctal (c : Char) : Bool :=
  '0' <= c && c <= '7'

def number (base : Nat) (cs : List Char) : Nat :=
  (Decimal.readNat? base cs).getD 0

def controlEscape? (c : Char) : Option Nat :=
  match c with
  | 'a' => some 7
  | 'f' => some 12
  | 'n' => some 10
  | 'r' => some 13
  | 't' => some 9
  | 'v' => some 11
  | '\\' => some 92
  | _ => none

def categoryEscape? (c : Char) : Option Member :=
  match c with
  | 'd' => some (.category .digit false)
  | 'D' => some (.category .digit true)
  | 's' => some (.category .space false)
  | 'S' => some (.category .space true)
  | 'w' => some (.category .word false)
  | 'W' => some (.category .word true)
  | _ => none

def anchorEscape? (c : Char) : Option Anchor :=
  match c with
  | 'A' => some .textStart
  | 'b' => some .boundary
  | 'B' => some .noBoundary
  | 'Z' => some .textEnd
  | _ => none

/-- A code point in exactly `n` digits of base sixteen. -/
def hexCode (n : Nat) : Reading Nat := do
  let digits <- takeUpTo Decimal.isHexDigit n
  if digits.length = n then return number 16 digits else malformed

/-- The escapes for a code point that sets and expressions share, if the letter opens one. -/
def codeEscape? (c : Char) : Reading (Option Nat) := do
  if c = 'x' then return some (<- hexCode 2)
  else if c = 'u' then return some (<- hexCode 4)
  else if c = 'U' then
    let code <- hexCode 8
    if 0x10ffff < code then malformed else return some code
  else if c = 'N' then
    expect '\x7b'
    let name <- nonemptyName '\x7d'
    return some (<- liftOption (Text.codeOfName? name))
  else return none

/-- An octal value of at most three digits, which must fit into a byte. -/
def octalCode (digits : List Char) : Reading Nat :=
  let code := number 8 digits
  if 0o377 < code then malformed else return code

/-- An escape inside a character set. -/
def setEscape (c : Char) : Reading Member := do
  if c = 'b' then return .code 8
  if let some code := controlEscape? c then return .code code
  if let some m := categoryEscape? c then return m
  if let some code := <- codeEscape? c then return .code code
  if isOctal c then
    return .code (<- octalCode (c :: (<- takeUpTo isOctal 2)))
  if c.isDigit || c.isAlpha then malformed
  return .code c.toNat

/-- A digit other than zero: an octal value of three digits, or a group of one or two digits. -/
def digitEscape (c : Char) : Reading Node := do
  let more <- takeUpTo Char.isDigit 1
  match more with
  | [d] =>
      if isOctal c && isOctal d then
        match <- takeUpTo isOctal 1 with
        | [e] => return .code (<- octalCode [c, d, e])
        | _ => backreference (number 10 [c, d])
      else backreference (number 10 [c, d])
  | _ => backreference (number 10 [c])

/-- An escape outside character sets. -/
def escape (c : Char) : Reading Node := do
  if let some a := anchorEscape? c then return .anchor a
  if let some m := categoryEscape? c then return .set false [m]
  if let some code := controlEscape? c then return .code code
  if let some code := <- codeEscape? c then return .code code
  if c = '0' then
    return .code (number 8 (c :: (<- takeUpTo isOctal 2)))
  if c.isDigit then return <- digitEscape c
  if c.isAlpha then malformed
  return .code c.toNat

/-! ## Character sets -/

/-- A token as a member of a set. -/
def setMember : Token -> Reading Member
  | .plain c => return .code c.toNat
  | .escaped c => setEscape c
  | .dangling => malformed

/-- The members of a set up to its bracket; a bracket in the first place is a member. -/
def setMembers : Nat -> List Member -> Reading (List Member)
  | 0, _ => malformed
  | fuel + 1, acc => do
      let t <- liftOption (<- take)
      if t == .plain ']' && !acc.isEmpty then return acc.reverse
      let first <- setMember t
      if <- accept '-' then
        let u <- liftOption (<- take)
        if u == .plain ']' then return (.code '-'.toNat :: first :: acc).reverse
        match first, <- setMember u with
        | .code low, .code high =>
            if high < low then malformed
            else setMembers fuel (.range low high :: acc)
        | _, _ => malformed
      else setMembers fuel (first :: acc)

/-- A set behind its opening bracket. -/
def charSet : Reading Node := do
  let negated <- accept '^'
  let members <- setMembers (<- fuel) []
  match members with
  | [.code n] => return if negated then .notCode n else .code n
  | _ => return .set negated members

/-! ## Repetition -/

/-- The least count that is too large to be kept. -/
def countLimit : Nat := 4294967295

/-- Reads a count. -/
def count (digits : List Char) : Reading Nat := do
  if 4300 < digits.length then throw (.countTooLong digits.length)
  let n := number 10 digits
  if countLimit <= n then throw .repetitionTooLarge
  return n

/-- The bounds in braces behind the opening one, or nothing if this is no repetition. -/
def bounds? : Reading (Option (Nat × Option Nat)) := do
  let start <- get
  if (<- peek) == some (.plain '\x7d') then return none
  let low <- takeUpTo Char.isDigit (<- fuel)
  let high <- if <- accept ',' then takeUpTo Char.isDigit (<- fuel) else pure low
  if !(<- accept '\x7d') then
    set start
    return none
  let least <- if low.isEmpty then pure 0 else count low
  if high.isEmpty then return some (least, none)
  let most <- count high
  if most < least then malformed
  return some (least, some most)

/-- The bounds that a repetition character stands for. -/
def repetition? (c : Char) : Reading (Option (Nat × Option Nat)) := do
  match c with
  | '?' => return some (0, some 1)
  | '*' => return some (0, none)
  | '+' => return some (1, none)
  | _ => bounds?

def greed : Reading Greed := do
  if <- accept '?' then return .lazy
  if <- accept '+' then return .possessive
  return .greedy

/-- Repeats the item read last; anchors and repetitions cannot be repeated. -/
def repeatLast (bounds : Nat × Option Nat) (items : List Node) : Reading (List Node) := do
  match items with
  | [] => malformed
  | item :: rest =>
      match item with
      | .anchor _ | .repeated .. => malformed
      | _ => return .repeated bounds.1 bounds.2 (<- greed) item :: rest

/-! ## Options -/

/-- Adds the option of a letter. -/
def addFlag (f : Flags) (c : Char) : Option Flags :=
  match c with
  | 'i' => some { f with ignoreCase := true }
  | 'm' => some { f with multiline := true }
  | 's' => some { f with dotAll := true }
  | 'x' => some { f with verbose := true }
  | 'a' => if f.unicode then none else some { f with ascii := true }
  | 'u' => if f.ascii then none else some { f with unicode := true }
  | 't' => some { f with template := true }
  | _ => none

/-- Letters of options from a first one on, up to a character that is none. -/
def flagLetters : Nat -> Flags -> Char -> Reading (Flags × Char)
  | 0, _, _ => malformed
  | fuel + 1, f, c => do
      let f <- liftOption (addFlag f c)
      match <- take with
      | some (.plain d) =>
          if d = ')' || d = '-' || d = ':' then return (f, d) else flagLetters fuel f d
      | _ => malformed

/-- Options that hold for the whole pattern, or the ones a group turns on and off. -/
inductive FlagGroup where
  | whole (f : Flags)
  | scoped (add drop : Flags)

/-- The options behind the question mark, the first character being taken already. -/
def flagGroup (c : Char) : Reading FlagGroup := do
  let (add, stop) <- if c = '-' then pure ({}, c) else flagLetters (<- fuel) {} c
  if stop = ')' then return .whole add
  if add.template then malformed
  if stop = ':' then return .scoped add {}
  match <- take with
  | some (.plain d) =>
      let (drop, stop) <- flagLetters (<- fuel) {} d
      if stop != ':' || drop.ascii || drop.unicode || drop.template || add.meets drop then malformed
      return .scoped add drop
  | _ => malformed

/-! ## Expressions -/

/-- The items of a sequence as one node. -/
def sequence (items : List Node) : Node :=
  items.foldr Node.seq Node.empty

/-- Skips a comment up to the end of its line. -/
def skipLine : Nat -> Reading Unit
  | 0 => return ()
  | fuel + 1 => do
      match <- take with
      | none | some (.plain '\n') => return ()
      | _ => skipLine fuel

/-- Skips a comment in parentheses. -/
def skipComment : Nat -> Reading Unit
  | 0 => malformed
  | fuel + 1 => do
      match <- take with
      | none => malformed
      | some (.plain ')') => return ()
      | _ => skipComment fuel

/-- The group that a condition asks about, by name or by number. -/
def conditionGroup (name : List Char) : Reading Nat := do
  if Text.isIdentifier name then
    liftOption ((<- get).names.lookup (String.ofList name))
  else
    let number <- liftOption (Text.numeral? name)
    let index := number.toNat
    if number <= 0 || 1073741823 <= index then malformed
    modify fun r => { r with asked := index :: r.asked }
    return index

def isVerboseBlank (c : Char) : Bool :=
  c == ' ' || c == '\t' || c == '\n' || c == '\r' || c == '\x0b' || c == '\x0c'

/-- How a group is opened, as far as its characters say. -/
inductive Opening where
  | comment
  | node (n : Node)
  | lookAhead (negated : Bool)
  | lookBehind (negated : Bool)
  | condition (index : Nat)
  | plain
  | named (name : String)
  | atomic
  | whole (f : Flags)
  | scoped (add drop : Flags)

def groupName (close : Char) : Reading String := do
  let name <- nonemptyName close
  if Text.isIdentifier name then return String.ofList name else malformed

/-- Reads what stands behind an opening parenthesis and its question mark. -/
def opening : Reading Opening := do
  match <- take with
  | some (.plain 'P') =>
      if <- accept '<' then return .named (<- groupName '>')
      if <- accept '=' then
        let name <- groupName ')'
        let index <- liftOption ((<- get).names.lookup name)
        return .node (<- backreference index)
      malformed
  | some (.plain ':') => return .scoped {} {}
  | some (.plain '#') =>
      skipComment (<- fuel)
      return .comment
  | some (.plain '=') => return .lookAhead false
  | some (.plain '!') => return .lookAhead true
  | some (.plain '<') =>
      if <- accept '=' then return .lookBehind false
      if <- accept '!' then return .lookBehind true
      malformed
  | some (.plain '(') =>
      let index <- conditionGroup (<- nonemptyName ')')
      checkBehind index
      return .condition index
  | some (.plain '>') => return .atomic
  | some (.plain c) =>
      if c = '-' || (addFlag {} c).isSome then
        match <- flagGroup c with
        | .whole f => return .whole f
        | .scoped add drop => return .scoped add drop
      else malformed
  | _ => malformed

mutual

/-- Alternatives up to a closing parenthesis or the end. -/
def alternatives : Nat -> Bool -> Bool -> Bool -> Reading Node
  | 0, _, _, _ => malformed
  | fuel + 1, verbose, outermost, first => do
      let item <- items fuel verbose (outermost && first) []
      if <- accept '|' then
        let r <- get
        let verbose := if outermost then r.flags.verbose else verbose
        return .alt item (<- alternatives fuel verbose outermost false)
      else return item

/--
A sequence up to a bar, a closing parenthesis or the end.  Options for the whole pattern may
stand only before the first item of the first alternative.
-/
def items : Nat -> Bool -> Bool -> List Node -> Reading Node
  | 0, _, _, _ => malformed
  | fuel + 1, verbose, first, acc => do
      match <- peek with
      | none | some (.plain '|') | some (.plain ')') => return sequence acc.reverse
      | some .dangling => malformed
      | some (.escaped c) =>
          advance
          items fuel verbose first ((<- escape c) :: acc)
      | some (.plain c) =>
          advance
          if verbose && isVerboseBlank c then items fuel verbose first acc
          else if verbose && c = '#' then
            skipLine (<- Reading.fuel)
            items fuel verbose first acc
          else if c = '[' then items fuel verbose first ((<- charSet) :: acc)
          else if c = '.' then items fuel verbose first (.any :: acc)
          else if c = '^' then items fuel verbose first (.anchor .lineStart :: acc)
          else if c = '$' then items fuel verbose first (.anchor .lineEnd :: acc)
          else if c = '*' || c = '+' || c = '?' || c = '\x7b' then
            match <- repetition? c with
            | none => items fuel verbose first (.code c.toNat :: acc)
            | some bounds => items fuel verbose first (<- repeatLast bounds acc)
          else if c = '(' then
            let how <- if <- accept '?' then opening else pure .plain
            match how with
            | .comment => items fuel verbose first acc
            | .whole f =>
                modify fun r => { r with flags := r.flags.union f }
                if !first || !acc.isEmpty then malformed
                items fuel (<- get).flags.verbose first acc
            | _ => items fuel verbose first ((<- group fuel verbose how) :: acc)
          else items fuel verbose first (.code c.toNat :: acc)

/-- The rest of a group behind its opening. -/
def group : Nat -> Bool -> Opening -> Reading Node
  | 0, _, _ => malformed
  | fuel + 1, verbose, how => do
      match how with
      | .node n => return n
      | .lookAhead negated =>
          let body <- alternatives fuel verbose false false
          expect ')'
          return .lookAhead negated body
      | .lookBehind negated =>
          let outer := (<- get).behind
          if outer.isNone then modify fun r => { r with behind := some r.groups.length }
          let body <- alternatives fuel verbose false false
          if outer.isNone then modify fun r => { r with behind := none }
          expect ')'
          return .lookBehind negated body
      | .condition index =>
          let yes <- items fuel verbose false []
          let hasNo <- accept '|'
          let no <- if hasNo then items fuel verbose false [] else pure .empty
          expect ')'
          return .conditional index yes no hasNo
      | .atomic =>
          let body <- alternatives fuel verbose false false
          expect ')'
          return .atomic body
      | .scoped add drop =>
          let body <- alternatives fuel ((verbose || add.verbose) && !drop.verbose) false false
          expect ')'
          return .scoped add drop body
      | .plain | .named _ =>
          let index <- openGroup (match how with
            | .named name => some name
            | _ => none)
          let body <- alternatives fuel verbose false false
          expect ')'
          closeGroup index body.width
          return .capture index body
      | .comment | .whole _ => malformed

end

/-- Reads a whole pattern and checks what can be checked only at its end. -/
def pattern : Reading Pattern := do
  guardAhead
  let node <- alternatives (2 * (<- fuel) + 2) false true true
  let r <- get
  if r.flags.ascii && r.flags.unicode then throw .scriptClash
  unless r.tokens.isEmpty do malformed
  if r.asked.any fun index => decide (r.groups.length < index) then malformed
  if node.isSound r.flags then return { node, flags := r.flags } else malformed

end Reading

/-- Reads a pattern. -/
def parse (text : String) : Except Fault Pattern :=
  (Reading.pattern.run { tokens := tokenize text.toList }).map Prod.fst

end Clearance.Regex
