import Clearance.Regex.Syntax
import Clearance.Text.Blank
import Clearance.Text.Case
import Clearance.Text.Digit
import Clearance.Text.Word

/-!
# Matching

Every node denotes a matcher: a function of a place in the text, the groups captured so far, and
what is to be matched afterwards.  It tries its choices in order and is done with the first after
which the rest matches too.
-/

namespace Clearance.Regex

/-- A captured group: where it was last opened, and where it was last closed with its text. -/
structure Group where
  index : Nat
  start : Nat
  finish : Option (Nat × List Char)

/-- A place in a text: what lies before it, nearest first, and what follows. -/
structure Place where
  position : Nat
  before : List Char
  after : List Char

def Place.next? (p : Place) : Option (Char × Place) :=
  match p.after with
  | [] => none
  | c :: rest =>
      some (c, { position := p.position + 1, before := c :: p.before, after := rest })

/-- The place a number of characters back, if there are as many. -/
def Place.back? : Place -> Nat -> Option Place
  | p, 0 => some p
  | p, n + 1 =>
      match p.before with
      | [] => none
      | c :: rest =>
          Place.back? { position := p.position - 1, before := rest, after := c :: p.after } n

structure State where
  place : Place
  groups : List Group

/-- What is left to match after a node. -/
abbrev Continuation := State -> Option State

abbrev Matcher := State -> Continuation -> Option State

/-! ## Characters -/

def Category.holds (ascii : Bool) (c : Char) : Category -> Bool
  | .digit => if ascii then c.isDigit else Text.isDecimal c
  | .space => if ascii then Text.isAsciiBlank c else Text.isBlank c
  | .word => if ascii then Text.isAsciiWord c else Text.isWord c

/-- The characters that count as the given one: itself, or all that differ in case only. -/
def variants (flags : Flags) (c : Char) : List Char :=
  if !flags.ignoreCase then [c]
  else if flags.ascii then [c, c.toLower, c.toUpper]
  else
    let low := Text.lower c
    (low :: Text.lowerSiblings low).flatMap Text.loweringTo

def Member.holds (flags : Flags) (cs : List Char) (c : Char) : Member -> Bool
  | .code n => cs.any fun d => d.toNat == n
  | .range low high => cs.any fun d => decide (low <= d.toNat) && decide (d.toNat <= high)
  | .category kind negated => kind.holds flags.ascii c != negated

/-- Takes one character that a test accepts. -/
def one (test : Char -> Bool) : Matcher := fun s k =>
  match s.place.next? with
  | some (c, place) => if test c then k { s with place } else none
  | none => none

def codeTest (flags : Flags) (n : Nat) (c : Char) : Bool :=
  (Member.code n).holds flags (variants flags c) c

def setTest (flags : Flags) (negated : Bool) (members : List Member) (c : Char) : Bool :=
  let cs := variants flags c
  members.any (fun m => m.holds flags cs c) != negated

/-! ## Places -/

def isWordAt (flags : Flags) (c : Option Char) : Bool :=
  (c.map fun c => Category.holds flags.ascii c .word).getD false

/-- Whether a place satisfies an anchor.  An empty text has no boundaries at all. -/
def Anchor.holds (flags : Flags) (p : Place) : Anchor -> Bool
  | .textStart => p.before.isEmpty
  | .textEnd => p.after.isEmpty
  | .lineStart => p.before.isEmpty || (flags.multiline && p.before.head? == some '\n')
  | .lineEnd =>
      p.after.isEmpty || p.after == ['\n'] || (flags.multiline && p.after.head? == some '\n')
  | .boundary =>
      isWordAt flags p.before.head? != isWordAt flags p.after.head?
  | .noBoundary =>
      !(p.before.isEmpty && p.after.isEmpty)
        && isWordAt flags p.before.head? == isWordAt flags p.after.head?

/-! ## Groups -/

def findGroup (index : Nat) (groups : List Group) : Option Group :=
  groups.find? fun g => g.index == index

def openGroup (index : Nat) (s : State) : State :=
  let finish := (findGroup index s.groups).bind Group.finish
  { s with groups := { index, start := s.place.position, finish } :: s.groups }

def closeGroup (index : Nat) (s : State) : State :=
  match findGroup index s.groups with
  | none => s
  | some g =>
      let stop := s.place.position
      let text := (s.place.before.take (stop - g.start)).reverse
      { s with groups := { g with finish := some (stop, text) } :: s.groups }

/-- The text of a group that is closed and was not opened again beyond its end. -/
def capturedText? (index : Nat) (groups : List Group) : Option (List Char) :=
  (findGroup index groups).bind fun g =>
    g.finish.bind fun (stop, text) => if g.start <= stop then some text else none

/-- The form in which the characters of a captured text are compared. -/
def compared (flags : Flags) (c : Char) : Char :=
  if !flags.ignoreCase then c else if flags.ascii then c.toLower else Text.lower c

/-- Takes a given text; without regard to case, only the lower-case forms must agree. -/
def literalRun (flags : Flags) : List Char -> Matcher
  | [], s, k => k s
  | c :: rest, s, k =>
      one (fun d => compared flags d == compared flags c) s fun s' => literalRun flags rest s' k

/-! ## Repetition -/

/--
The rest of a repetition after `count` rounds.  Rounds beyond the least count are tried only if
the round before them moved, so that the fuel (the least count and the length of the text that is
left) is never used up.
-/
def rounds (least : Nat) (most : Option Nat) (eager : Bool) (body : Matcher) :
    Nat -> Nat -> Option Nat -> Matcher
  | 0, _, _, _, _ => none
  | fuel + 1, count, last, s, k =>
      if count < least then
        body s fun s' => rounds least most eager body fuel (count + 1) last s' k
      else
        let here := s.place.position
        let mayGoOn := (most.map fun n => decide (count < n)).getD true && last != some here
        let more := fun (_ : Unit) =>
          if mayGoOn then
            body s fun s' => rounds least most eager body fuel (count + 1) (some here) s' k
          else none
        if eager then (more ()).orElse fun _ => k s
        else (k s).orElse more

/-- As many rounds as fit, none of which is given back. -/
def allRounds (least : Nat) (most : Option Nat) (body : Matcher) :
    Nat -> Nat -> State -> Option State
  | 0, _, _ => none
  | fuel + 1, count, s =>
      if (most.map fun n => decide (n <= count)).getD false then some s
      else
        match body s some with
        | none => if count < least then none else some s
        | some s' =>
            if least <= count && s'.place.position == s.place.position then some s'
            else allRounds least most body fuel (count + 1) s'

/-- The rounds that a repetition can make from a state. -/
def roundFuel (least : Nat) (s : State) : Nat :=
  least + s.place.after.length + 2

def repeatedMatcher (least : Nat) (most : Option Nat) (body : Matcher) : Greed -> Matcher
  | .greedy, s, k => rounds least most true body (roundFuel least s) 0 none s k
  | .lazy, s, k => rounds least most false body (roundFuel least s) 0 none s k
  | .possessive, s, k => (allRounds least most body (roundFuel least s) 0 s).bind k

/-! ## Nodes -/

/-- The matcher that a node denotes under the given options. -/
def Node.matcher : Node -> Flags -> Matcher
  | .empty, _ => fun s k => k s
  | .seq first second, flags => fun s k =>
      first.matcher flags s fun s' => second.matcher flags s' k
  | .alt left right, flags => fun s k =>
      (left.matcher flags s k).orElse fun _ => right.matcher flags s k
  | .code n, flags => one (codeTest flags n)
  | .notCode n, flags => one fun c => !codeTest flags n c
  | .any, flags => one fun c => flags.dotAll || c != '\n'
  | .set negated members, flags => one (setTest flags negated members)
  | .anchor a, flags => fun s k => if a.holds flags s.place then k s else none
  | .scoped add drop body, flags => body.matcher (flags.adjust add drop)
  | .capture index body, flags => fun s k =>
      body.matcher flags (openGroup index s) fun s' => k (closeGroup index s')
  | .repeated least most greed body, flags =>
      repeatedMatcher least most (body.matcher flags) greed
  | .atomic body, flags => fun s k => (body.matcher flags s some).bind k
  | .lookAhead negated body, flags => fun s k =>
      match body.matcher flags s some, negated with
      | some s', false => k { s with groups := s'.groups }
      | none, true => k s
      | _, _ => none
  | .lookBehind negated body, flags => fun s k =>
      let found? := (s.place.back? body.width.least).bind fun place =>
        body.matcher flags { s with place } some
      match found?, negated with
      | some s', false => k { s with groups := s'.groups }
      | none, true => k s
      | _, _ => none
  | .backreference index _, flags => fun s k =>
      match capturedText? index s.groups with
      | some text => literalRun flags text s k
      | none => none
  | .conditional index yes no _, flags => fun s k =>
      if (capturedText? index s.groups).isSome then yes.matcher flags s k
      else no.matcher flags s k

/-- Whether a pattern matches from a place on. -/
def Pattern.matchesAt (p : Pattern) (place : Place) : Bool :=
  (p.node.matcher p.flags { place, groups := [] } some).isSome

/-- Tries every place from the given one on. -/
def Pattern.searchFrom (p : Pattern) (position : Nat) (before : List Char) : List Char -> Bool
  | [] => p.matchesAt { position, before, after := [] }
  | c :: rest =>
      p.matchesAt { position, before, after := c :: rest }
        || p.searchFrom (position + 1) (c :: before) rest

/-- Whether a pattern matches somewhere in a text. -/
def Pattern.search (p : Pattern) (text : String) : Bool :=
  p.searchFrom 0 [] text.toList

end Clearance.Regex
