/-!
# Regular expressions

The syntax trees of patterns.  Characters are given by their code points, because a pattern may
name code points that no text holds.
-/

namespace Clearance.Regex

/-- The options that a pattern or a part of it is matched under. -/
structure Flags where
  ignoreCase : Bool := false
  multiline : Bool := false
  dotAll : Bool := false
  verbose : Bool := false
  /-- Classes and case cover ASCII only. -/
  ascii : Bool := false
  /-- Classes and case cover all scripts, said explicitly. -/
  unicode : Bool := false
  /-- An old option that forbids repetition. -/
  template : Bool := false
  deriving DecidableEq, Repr, Inhabited

namespace Flags

def union (f g : Flags) : Flags :=
  { ignoreCase := f.ignoreCase || g.ignoreCase
    multiline := f.multiline || g.multiline
    dotAll := f.dotAll || g.dotAll
    verbose := f.verbose || g.verbose
    ascii := f.ascii || g.ascii
    unicode := f.unicode || g.unicode
    template := f.template || g.template }

/-- Whether an option is in both. -/
def meets (f g : Flags) : Bool :=
  (f.ignoreCase && g.ignoreCase) || (f.multiline && g.multiline) || (f.dotAll && g.dotAll)
    || (f.verbose && g.verbose) || (f.ascii && g.ascii) || (f.unicode && g.unicode)
    || (f.template && g.template)

/-- Turns options on and off; choosing a script coverage replaces the one in force. -/
def adjust (f add drop : Flags) : Flags :=
  { ignoreCase := (f.ignoreCase || add.ignoreCase) && !drop.ignoreCase
    multiline := (f.multiline || add.multiline) && !drop.multiline
    dotAll := (f.dotAll || add.dotAll) && !drop.dotAll
    verbose := (f.verbose || add.verbose) && !drop.verbose
    ascii := add.ascii || (f.ascii && !add.unicode)
    unicode := add.unicode || (f.unicode && !add.ascii)
    template := f.template || add.template }

end Flags

/-- A class of characters. -/
inductive Category where
  | digit | space | word
  deriving DecidableEq, Repr

/-- A member of a character set. -/
inductive Member where
  | code (n : Nat)
  | range (low high : Nat)
  | category (c : Category) (negated : Bool)
  deriving DecidableEq, Repr

/-- A condition on a place in the text. -/
inductive Anchor where
  | lineStart | lineEnd | textStart | textEnd | boundary | noBoundary
  deriving DecidableEq, Repr

/-- How a repetition chooses among the counts that fit. -/
inductive Greed where
  | greedy | lazy | possessive
  deriving DecidableEq, Repr

/-- The least and the greatest length of the texts that a pattern matches. -/
structure Width where
  least : Nat
  greatest : Nat
  deriving DecidableEq, Repr

inductive Node where
  | empty
  | seq (first second : Node)
  | alt (left right : Node)
  | code (n : Nat)
  | notCode (n : Nat)
  | any
  | set (negated : Bool) (members : List Member)
  | anchor (a : Anchor)
  /-- A group that changes options for its body. -/
  | scoped (add drop : Flags) (body : Node)
  | capture (index : Nat) (body : Node)
  | repeated (least : Nat) (most : Option Nat) (greed : Greed) (body : Node)
  | atomic (body : Node)
  | lookAhead (negated : Bool) (body : Node)
  | lookBehind (negated : Bool) (body : Node)
  /-- The text of a group once more; the width is that of the group. -/
  | backreference (index : Nat) (width : Width)
  | conditional (index : Nat) (yes no : Node) (hasNo : Bool)
  deriving Repr

namespace Width

/-- Lengths are counted up to this one, which stands for no bound. -/
def limit : Nat := Nat.pow 2 64

def zero : Width := ⟨0, 0⟩
def one : Width := ⟨1, 1⟩

def add (v w : Width) : Width :=
  ⟨min (v.least + w.least) limit, min (v.greatest + w.greatest) limit⟩

def join (v w : Width) : Width :=
  ⟨min v.least w.least, max v.greatest w.greatest⟩

def times (w : Width) (least : Nat) (most : Option Nat) : Width :=
  let greatest :=
    match most with
    | none => if w.greatest = 0 then 0 else limit
    | some n => w.greatest * n
  ⟨min (w.least * least) limit, min greatest limit⟩

end Width

/-- The lengths that a pattern can match.  Conditions on a place take no room. -/
def Node.width : Node -> Width
  | .empty | .anchor _ | .lookAhead _ _ | .lookBehind _ _ => Width.zero
  | .seq first second => first.width.add second.width
  | .alt left right => left.width.join right.width
  | .code _ | .notCode _ | .any | .set _ _ => Width.one
  | .scoped _ _ body | .capture _ body | .atomic body => body.width
  | .repeated least most _ body => body.width.times least most
  | .backreference _ width => width
  | .conditional _ yes no hasNo =>
      if hasNo then yes.width.join no.width else ⟨0, yes.width.greatest⟩

/-- Whether every look back has one length, and repetition occurs only where it is allowed. -/
def Node.isSound (flags : Flags) : Node -> Bool
  | .empty | .code _ | .notCode _ | .any | .set _ _ | .anchor _ | .backreference _ _ => true
  | .seq first second => first.isSound flags && second.isSound flags
  | .alt left right => left.isSound flags && right.isSound flags
  | .scoped add drop body => body.isSound (flags.adjust add drop)
  | .capture _ body | .atomic body | .lookAhead _ body => body.isSound flags
  | .repeated _ _ _ body => !flags.template && body.isSound flags
  | .lookBehind _ body =>
      body.width.least == body.width.greatest && decide (body.width.least < Nat.pow 2 32)
        && body.isSound flags
  | .conditional _ yes no _ => yes.isSound flags && no.isSound flags

/-- A pattern that can be searched for. -/
structure Pattern where
  node : Node
  flags : Flags
  deriving Repr

end Clearance.Regex
