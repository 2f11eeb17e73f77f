/-!
# Rules

A policy is an ordered list of rules with a default.  A rule covers names by its pattern and
applies when all its conditions hold.
-/

namespace Clearance

/-- How a condition compares. -/
inductive Operator where
  | equals | startsWith | endsWith | contains | regex | between
  deriving DecidableEq, Repr, Inhabited

namespace Operator

def all : List Operator := [.equals, .startsWith, .endsWith, .contains, .regex, .between]

def name : Operator -> String
  | .equals => "equals"
  | .startsWith => "starts_with"
  | .endsWith => "ends_with"
  | .contains => "contains"
  | .regex => "regex"
  | .between => "between"

/-- The joined spelling that is accepted beside the name. -/
def spelling? : Operator -> Option String
  | .startsWith => some "startsWith"
  | .endsWith => some "endsWith"
  | _ => none

/-- The operator with a name. -/
def ofName? (s : String) : Option Operator :=
  all.find? fun op => op.name == s

/-- The operator with a joined spelling. -/
def ofSpelling? (s : String) : Option Operator :=
  all.find? fun op => op.spelling? == some s

end Operator

/-- What a condition compares with: one text, or any of several. -/
inductive Operand where
  | one (s : String)
  | anyOf (options : List String)
  deriving DecidableEq, Repr, Inhabited

/-- The texts of an operand. -/
def Operand.options : Operand -> List String
  | .one s => [s]
  | .anyOf options => options

/-- A single predicate over the context of a request. -/
structure Condition where
  /-- The field that is read, unless `contextKey` names another one. -/
  kind : String
  operator : Operator
  operand : Operand
  contextKey : Option String := none
  deriving DecidableEq, Repr, Inhabited

/-- One line of a policy. -/
structure Rule where
  pattern : String
  allow : Bool
  conditions : List Condition := []
  /-- The reason given when the rule denies. -/
  reason : Option String := none
  deriving DecidableEq, Repr, Inhabited

/-- Rules in order, and what holds where none applies. -/
structure Policy where
  defaultAllow : Bool := false
  rules : List Rule := []
  deriving DecidableEq, Repr, Inhabited

end Clearance
