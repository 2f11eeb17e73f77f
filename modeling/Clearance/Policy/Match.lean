import Clearance.Policy.Condition
import Clearance.Policy.Pattern

/-!
# The rule that decides

The first rule in order whose pattern covers the name and whose conditions all hold.  A rule whose
conditions do not hold is skipped; it does not deny.
-/

namespace Clearance

/-- The rule that decided, with its place in the policy. -/
structure RuleMatch where
  rule : Rule
  index : Nat
  deriving Repr

namespace Rule

def defaultDenialReason : String := "Denied by policy rule"
def timeRestrictionReason : String := "Access denied due to time restriction"

/-- Whether some condition of a rule reads the clock. -/
def isTimed (r : Rule) : Bool :=
  r.conditions.any fun condition => condition.kind == Condition.timeKind

/-- The reason of a denial.  A rule that reads the clock always gives the time restriction. -/
def denialReason (r : Rule) : String :=
  if r.isTimed then timeRestrictionReason
  else (r.reason.filter (· != "")).getD defaultDenialReason

/-- Whether a rule applies to a name. -/
def applies (c : Circumstances) (name : String) (r : Rule) : Except ConditionFault Bool :=
  if Pattern.covers r.pattern name then Condition.allHold c r.conditions else .ok false

end Rule

namespace RuleMatch

def allowed (m : RuleMatch) : Bool :=
  m.rule.allow

/-- The reason that goes with the match; an allowance has none. -/
def reason (m : RuleMatch) : Option String :=
  if m.rule.allow then none else some m.rule.denialReason

end RuleMatch

namespace Policy

def defaultDenialReason : String := "denied by default policy"

/-- The first rule from an index on that applies. -/
def firstMatch (c : Circumstances) (name : String) :
    Nat -> List Rule -> Except ConditionFault (Option RuleMatch)
  | _, [] => .ok none
  | index, rule :: rest =>
      match rule.applies c name with
      | .error fault => .error fault
      | .ok true => .ok (some { rule, index })
      | .ok false => firstMatch c name (index + 1) rest

/-- The rule of a policy that decides. -/
def findMatch (p : Policy) (name : String) (c : Circumstances) :
    Except ConditionFault (Option RuleMatch) :=
  firstMatch c name 0 p.rules

end Policy

end Clearance
