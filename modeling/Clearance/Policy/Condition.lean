import Clearance.Decision
import Clearance.Policy.Rule
import Clearance.Regex.Matcher
import Clearance.Regex.Parser
import Clearance.Text.Affix

/-!
# Conditions

A condition compares one text, taken from the context of a request or from the clock, with its
operand.  It fails only if the text cannot be had or a pattern asks for too many repetitions; a
pattern that is malformed matches nothing.
-/

namespace Clearance

/-- What conditions are evaluated in: the context of a request and the time. -/
structure Circumstances where
  context : Context
  now : Timestamp

/-- Why a condition has no answer. -/
inductive ConditionFault where
  | noText (fault : Value.NoText)
  | pattern (fault : Regex.Fault)
  deriving DecidableEq, Repr

def ConditionFault.message : ConditionFault -> String
  | .noText fault => fault.message
  | .pattern fault => fault.message

namespace Condition

/-- The kind of condition that reads the clock. -/
def timeKind : String := "time"

/-- The kinds of condition that read the resource of a request. -/
def resourceKinds : List String := ["path", "resource"]

end Condition

/-- The text that a context value is compared as; nothing has the empty text. -/
def comparedText : Value -> Except Value.NoText String
  | .null => .ok ""
  | .bool b => .ok (if b then "true" else "false")
  | v => v.text

namespace Circumstances

/-- The text of a field; one that is missing is empty. -/
def field (c : Circumstances) (key : String) : Except Value.NoText String :=
  comparedText ((c.context.lookup key).getD .null)

/-- The resource of a request, or else its path. -/
def resource (c : Circumstances) : Except Value.NoText String :=
  match (c.context.lookup "resource").getD .null with
  | .null => c.field "path"
  | v => comparedText v

/-- The text that a condition compares. -/
def resolve (c : Circumstances) (condition : Condition) : Except Value.NoText String :=
  match condition.contextKey.filter (· != "") with
  | some key => c.field key
  | none =>
      if Condition.resourceKinds.contains condition.kind then c.resource
      else if condition.kind == Condition.timeKind then .ok c.now.timeOfDay
      else c.field condition.kind

end Circumstances

namespace Operator

/-- The order of texts by their characters. -/
def atMost (s t : String) : Bool :=
  !decide (t < s)

/--
Whether a time lies in a window, both ends included.  A window that starts later than it ends
wraps past midnight.
-/
def inWindow (start stop current : String) : Bool :=
  if stop < start then atMost start current || atMost current stop
  else atMost start current && atMost current stop

/-- Searches for any of the options as one pattern. -/
def searches (options : List String) (actual : String) : Except Regex.Fault Bool :=
  match Regex.parse ("|".intercalate options) with
  | .ok pattern => .ok (pattern.search actual)
  | .error .malformed => .ok false
  | .error fault => .error fault

/-- Compares the text that a condition resolves to. -/
def compare (actual : String) (condition : Condition) : Except Regex.Fault Bool :=
  match condition.operator with
  | .equals => .ok (condition.operand == .one actual)
  | .startsWith => .ok (condition.operand.options.any (Text.beginsWith actual))
  | .endsWith => .ok (condition.operand.options.any (Text.endsWith actual))
  | .contains => .ok (condition.operand.options.any (Text.holds actual))
  | .regex => searches condition.operand.options actual
  | .between =>
      match condition.operand with
      | .anyOf [start, stop] =>
          .ok (condition.kind == Condition.timeKind
            && inWindow start stop (String.ofList (actual.toList.take 5)))
      | _ => .ok false

end Operator

/-- Whether a condition holds. -/
def Condition.holds (c : Circumstances) (condition : Condition) : Except ConditionFault Bool :=
  match c.resolve condition with
  | .error fault => .error (.noText fault)
  | .ok actual => (Operator.compare actual condition).mapError .pattern

/-- Whether all conditions hold; the first that does not decides, and so does one that fails. -/
def Condition.allHold (c : Circumstances) : List Condition -> Except ConditionFault Bool
  | [] => .ok true
  | condition :: rest =>
      match condition.holds c with
      | .error fault => .error fault
      | .ok false => .ok false
      | .ok true => Condition.allHold c rest

end Clearance
