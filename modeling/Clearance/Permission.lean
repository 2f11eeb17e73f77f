/-!
# Permissions

A permission is a named capability with the area it belongs to and the risk it carries.
-/

namespace Clearance

/-- The broad area that a permission belongs to. -/
inductive Scope where
  | tool | system | network | file | custom
  deriving DecidableEq, Repr, Inhabited

namespace Scope

def all : List Scope := [.tool, .system, .network, .file, .custom]

def name : Scope -> String
  | .tool => "tool"
  | .system => "system"
  | .network => "network"
  | .file => "file"
  | .custom => "custom"

def ofName? (s : String) : Option Scope :=
  all.find? fun scope => scope.name == s

theorem mem_all (scope : Scope) : scope ∈ all := by
  cases scope <;> decide

end Scope

/-- How much harm a permission can do. -/
inductive RiskLevel where
  | low | medium | high | critical
  deriving DecidableEq, Repr, Inhabited

namespace RiskLevel

def all : List RiskLevel := [.low, .medium, .high, .critical]

def name : RiskLevel -> String
  | .low => "low"
  | .medium => "medium"
  | .high => "high"
  | .critical => "critical"

def ofName? (s : String) : Option RiskLevel :=
  all.find? fun risk => risk.name == s

theorem mem_all (risk : RiskLevel) : risk ∈ all := by
  cases risk <;> decide

end RiskLevel

/-- A named capability that can be asked for. -/
structure Permission where
  name : String
  scope : Scope
  risk : RiskLevel
  /-- Whether an approval by a standing grant needs a confirmation as well. -/
  requiresConfirmation : Bool := false
  description : Option String := none
  parent : Option String := none
  deriving DecidableEq, Repr, Inhabited

end Clearance
