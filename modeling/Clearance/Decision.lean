import Clearance.Policy.Rule
import Clearance.Value

/-!
# Requests and decisions

A request asks for a permission in a context; a decision answers it and says which branch of the
procedure gave the answer.
-/

namespace Clearance

/-- The details of a request, each under a name. -/
abbrev Context := List (String × Value)

/-- The context as a dictionary value. -/
def Context.toValue (c : Context) : Value :=
  .dict (c.map fun (k, v) => (.str k, v))

structure Request where
  permission : String
  context : Context := []
  deriving Inhabited

/-- The branch of the decision procedure that decided. -/
inductive Source where
  | unknownPermission
  | temporaryGrant
  | limitedGrant
  | grant
  | confirmation
  | rule
  | default
  | error
  deriving DecidableEq, Repr, Inhabited

namespace Source

def all : List Source :=
  [ .unknownPermission, .temporaryGrant, .limitedGrant, .grant, .confirmation, .rule, .default,
    .error ]

def name : Source -> String
  | .unknownPermission => "unknown_permission"
  | .temporaryGrant => "temporary_grant"
  | .limitedGrant => "limited_grant"
  | .grant => "grant"
  | .confirmation => "confirmation"
  | .rule => "rule"
  | .default => "default"
  | .error => "error"

def ofName? (s : String) : Option Source :=
  all.find? fun source => source.name == s

theorem ofName?_name (source : Source) : ofName? source.name = some source := by
  cases source <;> decide

end Source

/-- The outcome of a request. -/
structure Decision where
  granted : Bool
  /-- The explanation of a denial. -/
  reason : Option String := none
  permission : String
  context : Context := []
  timestamp : Timestamp
  source : Source
  /-- When the temporary grant that approved runs out. -/
  expiresAt : Option Timestamp := none
  /-- The uses left on the limited grant that approved. -/
  remainingUses : Option Int := none
  /-- The rule that decided. -/
  rule : Option Rule := none
  deriving Inhabited

/-- The record of one decision in an audit trail. -/
structure AuditEntry where
  timestamp : Timestamp
  permission : String
  context : Context := []
  result : Decision
  deriving Inhabited

/-- The record of a decision as it is made. -/
def Decision.entry (d : Decision) : AuditEntry :=
  { timestamp := d.timestamp, permission := d.permission, context := d.context, result := d }

/-- Which entries of a trail are wanted. -/
inductive AuditFilter where
  | granted | denied
  deriving DecidableEq, Repr, Inhabited

namespace AuditFilter

def name : AuditFilter -> String
  | .granted => "granted"
  | .denied => "denied"

def ofName? (s : String) : Option AuditFilter :=
  [AuditFilter.granted, .denied].find? fun f => f.name == s

def accepts (f : AuditFilter) (e : AuditEntry) : Bool :=
  e.result.granted == (f == .granted)

end AuditFilter

/-- What a confirmation handler is shown. -/
structure Inquiry where
  permission : String
  risk : RiskLevel
  context : Context := []
  deriving Inhabited

/-- What happens when a confirmation is due and nobody can be asked. -/
inductive Unhandled where
  | deny | allow
  deriving DecidableEq, Repr, Inhabited

namespace Unhandled

def name : Unhandled -> String
  | .deny => "deny"
  | .allow => "allow"

def ofName? (s : String) : Option Unhandled :=
  [Unhandled.deny, .allow].find? fun u => u.name == s

end Unhandled

/-- The tunables of an engine. -/
structure Settings where
  confirmationTimeoutSeconds : Binary64 := Binary64.ofInt 60
  unhandledConfirmation : Unhandled := .deny
  seedBuiltinPermissions : Bool := true
  deriving Inhabited

/-- A catalog and a policy in bulk; a part that is left out stays as it is on import. -/
structure Config where
  permissions : Option (List Permission) := none
  policy : Option Policy := none
  deriving DecidableEq, Repr, Inhabited

end Clearance
