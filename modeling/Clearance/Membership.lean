import Clearance.Decision

/-!
# Members of closed sets

Reads a value as a risk level, a scope, a filter: only the name of a member stands for it.
-/

namespace Clearance

/-- The value names no member of a set. -/
structure NoMember where
  set : String
  given : Value

def NoMember.message (f : NoMember) : String :=
  f.given.literal ++ " is not a valid " ++ f.set

/-- The member of a set that a value names. -/
def memberOf {α : Type} (set : String) (ofName? : String -> Option α) (v : Value) :
    Except NoMember α :=
  let member? :=
    match v with
    | .str s => ofName? s
    | _ => none
  match member? with
  | some a => .ok a
  | none => .error { set, given := v }

def RiskLevel.ofValue : Value -> Except NoMember RiskLevel :=
  memberOf "RiskLevel" RiskLevel.ofName?

def Scope.ofValue : Value -> Except NoMember Scope :=
  memberOf "PermissionScope" Scope.ofName?

def AuditFilter.ofValue : Value -> Except NoMember AuditFilter :=
  memberOf "AuditFilter" AuditFilter.ofName?

def Unhandled.ofValue : Value -> Except NoMember Unhandled :=
  memberOf "UnhandledConfirmation" Unhandled.ofName?

end Clearance
