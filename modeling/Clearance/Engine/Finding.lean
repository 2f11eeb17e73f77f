import Clearance.Catalog
import Clearance.Confirmation.Outcome
import Clearance.Grants
import Clearance.Policy.Match

/-!
# Findings

A lookup finds what is to be decided, or that somebody has to confirm it first.  A finding is all
of a decision but its time.
-/

namespace Clearance.Engine

open Confirmation (Outcome)

structure Finding where
  granted : Bool
  source : Source
  reason : Option String := none
  expiresAt : Option Timestamp := none
  remainingUses : Option Int := none
  rule : Option Rule := none
  deriving Inhabited

namespace Finding

/-- The decision at an instant. -/
def decision (r : Request) (instant : Timestamp) (f : Finding) : Decision :=
  { granted := f.granted
    reason := f.reason
    permission := r.permission
    context := r.context
    timestamp := instant
    source := f.source
    expiresAt := f.expiresAt
    remainingUses := f.remainingUses
    rule := f.rule }

def denial (source : Source) (reason : String) : Finding :=
  { granted := false, source, reason := some reason }

def unknown (name : String) : Finding :=
  denial .unknownPermission ("Unknown permission: " ++ name)

def rejected (message : String) : Finding :=
  denial .error ("Invalid permission check: " ++ message)

def failed (message : String) : Finding :=
  denial .error ("Permission check failed: " ++ message)

def cancelled : Finding :=
  denial .confirmation Confirmation.cancelledReason

def ofGrant (m : GrantMatch) : Finding :=
  { granted := true, source := m.source, expiresAt := m.expiresAt?, remainingUses := m.remaining? }

/-- A standing grant after it has been confirmed, or has not. -/
def ofOutcome : Outcome -> Finding
  | .approved => { granted := true, source := .grant }
  | .refused reason => denial .confirmation reason

def ofRule (m : RuleMatch) : Finding :=
  { granted := m.allowed, source := .rule, reason := m.reason, rule := some m.rule }

/-- What a policy decides where no rule applies. -/
def ofDefault (p : Policy) : Finding :=
  { granted := p.defaultAllow
    source := .default
    reason := if p.defaultAllow then none else some Policy.defaultDenialReason }

/-- What a policy decides. -/
def ofPolicy (p : Policy) (r : Request) (now : Timestamp) : Except ConditionFault Finding := do
  match <- p.findMatch r.permission { context := r.context, now } with
  | some m => return ofRule m
  | none => return ofDefault p

end Finding

/-- What a lookup comes to. -/
inductive Lookup where
  | found (f : Finding)
  /-- The standing grant needs to be confirmed. -/
  | due (i : Inquiry)
  deriving Inhabited

/--
Looks up a permission that is registered: a grant decides before the policy does, and is used up
by that.
-/
def lookup (p : Permission) (policy : Policy) (r : Request) (now : Timestamp) (g : Grants) :
    Except ConditionFault Lookup × Grants :=
  match g.consume r.permission now with
  | (none, g) => ((Finding.ofPolicy policy r now).map Lookup.found, g)
  | (some m, g) =>
      if m.source = .grant && p.requiresConfirmation then
        (.ok (.due { permission := r.permission, risk := p.risk, context := r.context }), g)
      else (.ok (.found (Finding.ofGrant m)), g)

end Clearance.Engine
