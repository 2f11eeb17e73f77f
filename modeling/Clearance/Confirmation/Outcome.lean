import Clearance.Fault

/-!
# Outcomes of a confirmation

Whoever is asked may answer, fail in many ways or never answer.  Only a clear yes approves; every
other reply refuses and says why.
-/

namespace Clearance.Confirmation

/-- What comes of asking. -/
inductive Reply where
  | answered (yes : Bool)
  | timedOut
  | cancelled
  | failed (message : String)
  deriving DecidableEq, Repr, Inhabited

inductive Outcome where
  | approved
  | refused (reason : String)
  deriving DecidableEq, Repr, Inhabited

/-! ## Reasons -/

def deniedReason : String := "User confirmation denied"
def timeoutReason : String := "User confirmation timed out"
def cancelledReason : String := "User confirmation cancelled"
def failedReason (message : String) : String := "User confirmation failed: " ++ message
def noHandlerReason : String := "Confirmation required but no handler is configured"

namespace Outcome

def ofReply : Reply -> Outcome
  | .answered true => .approved
  | .answered false => .refused deniedReason
  | .timedOut => .refused timeoutReason
  | .cancelled => .refused cancelledReason
  | .failed message => .refused (failedReason message)

/-- What is decided when nobody can be asked. -/
def ofUnhandled : Unhandled -> Outcome
  | .allow => .approved
  | .deny => .refused noHandlerReason

def isApproved : Outcome -> Bool
  | .approved => true
  | .refused _ => false

def reason? : Outcome -> Option String
  | .approved => none
  | .refused reason => some reason

theorem ofReply_eq_approved_iff (r : Reply) : ofReply r = .approved ↔ r = .answered true := by
  rcases r with (_ | _) | _ | _ | _ <;> simp [ofReply]

end Outcome

/-! ## Failures of a handler -/

/-- What a handler raises instead of an answer. -/
inductive Raised where
  | timeout
  | cancellation
  /-- A key that was looked for in vain; it is told as a literal. -/
  | missingKey (key : String)
  | other (message : String)
  | fault (f : Fault)
  deriving Inhabited

/-- What is made of a failure; running out of time is no failure of its own. -/
def Raised.reply : Raised -> Reply
  | .timeout => .timedOut
  | .cancellation => .cancelled
  | .missingKey key => .failed (Value.str key).literal
  | .other message => .failed message
  | .fault f =>
      match f.kind with
      | .confirmationTimeout .. => .timedOut
      | _ => .failed f.text

end Clearance.Confirmation
