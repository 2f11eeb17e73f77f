import Clearance.Confirmation.Prompt
import Clearance.Confirmation.Service

/-!
# Handlers of confirmations

Whoever is asked when a confirmation is due: somebody who answers or fails in a known way, somebody
who never answers, a console, a service.  An answer may be preceded by work of its own kind.
-/

namespace Clearance.Confirmation

inductive Handler (Work : Type) where
  /-- Does some work and gives an answer, which counts by its truth. -/
  | answer (v : Value) (work : Work)
  | raising (r : Raised)
  | silent
  | console (default : Bool) (input : Prompt.Input)
  | service (s : Service)

/-- What can be seen of asking: the inquiries, and what was posted for them. -/
inductive Sight where
  | inquiry (i : Inquiry)
  | post (p : Post)
  deriving Inhabited

namespace Handler

variable {Work : Type}

/-- The work before the answer. -/
def work? : Handler Work -> Option Work
  | .answer _ work => some work
  | _ => none

/-- What comes of asking a handler, if anything does. -/
def ask (i : Inquiry) (h : Handler Work) : Option Reply × List Sight :=
  match h with
  | .answer v _ => (some (.answered v.isTruthy), [.inquiry i])
  | .raising r => (some r.reply, [.inquiry i])
  | .silent => (none, [.inquiry i])
  | .console default input =>
      let reply : Reply :=
        match (Prompt.ask default input i).1 with
        | .ok yes => .answered yes
        | .error f => .failed f.message
      (some reply, [.inquiry i])
  | .service s =>
      let (r, posts) := s.ask i
      let reply : Reply :=
        match r with
        | .ok yes => .answered yes
        | .error (.fault f) => (Raised.fault f).reply
        | .error (.misuse _ message) => .failed message
        | .error .unwritable => .failed "Unable to serialize unknown type"
      (some reply, .inquiry i :: posts.map Sight.post)

end Handler

/-- A time limit that has run out before anything starts. -/
def isOver (limit : Time.Amount) : Bool :=
  match limit with
  | .whole n => decide (n ≤ 0)
  | .real x => !((Binary64.zero false).lt x) && !x.isNaN

/-- Asks for a confirmation within a time limit; whoever never answers runs out of time. -/
def confirm {Work : Type} (handler? : Option (Handler Work)) (limit : Time.Amount)
    (unhandled : Unhandled) (i : Inquiry) : Outcome × List Sight :=
  match handler? with
  | none => (Outcome.ofUnhandled unhandled, [])
  | some h =>
      if isOver limit then (Outcome.ofReply .timedOut, [])
      else
        let (reply?, sights) := h.ask i
        (Outcome.ofReply (reply?.getD .timedOut), sights)

/-- A confirmation that is not asked of anybody who says yes is not approved. -/
theorem confirm_approved {Work : Type} {h : Handler Work} {limit : Time.Amount}
    {unhandled : Unhandled} {i : Inquiry}
    (approved : (confirm (some h) limit unhandled i).1 = .approved) :
    (h.ask i).1 = some (.answered true) := by
  unfold confirm at approved
  dsimp only at approved
  split at approved
  · simp [Outcome.ofReply] at approved
  · rw [Outcome.ofReply_eq_approved_iff] at approved
    revert approved
    generalize (h.ask i).1 = reply?
    cases reply? <;> simp

end Clearance.Confirmation
