import Clearance.Engine.Session
import Clearance.Proofs.Engine.Check

/-!
# Checks from start to end

A check that is evaluated in a session is started, asks its handler if it waits, and is finished
with the reply; a handler that never answers lets it run out of time, or the check is cancelled.
The engine between start and end is whatever the handler's own operations make of it.
-/

namespace Clearance.Engine.Session

open Confirmation (Handler Outcome Reply Sight)

/-- The operations of a handler, done in order. -/
def working (depth : Nat) (ops : List Operation) (s : Session) : Session :=
  ops.foldl
    (fun s op =>
      let (r, s) := run depth op s
      { s with nested := s.nested ++ [r] })
    s

/--
A check of a request.  If its handler never answers, it runs out of time, or is cancelled if it is
to be interrupted.
-/
def evaluating (depth : Nat) (interrupted : Bool) (r : Request) (s : Session) :
    Except Failure Decision × Session :=
  alone (working depth) (if interrupted then abandoned else expired)
    (stageOf (.ok (s.engine.start r).1)) { s with engine := (s.engine.start r).2 }

theorem run_evaluate (depth : Nat) (r : Request) (interrupted : Bool) (s : Session) :
    run (depth + 1) (.evaluate r interrupted) s =
      ((evaluating depth interrupted r s).1.map Answer.decision,
        (evaluating depth interrupted r s).2) := rfl

/-- Checking data that make a request, with or without cancelling it, is checking the request. -/
theorem run_check {permission context : Value} {r : Request}
    (h : requestOf permission context = .ok r) (depth : Nat) (s : Session) :
    run (depth + 1) (.check permission context) s = run (depth + 1) (.evaluate r) s ∧
      run (depth + 1) (.checkCancel permission context) s =
        run (depth + 1) (.evaluate r true) s := by
  have hstart : s.startCheck permission context =
      (stageOf (.ok (s.engine.start r).1), { s with engine := (s.engine.start r).2 }) := by
    simp only [startCheck, on, startRaw, h]
  constructor
  · simp only [run, hstart]
    rfl
  · simp only [run, hstart]
    rfl

/-! ## Single stages -/

theorem asked_waiting (work : List Operation -> Session -> Session) (p : Pending)
    (s : Session) :
    asked work (.waiting p) s = (.replied p (s.consult work p).1, (s.consult work p).2) := rfl

theorem alone_expired (work : List Operation -> Session -> Session) (p : Pending)
    (s : Session) :
    alone work expired (.waiting p) s =
      (s.consult work p).2.finish p ((s.consult work p).1.getD .timedOut) := by
  unfold alone
  rw [asked_waiting]
  rcases s.consult work p with ⟨_ | reply, s'⟩ <;> rfl

theorem alone_abandoned (work : List Operation -> Session -> Session) (p : Pending)
    (s : Session) :
    alone work abandoned (.waiting p) s =
      match s.consult work p with
      | (some reply, s') => s'.finish p reply
      | (none, s') => s'.cancel p := by
  unfold alone
  rw [asked_waiting]
  rcases s.consult work p with ⟨_ | reply, s'⟩ <;> rfl

/-! ## Whole checks -/

/-- The session in which a check that waits is finished: its handler has done its work. -/
def consulted (depth : Nat) (r : Request) (i : Inquiry) (s : Session) : Session :=
  (({ s with engine := s.engine.weighed r }).consult (working depth)
    { request := r, inquiry := i }).2

/-- A session after it has stamped a finding and recorded the decision. -/
def recorded (r : Request) (f : Finding) (s : Session) : Session :=
  { s with engine := s.engine.settled (s.engine.stamped r f) }

theorem finish_of_readable {s : Session} (h : s.engine.clock.Readable) (p : Pending)
    (reply : Reply) :
    s.finish p reply =
      (.ok (s.engine.stamped p.request (Finding.ofOutcome (Outcome.ofReply reply))),
        s.recorded p.request (Finding.ofOutcome (Outcome.ofReply reply))) := by
  simp only [finish, on, Engine.finish_of_readable h]
  rfl

theorem cancel_of_readable {s : Session} (h : s.engine.clock.Readable) (p : Pending) :
    s.cancel p = (.error .cancelled, s.recorded p.request Finding.cancelled) := by
  simp only [cancel, on, Engine.cancel_of_readable h]
  rfl

/-- A check that needs no confirmation ends with what it finds, interrupted or not. -/
theorem evaluating_of_found {s : Session} (h : s.engine.clock.Readable) {r : Request}
    {f : Finding} (hfound : (s.engine.weigh r s.engine.clock.time).1 = .found f)
    (depth : Nat) (interrupted : Bool) :
    evaluating depth interrupted r s =
      (.ok ((s.engine.weighed r).stamped r f),
        ({ s with engine := s.engine.weighed r } : Session).recorded r f) := by
  unfold evaluating
  rw [start_of_found h hfound]
  cases interrupted <;> rfl

theorem evaluating_of_due {s : Session} (h : s.engine.clock.Readable) {r : Request}
    {i : Inquiry} (hdue : (s.engine.weigh r s.engine.clock.time).1 = .due i)
    (depth : Nat) (interrupted : Bool) :
    evaluating depth interrupted r s =
      alone (working depth) (if interrupted then abandoned else expired)
        (.waiting { request := r, inquiry := i }) { s with engine := s.engine.weighed r } := by
  unfold evaluating
  rw [start_of_due h hdue]
  rfl

theorem consult_weighed {s : Session} {handler : Handler (List Operation)}
    (hhandler : s.engine.handler? = some handler) (depth : Nat) (r : Request) (i : Inquiry) :
    ({ s with engine := s.engine.weighed r } : Session).consult (working depth)
        { request := r, inquiry := i } =
      ((handler.ask i).1, s.consulted depth r i) := by
  refine Prod.ext ?_ rfl
  have hweighed : (s.engine.weighed r).handler? = some handler := hhandler
  simp only [consult, hweighed]

/-- A check that is not interrupted ends with what comes of its confirmation. -/
theorem evaluating_false_of_due {s : Session} (h : s.engine.clock.Readable) {r : Request}
    {i : Inquiry} (hdue : (s.engine.weigh r s.engine.clock.time).1 = .due i)
    {depth : Nat} (hafter : (s.consulted depth r i).engine.clock.Readable) :
    evaluating depth false r s =
      (.ok ((s.consulted depth r i).engine.stamped r (.ofOutcome (s.engine.outcome i))),
        (s.consulted depth r i).recorded r (.ofOutcome (s.engine.outcome i))) := by
  obtain ⟨handler, hhandler⟩ := exists_handler_of_due hdue
  rw [evaluating_of_due h hdue]
  simp only [Bool.false_eq_true, if_false, alone_expired, consult_weighed hhandler,
    finish_of_readable hafter, outcome, hhandler]

/-- A check that is interrupted ends with the reply, or is cancelled if there is none. -/
theorem evaluating_true_of_due {s : Session} (h : s.engine.clock.Readable) {r : Request}
    {i : Inquiry} (hdue : (s.engine.weigh r s.engine.clock.time).1 = .due i)
    {handler : Handler (List Operation)} (hhandler : s.engine.handler? = some handler)
    {depth : Nat} (hafter : (s.consulted depth r i).engine.clock.Readable) :
    evaluating depth true r s =
      match (handler.ask i).1 with
      | some reply =>
          (.ok ((s.consulted depth r i).engine.stamped r (.ofOutcome (.ofReply reply))),
            (s.consulted depth r i).recorded r (.ofOutcome (.ofReply reply)))
      | none => (.error .cancelled, (s.consulted depth r i).recorded r Finding.cancelled) := by
  rw [evaluating_of_due h hdue]
  simp only [if_true, alone_abandoned, consult_weighed hhandler]
  cases (handler.ask i).1 with
  | none => exact cancel_of_readable hafter _
  | some reply => exact finish_of_readable hafter _ reply

end Clearance.Engine.Session
