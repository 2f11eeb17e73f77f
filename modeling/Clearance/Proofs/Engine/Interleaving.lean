import Clearance.Engine.Management
import Clearance.Proofs.Engine.Check

/-!
# Checks that interleave

Several checks may be under way on one engine.  Each is started, which looks it up, and is finished
or cancelled later if it has to wait; in between come other checks and operations of any kind, also
those of handlers.  A run is a list of events in whatever order they happen, and each transition of
it is kept with the state before it.
-/

namespace Clearance.Engine

open Confirmation (Outcome)

/-- A check that has been started: it waits, or has come to an end. -/
inductive Check where
  | waiting (p : Pending)
  | ended (r : Except ClockFault Decision)
  /-- It was cancelled while it waited, and that was recorded. -/
  | cancelled (r : Except ClockFault Decision)

/-- What a check waits with. -/
def Check.pending? : Check -> Option Pending
  | .waiting p => some p
  | _ => none

/-- An engine with the checks that were started on it, in the order of their starts. -/
structure Traffic (Work : Type) where
  engine : Engine Work
  checks : List Check := []

/-- What may happen to an engine at one time. -/
inductive Event (Work : Type) where
  | start (r : Request)
  /-- A check of any data. -/
  | submit (permission context : Value)
  /-- The check at a place, which waits, learns what came of its confirmation. -/
  | finish (place : Nat) (o : Outcome)
  /-- The check at a place, which waits, is cancelled. -/
  | cancel (place : Nat)
  | manage (m : Management Work)
  | clearGrants

variable {Work : Type}

/-- The request that an event looks up. -/
def Event.request? : Event Work -> Option Request
  | .start r => some r
  | .submit permission context => (requestOf permission context).toOption
  | _ => none

namespace Traffic

/-- The check at a place, if it waits. -/
def waiting? (place : Nat) (t : Traffic Work) : Option Pending :=
  t.checks[place]?.bind Check.pending?

/-- What a check gives that has just been started. -/
def begin (x : Progress × Engine Work) (t : Traffic Work) :
    Option (Except ClockFault Decision) × Traffic Work :=
  match x with
  | (.ended r, e) => (some r, { engine := e, checks := t.checks ++ [.ended r] })
  | (.waiting p, e) => (none, { engine := e, checks := t.checks ++ [.waiting p] })

/-- One event.  If a check comes to its end in it, what is decided is given. -/
def step (ev : Event Work) (t : Traffic Work) :
    Option (Except ClockFault Decision) × Traffic Work :=
  match ev with
  | .start r => t.begin (t.engine.start r)
  | .submit permission context =>
      match t.engine.startRaw permission context with
      | (.ok p, e) => t.begin (p, e)
      | (.error _, e) => (none, { t with engine := e })
  | .finish place o =>
      match t.waiting? place with
      | some p =>
          let (r, e) := t.engine.finish p o
          (some r, { engine := e, checks := t.checks.set place (.ended r) })
      | none => (none, t)
  | .cancel place =>
      match t.waiting? place with
      | some p =>
          let (r, e) := t.engine.cancel p
          (some r, { engine := e, checks := t.checks.set place (.cancelled r) })
      | none => (none, t)
  | .manage m => (none, { t with engine := (t.engine.manage m).2 })
  | .clearGrants => (none, { t with engine := { t.engine with grants := .empty } })

/-- The state after a run. -/
def run (events : List (Event Work)) (t : Traffic Work) : Traffic Work :=
  events.foldl (fun t ev => (t.step ev).2) t

end Traffic

/-- One event of a run, in the state in which it happens. -/
structure Transition (Work : Type) where
  before : Traffic Work
  event : Event Work

namespace Transition

def after (tr : Transition Work) : Traffic Work :=
  (tr.before.step tr.event).2

/-- What is decided, if a check comes to its end. -/
def decided? (tr : Transition Work) : Option Decision :=
  match (tr.before.step tr.event).1 with
  | some (.ok d) => some d
  | _ => none

end Transition

namespace Traffic

/-- The transitions of a run in order. -/
def transitions : List (Event Work) -> Traffic Work -> List (Transition Work)
  | [], _ => []
  | ev :: rest, t => { before := t, event := ev } :: transitions rest (t.step ev).2

end Traffic

/-! ## Moves -/

/--
What may come of an event on a clock that can be read: the decision that is made in it, if a check
comes to its end, and the engine afterwards.
-/
inductive Move (t : Traffic Work) : Event Work -> Option Decision -> Engine Work -> Prop where
  /-- A check is looked up, and ends with what it finds. -/
  | found {ev : Event Work} {r : Request} {f : Finding} (request : ev.request? = some r)
      (finding : (t.engine.weigh r t.engine.clock.time).1 = .found f) :
      Move t ev (some ((t.engine.weighed r).stamped r f))
        ((t.engine.weighed r).settled ((t.engine.weighed r).stamped r f))
  /-- A check is looked up, and waits. -/
  | due {ev : Event Work} {r : Request} {i : Inquiry} (request : ev.request? = some r)
      (inquiry : (t.engine.weigh r t.engine.clock.time).1 = .due i) :
      Move t ev none (t.engine.weighed r)
  /-- Data that makes no request is denied. -/
  | rejected {permission context : Value} {r : Request} {rejection : Rejection}
      (unreadable : requestOf permission context = .error rejection)
      (told : echo permission context = .ok r) :
      Move t (.submit permission context)
        (some (t.engine.stamped r (.rejected rejection.message)))
        (t.engine.settled (t.engine.stamped r (.rejected rejection.message)))
  | finished {place : Nat} {o : Outcome} {p : Pending}
      (waiting : t.waiting? place = some p) :
      Move t (.finish place o) (some (t.engine.stamped p.request (.ofOutcome o)))
        (t.engine.settled (t.engine.stamped p.request (.ofOutcome o)))
  | cancelled {place : Nat} {p : Pending} (waiting : t.waiting? place = some p) :
      Move t (.cancel place) (some (t.engine.stamped p.request .cancelled))
        (t.engine.settled (t.engine.stamped p.request .cancelled))
  /-- It cannot be told what is asked, or the check at the place does not wait. -/
  | idle {ev : Event Work} (request : ev.request? = none) : Move t ev none t.engine
  | managed (m : Management Work) : Move t (.manage m) none (t.engine.manage m).2
  | cleared : Move t .clearGrants none { t.engine with grants := .empty }

namespace Transition

theorem request?_submit_of_error {permission context : Value} {rejection : Rejection}
    (h : requestOf permission context = .error rejection) :
    (Event.submit permission context : Event Work).request? = none := by
  simp only [Event.request?, h]
  rfl

/-- A check that is looked up ends there or waits. -/
theorem move_of_request {t : Traffic Work} (hclock : t.engine.clock.Readable) {ev : Event Work}
    {r : Request} (hrequest : ev.request? = some r)
    (hstep : t.step ev = t.begin (t.engine.start r)) :
    Move t ev (Transition.mk t ev).decided? (Transition.mk t ev).after.engine := by
  simp only [decided?, after, hstep]
  cases hfound : (t.engine.weigh r t.engine.clock.time).1 with
  | found f =>
      rw [start_of_found hclock hfound]
      exact .found hrequest hfound
  | due i =>
      rw [start_of_due hclock hfound]
      exact .due hrequest hfound

/-- Every transition is one of the moves. -/
theorem move (tr : Transition Work) (hclock : tr.before.engine.clock.Readable) :
    Move tr.before tr.event tr.decided? tr.after.engine := by
  obtain ⟨t, ev⟩ := tr
  cases ev with
  | start r => exact move_of_request hclock rfl rfl
  | submit permission context =>
      cases hrequest : requestOf permission context with
      | ok r =>
          refine move_of_request (r := r) hclock ?_ ?_
          · simp only [Event.request?, hrequest]
            rfl
          · simp only [Traffic.step, startRaw, hrequest]
      | error rejection =>
          simp only [decided?, after, Traffic.step, startRaw, hrequest]
          cases htold : echo permission context with
          | error f => exact .idle (request?_submit_of_error hrequest)
          | ok r =>
              simp only [stamp_of_readable hclock]
              exact .rejected hrequest htold
  | finish place o =>
      simp only [decided?, after, Traffic.step]
      cases hwaiting : t.waiting? place with
      | some p =>
          simp only [finish_of_readable hclock]
          exact .finished hwaiting
      | none => exact .idle rfl
  | cancel place =>
      simp only [decided?, after, Traffic.step]
      cases hwaiting : t.waiting? place with
      | some p =>
          simp only [cancel_of_readable hclock]
          exact .cancelled hwaiting
      | none => exact .idle rfl
  | manage m => exact .managed m
  | clearGrants => exact .cleared

end Transition

/-- Checks leave a clock that can be read as one that can be read. -/
theorem Move.readable {t : Traffic Work} {ev : Event Work} {decided? : Option Decision}
    {e' : Engine Work} (hmove : Move t ev decided? e') (hclock : t.engine.clock.Readable)
    (hcheck : ∀ m, ev ≠ .manage m) : e'.clock.Readable := by
  cases hmove with
  | found request finding => exact (readable_stampClock hclock _).next
  | due request inquiry => exact readable_stampClock hclock _
  | rejected unreadable told => exact hclock.next
  | finished waiting => exact hclock.next
  | cancelled waiting => exact hclock.next
  | idle request => exact hclock
  | managed m => exact absurd rfl (hcheck m)
  | cleared => exact hclock

theorem Traffic.readable_of_mem_transitions {events : List (Event Work)} {t : Traffic Work}
    (hclock : t.engine.clock.Readable) (hchecks : ∀ ev ∈ events, ∀ m, ev ≠ .manage m) :
    ∀ tr ∈ transitions events t, tr.before.engine.clock.Readable := by
  induction events generalizing t with
  | nil =>
      intro tr htr
      cases htr
  | cons ev rest ih =>
      intro tr htr
      rcases List.mem_cons.1 htr with rfl | htr
      · exact hclock
      · have hnext : (t.step ev).2.engine.clock.Readable :=
          ((Transition.mk t ev).move hclock).readable hclock (hchecks ev List.mem_cons_self)
        exact ih hnext (fun ev' hev' => hchecks ev' (List.mem_cons_of_mem _ hev')) tr htr

end Clearance.Engine
