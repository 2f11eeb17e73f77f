import Clearance.Confirmation.Handler
import Clearance.Engine.Clock
import Clearance.Engine.Finding
import Clearance.Engine.Request
import Clearance.Trail.Sink

/-!
# Engines

An engine decides requests from its catalog, its grants and its policy, and keeps a log of every
decision.  A check starts with a lookup.  It ends there, or it waits for a confirmation and is
finished, or cancelled, later; other checks may start and end in between.
-/

namespace Clearance

open Confirmation (Handler Outcome)

/-- An engine whose handlers do work of some kind before they answer. -/
structure Engine (Work : Type) where
  settings : Settings := {}
  catalog : Catalog := .empty
  policy : Policy := {}
  grants : Grants := .empty
  handler? : Option (Handler Work) := none
  log : AuditLog := {}
  sink : Trail.Sink := .absent
  clock : Engine.Clock

namespace Engine

/-- A check that waits for a confirmation. -/
structure Pending where
  request : Request
  inquiry : Inquiry
  deriving Inhabited

/-- How far a check has come. -/
inductive Progress where
  | ended (r : Except ClockFault Decision)
  | waiting (p : Pending)

variable {Work : Type}

/-- A new engine: the permissions come on top of the ones that every engine starts with. -/
def make (settings : Settings) (policy : Policy) (permissions : List Permission)
    (handler? : Option (Handler Work)) (sink : Trail.Sink) (clock : Clock) : Engine Work :=
  let start := if settings.seedBuiltinPermissions then Catalog.builtinPermissions else []
  { settings, policy, catalog := Catalog.ofList (start ++ permissions), handler?, sink, clock }

/-- Reads the clock. -/
def now (e : Engine Work) : Except ClockFault Timestamp × Engine Work :=
  let (r, clock) := e.clock.read
  (r, { e with clock })

/-- Takes a decision into the log, and hands it on. -/
def record (d : Decision) (e : Engine Work) : Engine Work :=
  { e with log := e.log.append d.entry, sink := e.sink.record d.entry }

/-- Stamps a finding with the time and records it. -/
def stamp (r : Request) (f : Finding) (e : Engine Work) :
    Except ClockFault Decision × Engine Work :=
  match e.now with
  | (.ok t, e) => (.ok (f.decision r t), e.record (f.decision r t))
  | (.error fault, e) => (.error fault, e)

/-- Ends a check without a finding. -/
def fail (r : Request) (message : String) (e : Engine Work) :
    Except ClockFault Decision × Engine Work :=
  e.stamp r (Finding.failed message)

/-- Ends a check with a finding; one that cannot be stamped is a failure. -/
def conclude (r : Request) (f : Finding) (e : Engine Work) :
    Except ClockFault Decision × Engine Work :=
  match e.stamp r f with
  | (.ok d, e) => (.ok d, e)
  | (.error fault, e) => e.fail r fault.message

/-- The end of a check as its progress. -/
def ended (x : Except ClockFault Decision × Engine Work) : Progress × Engine Work :=
  (.ended x.1, x.2)

/-- Starts a check: looks the permission up and uses its grant. -/
def start (r : Request) (e : Engine Work) : Progress × Engine Work :=
  match e.catalog.get? r.permission with
  | none => ended (e.conclude r (Finding.unknown r.permission))
  | some p =>
      match e.now with
      | (.error fault, e) => ended (e.fail r fault.message)
      | (.ok now, e) =>
          let (found, grants) := lookup p e.policy r now e.grants
          let e := { e with grants }
          match found with
          | .error fault => ended (e.fail r fault.message)
          | .ok (.found f) => ended (e.conclude r f)
          | .ok (.due inquiry) =>
              match e.handler? with
              | some _ => (.waiting { request := r, inquiry }, e)
              | none =>
                  ended (e.conclude r
                    (Finding.ofOutcome (Outcome.ofUnhandled e.settings.unhandledConfirmation)))

/-- Finishes a check that waits. -/
def finish (p : Pending) (o : Outcome) (e : Engine Work) :
    Except ClockFault Decision × Engine Work :=
  e.conclude p.request (Finding.ofOutcome o)

/-- Cancels a check that waits; that is recorded as well. -/
def cancel (p : Pending) (e : Engine Work) : Except ClockFault Decision × Engine Work :=
  e.stamp p.request Finding.cancelled

/--
Starts a check of any data.  What makes no request is denied, and that is recorded, unless it
cannot even be told what was asked.
-/
def startRaw (permission context : Value) (e : Engine Work) :
    Except Value.NoText Progress × Engine Work :=
  match requestOf permission context with
  | .ok r =>
      let (p, e) := e.start r
      (.ok p, e)
  | .error rejection =>
      match echo permission context with
      | .error f => (.error f, e)
      | .ok r =>
          let (x, e) := e.stamp r (Finding.rejected rejection.message)
          (.ok (.ended x), e)

theorem size_log_stamp_of_ok {r : Request} {f : Finding} {e e' : Engine Work} {d : Decision}
    (h : e.stamp r f = (.ok d, e')) : e'.log.size = e.log.size + 1 := by
  revert h
  unfold stamp now
  rcases hread : e.clock.read with ⟨reading, clock⟩
  cases reading with
  | error fault => simp
  | ok t =>
      simp only [Prod.mk.injEq, and_imp]
      intro _ h
      rw [← h]
      simp [record, AuditLog.size_append]

end Engine

end Clearance
