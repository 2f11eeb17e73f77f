import Clearance.Proofs.Engine.Evaluation

/-!
# One entry for each check

Every check leaves one entry at the end of the log, however it ends: with what it found, with the
reply of its handler, out of time, or cancelled.  An entry is that of its result, and whoever made
the check gets the same result, unless the check was cancelled.  Handlers are taken here to leave
the engine alone; what they do to it otherwise is recorded on its own.
-/

namespace Clearance

open Confirmation (Handler)

/-- A handler answers without operating on the engine. -/
def Confirmation.Handler.Quiet {Work : Type} (h : Handler (List Work)) : Prop :=
  ∀ ops, h.work? = some ops -> ops = []

/-- An entry repeats the time, the permission and the context of its result. -/
structure AuditEntry.Faithful (e : AuditEntry) : Prop where
  timestamp : e.timestamp = e.result.timestamp
  permission : e.permission = e.result.permission
  context : e.context = e.result.context

theorem Decision.faithful_entry (d : Decision) : d.entry.Faithful :=
  ⟨rfl, rfl, rfl⟩

namespace Engine

/-- The denial of a check that was cancelled while it waited. -/
structure CancelledDenial (r : Request) (d : Decision) : Prop where
  denied : d.granted = false
  source : d.source = .confirmation
  reason : d.reason = some "User confirmation cancelled"
  permission : d.permission = r.permission

theorem cancelledDenial_stamped {Work : Type} (r : Request) (e : Engine Work) :
    CancelledDenial r (e.stamped r Finding.cancelled) :=
  ⟨rfl, rfl, rfl, rfl⟩

namespace Session

/-- A handler that leaves the engine alone is asked without a trace in the engine. -/
theorem engine_consulted_of_quiet {s : Session} {handler : Handler (List Operation)}
    (hhandler : s.engine.handler? = some handler) (hquiet : handler.Quiet) (depth : Nat)
    (r : Request) (i : Inquiry) : (s.consulted depth r i).engine = s.engine.weighed r := by
  have hweighed : (s.engine.weighed r).handler? = some handler := hhandler
  simp only [consulted, consult, hweighed]
  cases hwork : handler.work? with
  | none => rfl
  | some ops =>
      obtain rfl := hquiet ops hwork
      rfl

@[simp] theorem entries_recorded (r : Request) (f : Finding) (s : Session) :
    (s.recorded r f).engine.log.entries =
      s.engine.log.entries ++ [(s.engine.stamped r f).entry] := rfl

end Session

end Engine

end Clearance
