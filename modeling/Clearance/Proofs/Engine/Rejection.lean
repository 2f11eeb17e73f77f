import Clearance.Proofs.Engine.Recording
import Clearance.Proofs.Engine.Requests
import Clearance.Proofs.Engine.Verdict

/-!
# Checks of any data

A check of data that make a request is a check of the request.  A check of other data is denied as
an error; the denial is recorded, nobody is asked and no grant is touched.  Only data that cannot
be told, because a part of them refuses its text, are neither decided nor recorded.
-/

namespace Clearance.Engine.Session

/-! ## Requests -/

/--
The session in which a check of a request comes to its end: the request has been looked up, and if a
handler had to be asked, it has done its work.
-/
def closing (depth : Nat) (r : Request) (s : Session) : Session :=
  match (s.engine.weigh r s.engine.clock.time).1 with
  | .found _ => { s with engine := s.engine.weighed r }
  | .due i => s.consulted depth r i

theorem evaluating_of_readable {s : Session} (h : s.engine.clock.Readable) {depth : Nat}
    {r : Request} (hafter : (s.closing depth r).engine.clock.Readable) :
    evaluating depth false r s =
      (.ok ((s.closing depth r).engine.stamped r (s.engine.found r s.engine.clock.time)),
        (s.closing depth r).recorded r (s.engine.found r s.engine.clock.time)) := by
  unfold closing found at *
  cases hweigh : (s.engine.weigh r s.engine.clock.time).1 with
  | found f => exact evaluating_of_found h hweigh depth false
  | due i =>
      rw [hweigh] at hafter
      exact evaluating_false_of_due h hweigh hafter

/-- A handler that leaves the engine alone leaves its log as it was. -/
theorem log_closing_of_quiet {s : Session}
    (hquiet : ∀ handler, s.engine.handler? = some handler -> handler.Quiet) (depth : Nat)
    (r : Request) : (s.closing depth r).engine.log = s.engine.log := by
  unfold closing
  cases hweigh : (s.engine.weigh r s.engine.clock.time).1 with
  | found f => rfl
  | due i =>
      obtain ⟨handler, hhandler⟩ := exists_handler_of_due hweigh
      dsimp only
      rw [engine_consulted_of_quiet hhandler (hquiet handler hhandler) depth r i]
      rfl

/-! ## Rejections -/

/-- What becomes of a check of data that make no request. -/
structure TurnedDown (rejection : Rejection) (s s' : Session) (d : Decision) : Prop where
  denied : d.granted = false
  source : d.source = .error
  reason : d.reason = some ("Invalid permission check: " ++ rejection.message)
  recorded : s'.engine.log.entries = s.engine.log.entries ++ [d.entry]
  /-- Nothing but the clock, the log and what hears of it is touched. -/
  grants : s'.engine.grants = s.engine.grants
  policy : s'.engine.policy = s.engine.policy
  catalog : s'.engine.catalog = s.engine.catalog
  sights : s'.sights = s.sights
  nested : s'.nested = s.nested

section

variable {permission context : Value} {rejection : Rejection}
  (hrequest : requestOf permission context = .error rejection)

include hrequest

theorem run_check_of_echo {r : Request} (hecho : echo permission context = .ok r) (depth : Nat)
    (s : Session) :
    run (depth + 1) (.check permission context) s =
      ((settled (s.engine.stamp r (Finding.rejected rejection.message)).1).map Answer.decision,
        { s with engine := (s.engine.stamp r (Finding.rejected rejection.message)).2 }) := by
  have hstart : s.startCheck permission context =
      (.settled (settled (s.engine.stamp r (Finding.rejected rejection.message)).1),
        { s with engine := (s.engine.stamp r (Finding.rejected rejection.message)).2 }) := by
    simp only [startCheck, on, startRaw, hrequest, hecho]
    rfl
  simp only [run, hstart]
  rfl

/-- Data that make no request and cannot be told are handed back with nothing done. -/
theorem run_check_of_untold {f : Value.NoText} (hecho : echo permission context = .error f)
    (depth : Nat) (s : Session) :
    run (depth + 1) (.check permission context) s = (.error (.noText f), s) := by
  have hstart : s.startCheck permission context = (.settled (.error (.noText f)), s) := by
    simp only [startCheck, on, startRaw, hrequest, hecho]
    rfl
  simp only [run, hstart]
  rfl

/-- On any clock, whatever makes no request leaves the grants alone. -/
theorem grants_check_of_rejected (depth : Nat) (s : Session) :
    (run (depth + 1) (.check permission context) s).2.engine.grants = s.engine.grants := by
  cases hecho : echo permission context with
  | error f => rw [run_check_of_untold hrequest hecho]
  | ok r =>
      rw [run_check_of_echo hrequest hecho]
      simp only [stamp, now]
      rcases s.engine.clock.read with ⟨_ | t, clock⟩ <;> rfl

theorem turnedDown_of_tellable (htold : Tellable permission context) (depth : Nat) {s : Session}
    (hclock : s.engine.clock.Readable) :
    ∃ d, (run (depth + 1) (.check permission context) s).1 = .ok (.decision d) ∧
      TurnedDown rejection s (run (depth + 1) (.check permission context) s).2 d := by
  obtain ⟨r, hecho⟩ := exists_echo_iff.2 htold
  rw [run_check_of_echo hrequest hecho depth, stamp_of_readable hclock]
  exact ⟨_, rfl, rfl, rfl, rfl, rfl, rfl, rfl, rfl, rfl, rfl⟩

end

/-! ## Checks -/

end Clearance.Engine.Session
