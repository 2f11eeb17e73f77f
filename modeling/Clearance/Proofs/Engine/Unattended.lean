import Clearance.Proofs.Engine.Mirroring
import Clearance.Proofs.Engine.Rejection
import Clearance.Proofs.Engine.Sinks

/-!
# Checks that nobody attends

On an engine without a handler a check ends at once with what it finds.  Every sink in the place of
that of the engine is handed the same decision.  An engine that is made from nothing but texts and
names decides what can be told wherever its clock can.
-/

namespace Clearance.Engine

variable {e : Engine (List Operation)} {r : Request}

theorem exists_found_of_unattended (hnone : e.handler? = none) (r : Request) (now : Timestamp) :
    ∃ f, (e.weigh r now).1 = .found f := by
  cases hweigh : (e.weigh r now).1 with
  | found f => exact ⟨f, rfl⟩
  | due i =>
      obtain ⟨handler, hhandler⟩ := exists_handler_of_due hweigh
      cases hnone.symm.trans hhandler

theorem perform_check_of_found (hclock : e.clock.Readable) {permission context : Value}
    (hrequest : requestOf permission context = .ok r) {f : Finding}
    (hfound : (e.weigh r e.clock.time).1 = .found f) :
    Session.perform (.check permission context) { engine := e } =
      (.ok (.decision ((e.weighed r).stamped r f)),
        { engine := (e.weighed r).settled ((e.weighed r).stamped r f) }) := by
  have hevaluating := Session.evaluating_of_found (s := { engine := e }) hclock hfound 63 false
  unfold Session.perform Session.depthLimit
  rw [(Session.run_check hrequest 63 _).1, Session.run_evaluate, hevaluating]
  rfl

/-- What is found can be told if the policy and the grants can. -/
theorem portable_of_weigh (hpolicy : e.policy.Valid) (hgrants : PortableGrants e.grants)
    {now : Timestamp} {f : Finding} (hfound : (e.weigh r now).1 = .found f) : f.Portable := by
  unfold weigh at hfound
  cases hget : e.catalog.get? r.permission with
  | none =>
      rw [hget] at hfound
      cases hfound
      exact Finding.portable_denial _ _
  | some p =>
      rw [hget] at hfound
      obtain ⟨-, hportable⟩ := @portable_lookup p _ hpolicy r now _ hgrants
      revert hfound hportable
      dsimp only
      rcases lookup p e.policy r now e.grants with ⟨fault | (known | i), g⟩
      · rintro ⟨⟩ -
        exact Finding.portable_denial _ _
      · rintro ⟨⟩ hportable
        exact hportable _ rfl
      · dsimp only
        split
        · rintro ⟨⟩
        · rintro ⟨⟩ -
          exact Finding.portable_ofOutcome _

theorem portable_time (hclock : e.clock.Readable) (hportable : e.clock.Portable) :
    e.clock.time.Portable :=
  hportable.read.2 _ (by rw [hclock.read])

theorem portable_stampClock (hportable : e.clock.Portable) (r : Request) :
    (e.stampClock r).Portable := by
  unfold stampClock
  split
  · exact hportable.next
  · exact hportable

/-! ## Engines that are made ready -/

variable {Work : Type}

/-- Manages an engine in several ways, one after another, until one of them fails. -/
def manageAll (ms : List (Management Work)) (e : Engine Work) : Except Failure (Engine Work) :=
  ms.foldlM (fun e m =>
    match e.manage m with
    | (.ok _, e) => .ok e
    | (.error f, _) => .error f) e

section

variable {e : Engine Work} {m : Management Work} {e' : Engine Work}

theorem manageAll_cons_of_ok {a : Answer} (h : e.manage m = (.ok a, e'))
    (rest : List (Management Work)) : e.manageAll (m :: rest) = e'.manageAll rest := by
  rw [manageAll, List.foldlM_cons, h]
  rfl

theorem manageAll_cons_of_error {f : Failure} (h : e.manage m = (.error f, e'))
    (rest : List (Management Work)) : e.manageAll (m :: rest) = .error f := by
  rw [manageAll, List.foldlM_cons, h]
  rfl

end

theorem manageAll_grant (names : List String) (e : Engine Work) :
    e.manageAll (names.map Management.grant) =
      .ok { e with grants := names.foldl (fun g name => g.grant name) e.grants } := by
  induction names generalizing e with
  | nil => rfl
  | cons name rest ih => exact ih { e with grants := e.grants.grant name }

/-- An engine on a clock that nobody attends, and of which everything can be told. -/
structure Unattended (clock : Clock) (e : Engine Work) : Prop where
  handler? : e.handler? = none
  clock : e.clock = clock
  policy : e.policy.Valid
  grants : PortableGrants e.grants

variable {clock : Clock}

theorem unattended_make (settings : Settings) (sink : Trail.Sink) :
    Unattended clock (make settings {} [] none sink clock : Engine Work) where
  handler? := rfl
  clock := rfl
  policy := fun _ hr => nomatch hr
  grants := fun _ hentry => nomatch hentry

theorem Unattended.takeOver {e : Engine Work} (h : e.Unattended clock) {text source : String}
    {c : Config} (hc : Config.ofText text source = .ok c) : (e.takeOver c).Unattended clock where
  handler? := h.handler?
  clock := h.clock
  policy := by
    unfold Engine.takeOver
    cases hpolicy : c.policy with
    | none => exact h.policy
    | some p => exact valid_of_ofText hc hpolicy
  grants := h.grants

theorem Unattended.grantAll {e : Engine Work} (h : e.Unattended clock) (names : List String) :
    Unattended clock
      { e with grants := names.foldl (fun g name => g.grant name) e.grants } where
  handler? := h.handler?
  clock := h.clock
  policy := h.policy
  grants := h.grants.of_temporary (temporary_grantAll names e.grants)

/-! ## Checks -/

/-- A check that nobody attends is decided, on whatever sink, and the sink is handed the decision. -/
theorem Unattended.check (h : e.Unattended clock) (hclock : clock.Readable) (r : Request) :
    ∃ d : Decision, d.permission = r.permission ∧ d.context = r.context ∧
      (∀ sink, ∃ e', e'.sink = sink.record d.entry ∧
        Session.perform (.check (.str r.permission) r.context.toValue) { engine := e.onSink sink } =
          (.ok (.decision d), { engine := e' })) ∧
      (clock.Portable -> r.context.toValue.Plain -> d.entry.Valid) := by
  obtain rfl := h.clock
  obtain ⟨f, hfound⟩ := exists_found_of_unattended h.handler? r e.clock.time
  refine ⟨(e.weighed r).stamped r f, rfl, rfl, fun sink => ?_, fun hportable hplain => ?_⟩
  · have hrequest : requestOf (.str r.permission) r.context.toValue = .ok r :=
      (Proper.full r).requestOf
    exact ⟨_, rfl, perform_check_of_found (e := e.onSink sink) hclock hrequest hfound⟩
  · have hstamp : (e.weighed r).clock.Portable := portable_stampClock hportable r
    exact (portable_of_weigh h.policy h.grants hfound).valid_entry hplain
      (portable_time (e := e.weighed r) (readable_stampClock hclock r) hstamp)

end Clearance.Engine
