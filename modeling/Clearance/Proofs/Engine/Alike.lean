import Clearance.Engine.Management
import Clearance.Proofs.Engine.Check

/-!
# Engines that decide alike

What an engine decides, and what becomes of its grants, depends on its catalog, its policy, its
grants, its handler and its settings, and on what the clock shows.  The log and the sink have no
part in it: engines that differ in these alone go on differing in no more.
-/

namespace Clearance.Engine

variable {Work : Type}

/-- Two engines differ at most in their logs, their sinks and their clocks. -/
structure Alike (e e' : Engine Work) : Prop where
  settings : e'.settings = e.settings
  catalog : e'.catalog = e.catalog
  policy : e'.policy = e.policy
  grants : e'.grants = e.grants
  handler : e'.handler? = e.handler?

/-- Engines that differ in no more than that find the same at one time. -/
theorem Alike.weigh {e e' : Engine Work} (h : Alike e e') (r : Request) (now : Timestamp) :
    e'.weigh r now = e.weigh r now := by
  simp only [Engine.weigh, h.settings, h.catalog, h.policy, h.grants, h.handler]

/-- Two engines differ at most in their logs and their sinks. -/
def Twin (e e' : Engine Work) : Prop :=
  ∃ log sink, e' = { e with log, sink }

theorem Twin.refl (e : Engine Work) : Twin e e :=
  ⟨e.log, e.sink, rfl⟩

theorem Twin.alike {e e' : Engine Work} (h : Twin e e') : Alike e e' := by
  obtain ⟨log, sink, rfl⟩ := h
  exact ⟨rfl, rfl, rfl, rfl, rfl⟩

/-- Engines that differ in no more than that are twins at one time. -/
theorem Alike.twin {e e' : Engine Work} (h : Alike e e') (clock : Clock) :
    Twin { e with clock } { e' with clock } := by
  obtain ⟨settings, catalog, policy, grants, handler?, log, sink, clock⟩ := e
  obtain ⟨settings', catalog', policy', grants', handler?', log', sink', clock'⟩ := e'
  obtain ⟨rfl, rfl, rfl, rfl, rfl⟩ := h
  exact ⟨log', sink', rfl⟩

theorem Alike.twin_of_clock {e e' : Engine Work} (h : Alike e e') (hclock : e'.clock = e.clock) :
    Twin e e' := by
  have htwin := h.twin e.clock
  obtain ⟨settings, catalog, policy, grants, handler?, log, sink, clock⟩ := e'
  cases hclock
  exact htwin

/-- What twins come to when each makes the same step. -/
def Matched {α : Type} (x x' : α × Engine Work) : Prop :=
  x'.1 = x.1 ∧ Twin x.2 x'.2

theorem Matched.ended {x x' : Except ClockFault Decision × Engine Work} (h : Matched x x') :
    Matched (ended x) (ended x') :=
  ⟨congrArg Progress.ended h.1, h.2⟩

section

variable {e e' : Engine Work}

theorem Twin.stamp (h : Twin e e') (r : Request) (f : Finding) :
    Matched (e.stamp r f) (e'.stamp r f) := by
  obtain ⟨log, sink, rfl⟩ := h
  simp only [Engine.stamp, now]
  rcases e.clock.read with ⟨fault | t, clock⟩
  · exact ⟨rfl, _, _, rfl⟩
  · exact ⟨rfl, _, _, rfl⟩

theorem Twin.conclude (h : Twin e e') (r : Request) (f : Finding) :
    Matched (e.conclude r f) (e'.conclude r f) := by
  obtain ⟨hresult, htwin⟩ := h.stamp r f
  revert hresult htwin
  simp only [Engine.conclude]
  rcases e.stamp r f with ⟨fault | d, e₁⟩ <;> rcases e'.stamp r f with ⟨fault' | d', e₁'⟩ <;>
    rintro ⟨⟩ htwin
  · exact htwin.stamp r (Finding.failed fault.message)
  · exact ⟨rfl, htwin⟩

theorem Twin.start (h : Twin e e') (r : Request) : Matched (e.start r) (e'.start r) := by
  obtain ⟨log, sink, rfl⟩ := h
  simp only [Engine.start, now]
  cases e.catalog.get? r.permission with
  | none => exact (Twin.conclude ⟨log, sink, rfl⟩ r _).ended
  | some p =>
      rcases e.clock.read with ⟨fault | t, clock⟩
      · exact (Twin.stamp ⟨log, sink, rfl⟩ r (Finding.failed fault.message)).ended
      · dsimp only
        rcases lookup p e.policy r t e.grants with ⟨fault | (f | i), g⟩
        · exact (Twin.stamp ⟨log, sink, rfl⟩ r (Finding.failed fault.message)).ended
        · exact (Twin.conclude ⟨log, sink, rfl⟩ r f).ended
        · dsimp only
          cases e.handler? with
          | some handler => exact ⟨rfl, log, sink, rfl⟩
          | none => exact (Twin.conclude ⟨log, sink, rfl⟩ r _).ended

theorem Twin.startRaw (h : Twin e e') (permission context : Value) :
    Matched (e.startRaw permission context) (e'.startRaw permission context) := by
  simp only [Engine.startRaw]
  cases requestOf permission context with
  | ok r => exact ⟨congrArg Except.ok (h.start r).1, (h.start r).2⟩
  | error rejection =>
      cases echo permission context with
      | error f => exact ⟨rfl, h⟩
      | ok r =>
          obtain ⟨hresult, htwin⟩ := h.stamp r (Finding.rejected rejection.message)
          exact ⟨congrArg (fun x => Except.ok (Progress.ended x)) hresult, htwin⟩

theorem Twin.grantUntil (h : Twin e e') (name : String) (x : Expiry) :
    Twin (e.grantUntil name x).2 (e'.grantUntil name x).2 := by
  obtain ⟨log, sink, rfl⟩ := h
  simp only [Engine.grantUntil, now]
  rcases e.clock.read with ⟨fault | t, clock⟩
  · exact ⟨log, sink, rfl⟩
  · dsimp only
    cases x.resolve clock.zone t <;> exact ⟨log, sink, rfl⟩

/-- Whatever is done to twins leaves twins; what it tells of their logs may differ. -/
theorem Twin.manage (h : Twin e e') (m : Management Work) : Twin (e.manage m).2 (e'.manage m).2 := by
  cases m with
  | grantUntil name x => exact h.grantUntil name x
  | audit wanted =>
      simp only [Engine.manage]
      cases e.entries wanted <;> cases e'.entries wanted <;> exact h
  | report wanted =>
      simp only [Engine.manage]
      cases e.entries wanted <;> cases e'.entries wanted <;> exact h
  | advance micros =>
      obtain ⟨log, sink, rfl⟩ := h
      simp only [Engine.manage]
      cases e.clock.advance micros <;> exact ⟨log, sink, rfl⟩
  | grantScope scope =>
      obtain ⟨log, sink, rfl⟩ := h
      simp only [Engine.manage]
      cases Scope.ofValue scope <;> exact ⟨log, sink, rfl⟩
  | unregister name? =>
      obtain ⟨log, sink, rfl⟩ := h
      cases name? <;> exact ⟨log, sink, rfl⟩
  | listByRisk risk =>
      simp only [Engine.manage]
      cases RiskLevel.ofValue risk <;> exact h
  | listByScope scope =>
      simp only [Engine.manage]
      cases Scope.ofValue scope <;> exact h
  | setPolicy policy =>
      obtain ⟨log, sink, rfl⟩ := h
      simp only [Engine.manage]
      cases policyOf policy <;> exact ⟨log, sink, rfl⟩
  | importData config =>
      obtain ⟨log, sink, rfl⟩ := h
      simp only [Engine.manage]
      cases Config.ofValue config <;> exact ⟨log, sink, rfl⟩
  | importText text =>
      obtain ⟨log, sink, rfl⟩ := h
      simp only [Engine.manage]
      cases Config.ofText text <;> exact ⟨log, sink, rfl⟩
  | _ =>
      obtain ⟨log, sink, rfl⟩ := h
      exact ⟨_, _, rfl⟩

end

/-! ## Ends -/

theorem Alike.trans {e e' e'' : Engine Work} (h : Alike e e') (h' : Alike e' e'') : Alike e e'' :=
  ⟨h'.settings.trans h.settings, h'.catalog.trans h.catalog, h'.policy.trans h.policy,
    h'.grants.trans h.grants, h'.handler.trans h.handler⟩

theorem Alike.symm {e e' : Engine Work} (h : Alike e e') : Alike e' e :=
  ⟨h.settings.symm, h.catalog.symm, h.policy.symm, h.grants.symm, h.handler.symm⟩

theorem alike_onClock (clock : Clock) (e : Engine Work) : Alike e { e with clock } :=
  ⟨rfl, rfl, rfl, rfl, rfl⟩

theorem alike_stamp (r : Request) (f : Finding) (e : Engine Work) : Alike e (e.stamp r f).2 := by
  simp only [stamp, now]
  rcases e.clock.read with ⟨fault | t, clock⟩ <;> exact ⟨rfl, rfl, rfl, rfl, rfl⟩

/-- The end of a check leaves everything but the log, the sink and the clock alone. -/
theorem alike_conclude (r : Request) (f : Finding) (e : Engine Work) :
    Alike e (e.conclude r f).2 := by
  have hstamp := alike_stamp r f e
  revert hstamp
  simp only [conclude]
  rcases e.stamp r f with ⟨fault | d, e₁⟩ <;> intro hstamp
  · exact hstamp.trans (alike_stamp r _ e₁)
  · exact hstamp

theorem stamp_of_clock_eq {Work' : Type} {e : Engine Work} {e' : Engine Work'}
    (h : e'.clock = e.clock) (r : Request) (f : Finding) :
    (e'.stamp r f).1 = (e.stamp r f).1 ∧ (e'.stamp r f).2.clock = (e.stamp r f).2.clock := by
  simp only [stamp, now, h]
  rcases e.clock.read with ⟨fault | t, clock⟩ <;> exact ⟨rfl, rfl⟩

/-- What the end of a check comes to depends on nothing but the clock. -/
theorem conclude_of_clock_eq {Work' : Type} {e : Engine Work} {e' : Engine Work'}
    (h : e'.clock = e.clock) (r : Request) (f : Finding) :
    (e'.conclude r f).1 = (e.conclude r f).1 := by
  obtain ⟨hresult, hclock⟩ := stamp_of_clock_eq h r f
  revert hresult hclock
  simp only [conclude]
  rcases e.stamp r f with ⟨fault | d, e₁⟩ <;> rcases e'.stamp r f with ⟨fault' | d', e₁'⟩ <;>
    rintro ⟨⟩ hclock
  · exact (stamp_of_clock_eq hclock r (Finding.failed fault.message)).1
  · rfl

end Clearance.Engine
