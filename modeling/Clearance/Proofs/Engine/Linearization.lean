import Clearance.Proofs.Engine.Alike
import Clearance.Proofs.Engine.Completion

/-!
# Checks take effect where they start

However checks interleave with each other and with whatever else is done to an engine, each comes
to what it comes to alone, in the state in which it was started.  A run can be put into a serial
order: every check is brought to its end right where it starts, with the confirmation that it gets
in the run, and nothing that is decided or granted changes by that.  Only the log tells the two
apart, which has the entries in the order in which the checks were completed.
-/

namespace Clearance

/-- What was decided and why, apart from when and about what. -/
def Decision.finding (d : Decision) : Engine.Finding :=
  { granted := d.granted
    source := d.source
    reason := d.reason
    expiresAt := d.expiresAt
    remainingUses := d.remainingUses
    rule := d.rule }

@[simp] theorem Engine.Finding.finding_decision (r : Request) (t : Timestamp)
    (f : Engine.Finding) : (f.decision r t).finding = f := rfl

namespace Engine

open Confirmation (Outcome)

variable {Work : Type}

/-! ## Ends -/

/--
How a check that waits is brought to its end: what the clock is like then, and what comes of its
confirmation, unless it is cancelled.
-/
structure Ending where
  clock : Clock
  outcome? : Option Outcome

namespace Ending

def event (place : Nat) (x : Ending) : Event Work :=
  match x.outcome? with
  | some o => .finish place o
  | none => .cancel place

/-- The same ending at another time. -/
def onClock (clock : Clock) (x : Ending) : Ending :=
  { x with clock }

/-- The check that it makes of one that waits. -/
def check (x : Ending) (p : Pending) : Check :=
  match x.outcome? with
  | some o => .ended (({ clock := x.clock } : Engine Unit).finish p o).1
  | none => .cancelled (({ clock := x.clock } : Engine Unit).cancel p).1

theorem pending?_check (x : Ending) (p : Pending) : (x.check p).pending? = none := by
  unfold check
  cases x.outcome? <;> rfl

end Ending

/-- What was found by a check that has ended. -/
def Check.finding? : Check -> Option Finding
  | .ended (.ok d) => some d.finding
  | _ => none

/-- A check after its ending, if it waits and there is one. -/
def Check.brought (x? : Option Ending) : Check -> Check
  | .waiting p => (x?.map fun x => x.check p).getD (.waiting p)
  | c => c

theorem Check.brought_of_not_waiting {c : Check} (h : c.pending? = none) (x? : Option Ending) :
    c.brought x? = c := by
  cases c with
  | waiting p => cases h
  | ended r => rfl
  | cancelled r => rfl

namespace Traffic

/-- The ending of the check at a place that a transition is, if it is one. -/
def endingAt? (place : Nat) (tr : Transition Work) : Option Ending :=
  match tr.event with
  | .finish other o =>
      if other = place ∧ (tr.before.waiting? other).isSome then
        some { clock := tr.before.engine.clock, outcome? := some o }
      else none
  | .cancel other =>
      if other = place ∧ (tr.before.waiting? other).isSome then
        some { clock := tr.before.engine.clock, outcome? := none }
      else none
  | _ => none

/-- How the check at a place is brought to its end, if it waits and comes to one. -/
def ending? (place : Nat) (trs : List (Transition Work)) : Option Ending :=
  trs.findSome? (endingAt? place)

/-- The same checks at another time. -/
def onClock (clock : Clock) (t : Traffic Work) : Traffic Work :=
  { t with engine := { t.engine with clock } }

/-- Brings the check at a place to its end, if it waits and there is an ending for it. -/
def bring (place : Nat) (x? : Option Ending) (t : Traffic Work) : Traffic Work :=
  match x?, t.waiting? place with
  | some x, some _ => ((t.onClock x.clock).step (x.event place)).2
  | _, _ => t

/--
One transition in serial order.  What happens in it happens at the time it had, and a check that has
to wait is brought to its end before anything else happens, by the ending that comes to it later.
-/
def serialStep (later : List (Transition Work)) (tr : Transition Work) (s : Traffic Work) :
    Traffic Work :=
  match tr.event with
  | .finish _ _ | .cancel _ => s
  | ev =>
      bring s.checks.length (ending? s.checks.length later)
        ((s.onClock tr.before.engine.clock).step ev).2

/-- The transitions of a run in serial order. -/
def serial : List (Transition Work) -> Traffic Work -> Traffic Work
  | [], s => s
  | tr :: later, s => serial later (serialStep later tr s)

/-- A check alone on an engine: it is started, and brought to its end if it waits. -/
def alone (ev : Event Work) (x? : Option Ending) (e : Engine Work) : Option Check :=
  (bring 0 x? (({ engine := e } : Traffic Work).step ev).2).checks[0]?

/-! ## Single steps -/

/-- Twins begin alike. -/
theorem begins?_of_twin {e e' : Engine Work} (h : Twin e e') (ev : Event Work) :
    begins? ev e = none ∧ begins? ev e' = none ∨
      ∃ x x', begins? ev e = some x ∧ begins? ev e' = some x' ∧ Matched x x' := by
  cases ev with
  | start r => exact .inr ⟨_, _, rfl, rfl, h.start r⟩
  | submit permission context =>
      have hmatched := h.startRaw permission context
      revert hmatched
      simp only [begins?]
      rcases e.startRaw permission context with ⟨f | p, e₁⟩ <;>
        rcases e'.startRaw permission context with ⟨f' | p', e₁'⟩ <;> rintro ⟨⟨⟩, htwin⟩
      · exact .inl ⟨rfl, rfl⟩
      · exact .inr ⟨_, _, rfl, rfl, rfl, htwin⟩
  | finish place o => exact .inl ⟨rfl, rfl⟩
  | cancel place => exact .inl ⟨rfl, rfl⟩
  | manage m => exact .inl ⟨rfl, rfl⟩
  | clearGrants => exact .inl ⟨rfl, rfl⟩

theorem step_end {x : Ending} {place : Nat} {p : Pending} {t : Traffic Work}
    (hwaiting : t.waiting? place = some p) (hclock : t.engine.clock = x.clock) :
    (t.step (x.event place)).2.checks = t.checks.set place (x.check p) ∧
      Alike t.engine (t.step (x.event place)).2.engine := by
  have hbare : ({ clock := x.clock } : Engine Unit).clock = t.engine.clock := hclock.symm
  unfold Ending.event Ending.check
  cases x.outcome? with
  | some o =>
      simp only [step, hwaiting]
      refine ⟨?_, alike_conclude _ _ _⟩
      have hresult := conclude_of_clock_eq hbare p.request (Finding.ofOutcome o)
      exact congrArg (fun r => t.checks.set place (.ended r)) hresult.symm
  | none =>
      simp only [step, hwaiting]
      refine ⟨?_, alike_stamp _ _ _⟩
      have hresult := stamp_of_clock_eq hbare p.request Finding.cancelled
      exact congrArg (fun r => t.checks.set place (.cancelled r)) hresult.1.symm

theorem bring_last (checks : List Check) (c : Check) (x? : Option Ending) (e : Engine Work) :
    (bring checks.length x? { engine := e, checks := checks ++ [c] }).checks =
        checks ++ [c.brought x?] ∧
      Alike e (bring checks.length x? { engine := e, checks := checks ++ [c] }).engine := by
  have hplace : waiting? checks.length ({ engine := e, checks := checks ++ [c] } : Traffic Work) =
      c.pending? := by
    simp [waiting?]
  unfold bring
  rw [hplace]
  cases x? with
  | none =>
      refine ⟨?_, ⟨rfl, rfl, rfl, rfl, rfl⟩⟩
      cases c <;> rfl
  | some x =>
      cases c with
      | ended r => exact ⟨rfl, ⟨rfl, rfl, rfl, rfl, rfl⟩⟩
      | cancelled r => exact ⟨rfl, ⟨rfl, rfl, rfl, rfl, rfl⟩⟩
      | waiting p =>
          obtain ⟨hchecks, halike⟩ := step_end (x := x) (p := p)
            (t := onClock x.clock { engine := e, checks := checks ++ [.waiting p] }) hplace rfl
          refine ⟨?_, (alike_onClock x.clock e).trans halike⟩
          dsimp only [Check.pending?]
          rw [hchecks]
          simp [onClock, Check.brought]

/-! ## Runs -/

theorem ending?_cons (place : Nat) (tr : Transition Work) (later : List (Transition Work)) :
    ending? place (tr :: later) = (endingAt? place tr).or (ending? place later) := by
  simp only [ending?, List.findSome?_cons]
  cases endingAt? place tr <;> rfl

/--
A serial run has come as far as an interleaved one: it would decide alike, and it has brought those
checks to their ends already that wait for one.
-/
structure Ahead (later : List (Transition Work)) (t s : Traffic Work) : Prop where
  alike : Alike t.engine s.engine
  length : s.checks.length = t.checks.length
  checks : ∀ place, s.checks[place]? = t.checks[place]?.map (Check.brought (ending? place later))

section

variable {later : List (Transition Work)} {t s : Traffic Work} {ev : Event Work}

/-- A transition that ends no check leaves to every check the ending that it has. -/
theorem Ahead.checks_of_endingAt?_eq_none (h : Ahead (⟨t, ev⟩ :: later) t s)
    (hnone : ∀ place, endingAt? place ⟨t, ev⟩ = none) (place : Nat) :
    s.checks[place]? = t.checks[place]?.map (Check.brought (ending? place later)) := by
  rw [h.checks, ending?_cons, hnone, Option.none_or]

theorem bring_of_length (x? : Option Ending) (t : Traffic Work) :
    bring t.checks.length x? t = t := by
  have hnone : t.waiting? t.checks.length = none := by
    simp [waiting?]
  unfold bring
  rw [hnone]
  cases x? <;> rfl

/-- Whatever does not end a check happens at its time, and the check that it starts is ended. -/
theorem serialStep_of_begins? (tr : Transition Work) {x : Progress × Engine Work}
    (h : begins? tr.event (s.onClock tr.before.engine.clock).engine = some x) :
    serialStep later tr s = bring s.checks.length (ending? s.checks.length later)
      { engine := x.2, checks := s.checks ++ [checkOf x.1] } := by
  have hstep := step_of_begins? h
  obtain ⟨t, ev⟩ := tr
  cases ev with
  | start r => exact congrArg (bring _ _) hstep
  | submit permission context => exact congrArg (bring _ _) hstep
  | finish place o => cases h
  | cancel place => cases h
  | manage m => cases h
  | clearGrants => cases h

theorem serialStep_submit_of_begins?_eq_none {permission context : Value}
    (h : begins? (.submit permission context) (s.onClock t.engine.clock).engine = none) :
    serialStep later ⟨t, .submit permission context⟩ s = s.onClock t.engine.clock := by
  refine (congrArg (bring _ _) (step_submit_of_begins?_eq_none h)).trans ?_
  exact bring_of_length _ (s.onClock t.engine.clock)

theorem serialStep_manage (m : Management Work) :
    serialStep later ⟨t, .manage m⟩ s = ((s.onClock t.engine.clock).step (.manage m)).2 :=
  bring_of_length _ _

theorem serialStep_clearGrants :
    serialStep later ⟨t, .clearGrants⟩ s = ((s.onClock t.engine.clock).step .clearGrants).2 :=
  bring_of_length _ _

theorem Ahead.begun {x : Progress × Engine Work} (h : Ahead (⟨t, ev⟩ :: later) t s)
    (hnone : ∀ place, endingAt? place ⟨t, ev⟩ = none) (hbegins : begins? ev t.engine = some x) :
    Ahead later (t.step ev).2 (serialStep later ⟨t, ev⟩ s) := by
  obtain ⟨hnot, -⟩ | ⟨y, x', hy, hx', hresult, htwin⟩ :=
    begins?_of_twin (h.alike.twin t.engine.clock) ev
  · cases hbegins.symm.trans hnot
  · obtain rfl : x = y := Option.some.inj (hbegins.symm.trans hy)
    rw [step_of_begins? hbegins, serialStep_of_begins? ⟨t, ev⟩ hx']
    obtain ⟨hchecks, halike⟩ := bring_last s.checks (checkOf x'.1)
      (ending? s.checks.length later) x'.2
    refine ⟨htwin.alike.trans halike, ?_, ?_⟩
    · rw [hchecks]
      simp only [List.length_append, List.length_singleton, h.length]
    · intro place
      rw [hchecks]
      have hold := h.checks_of_endingAt?_eq_none hnone place
      rcases Nat.lt_trichotomy place t.checks.length with hlt | rfl | hgt
      · rw [List.getElem?_append_left (h.length ▸ hlt), List.getElem?_append_left hlt, hold]
      · rw [← h.length]
        simp [h.length, hresult]
      · rw [List.getElem?_eq_none (by simp [h.length]; omega),
          List.getElem?_eq_none (by simp; omega)]
        rfl

theorem Ahead.ended {x : Ending} {place : Nat} {p : Pending}
    (h : Ahead (⟨t, ev⟩ :: later) t s) (hwaiting : t.waiting? place = some p)
    (hev : ev = x.event place) (hclock : t.engine.clock = x.clock)
    (hending : ∀ other, endingAt? other ⟨t, ev⟩ = if place = other then some x else none) :
    Ahead later (t.step ev).2 s := by
  subst hev
  obtain ⟨hchecks, halike⟩ := step_end hwaiting hclock
  refine ⟨halike.symm.trans h.alike, ?_, ?_⟩
  · rw [hchecks, List.length_set, h.length]
  · intro other
    rw [hchecks, h.checks, ending?_cons, hending, List.getElem?_set]
    by_cases hother : place = other
    · subst hother
      rw [if_pos rfl, if_pos rfl, if_pos (lt_of_waiting? hwaiting),
        waiting?_eq_some_iff.1 hwaiting, Option.some_or, Option.map_some, Option.map_some,
        Check.brought_of_not_waiting (x.pending?_check p)]
      rfl
    · rw [if_neg hother, if_neg hother, Option.none_or]

/-- Where nothing happens to the checks, a serial run that is as far stays so. -/
theorem Ahead.same {t' s' : Traffic Work} (h : Ahead (⟨t, ev⟩ :: later) t s)
    (hnone : ∀ place, endingAt? place ⟨t, ev⟩ = none) (halike : Alike t'.engine s'.engine)
    (ht : t'.checks = t.checks) (hs : s'.checks = s.checks) : Ahead later t' s' := by
  refine ⟨halike, ?_, ?_⟩
  · rw [ht, hs, h.length]
  · rw [ht, hs]
    exact h.checks_of_endingAt?_eq_none hnone

/-- Each transition takes a serial run as far as the interleaved one. -/
theorem Ahead.step (h : Ahead (⟨t, ev⟩ :: later) t s) :
    Ahead later (t.step ev).2 (serialStep later ⟨t, ev⟩ s) := by
  cases ev with
  | start r => exact h.begun (fun _ => rfl) rfl
  | submit permission context =>
      cases hbegins : begins? (.submit permission context) t.engine with
      | some x => exact h.begun (fun _ => rfl) hbegins
      | none =>
          have hserial : begins? (.submit permission context) (s.onClock t.engine.clock).engine =
              none := by
            rcases begins?_of_twin (h.alike.twin t.engine.clock) (.submit permission context) with
              ⟨-, hnone⟩ | ⟨x, x', hx, -, -⟩
            · exact hnone
            · cases hbegins.symm.trans hx
          rw [step_submit_of_begins?_eq_none hbegins, serialStep_submit_of_begins?_eq_none hserial]
          exact h.same (fun _ => rfl) (h.alike.trans (alike_onClock _ _)) rfl rfl
  | finish place o =>
      cases hwaiting : t.waiting? place with
      | some p =>
          refine h.ended (x := { clock := t.engine.clock, outcome? := some o }) hwaiting rfl rfl ?_
          intro other
          simp [endingAt?, hwaiting]
      | none =>
          have hidle : (t.step (.finish place o)).2 = t := by
            simp only [Traffic.step, hwaiting]
          rw [hidle]
          refine h.same ?_ h.alike rfl rfl
          intro other
          simp [endingAt?, hwaiting]
  | cancel place =>
      cases hwaiting : t.waiting? place with
      | some p =>
          refine h.ended (x := { clock := t.engine.clock, outcome? := none }) hwaiting rfl rfl ?_
          intro other
          simp [endingAt?, hwaiting]
      | none =>
          have hidle : (t.step (.cancel place)).2 = t := by
            simp only [Traffic.step, hwaiting]
          rw [hidle]
          refine h.same ?_ h.alike rfl rfl
          intro other
          simp [endingAt?, hwaiting]
  | manage m =>
      rw [serialStep_manage]
      exact h.same (fun _ => rfl) ((h.alike.twin t.engine.clock).manage m).alike rfl rfl
  | clearGrants =>
      rw [serialStep_clearGrants]
      refine h.same (fun _ => rfl) ?_ rfl rfl
      exact ⟨h.alike.settings, h.alike.catalog, h.alike.policy, rfl, h.alike.handler⟩

end

theorem Ahead.run (events : List (Event Work)) {t s : Traffic Work}
    (h : Ahead (transitions events t) t s) :
    Ahead [] (t.run events) (serial (transitions events t) s) := by
  induction events generalizing t s with
  | nil => exact h
  | cons ev rest ih => exact ih h.step

theorem Ahead.checks_eq {t s : Traffic Work} (h : Ahead [] t s) : s.checks = t.checks := by
  refine List.ext_getElem? fun place => ?_
  rw [h.checks]
  have hsame : Check.brought (ending? place ([] : List (Transition Work))) = id := by
    funext c
    cases c <;> rfl
  rw [hsame, Option.map_id]
  rfl

/-! ## Checks alone -/

theorem checks_serialStep (later : List (Transition Work)) (tr : Transition Work)
    {s : Traffic Work} {x : Progress × Engine Work}
    (h : begins? tr.event (s.onClock tr.before.engine.clock).engine = some x) :
    (serialStep later tr s).checks =
      s.checks ++ [(checkOf x.1).brought (ending? s.checks.length later)] := by
  rw [serialStep_of_begins? tr h]
  exact (bring_last s.checks (checkOf x.1) _ x.2).1

/-- The checks of a serial run stay as they are once they are there. -/
theorem checks_prefix_serialStep (later : List (Transition Work)) (tr : Transition Work)
    (s : Traffic Work) : s.checks <+: (serialStep later tr s).checks := by
  cases hbegins : begins? tr.event (s.onClock tr.before.engine.clock).engine with
  | some x => exact checks_serialStep later tr hbegins ▸ List.prefix_append _ _
  | none =>
      obtain ⟨t, ev⟩ := tr
      cases ev with
      | start r => cases hbegins
      | submit permission context =>
          rw [serialStep_submit_of_begins?_eq_none hbegins]
          exact List.prefix_refl _
      | finish place o => exact List.prefix_refl _
      | cancel place => exact List.prefix_refl _
      | manage m =>
          rw [serialStep_manage]
          exact List.prefix_refl _
      | clearGrants =>
          rw [serialStep_clearGrants]
          exact List.prefix_refl _

theorem checks_prefix_serial (trs : List (Transition Work)) (s : Traffic Work) :
    s.checks <+: (serial trs s).checks := by
  induction trs generalizing s with
  | nil => exact List.prefix_refl _
  | cons tr later ih => exact (checks_prefix_serialStep later tr s).trans (ih _)

/-- What a check comes to in a run that starts it is read off its start and its ending. -/
theorem check_of_begins? {events : List (Event Work)} {t s : Traffic Work}
    (h : Ahead (transitions events t) t s) {before after : List (Transition Work)}
    {tr : Transition Work} (hsplit : transitions events t = before ++ tr :: after)
    {x : Progress × Engine Work} (hbegins : begins? tr.event tr.before.engine = some x) :
    (t.run events).checks[tr.before.checks.length]? =
      some ((checkOf x.1).brought (ending? tr.before.checks.length after)) := by
  induction before generalizing events t s with
  | nil =>
      cases events with
      | nil => cases hsplit
      | cons ev rest =>
          obtain ⟨rfl, rfl⟩ := List.cons.inj hsplit
          obtain ⟨hnone, -⟩ | ⟨y, x', hy, hx', hresult, -⟩ :=
            begins?_of_twin (h.alike.twin t.engine.clock) ev
          · cases hbegins.symm.trans hnone
          · obtain rfl : x = y := Option.some.inj (hbegins.symm.trans hy)
            have hserial := checks_serialStep (transitions rest (t.step ev).2) ⟨t, ev⟩ hx'
            have hrun := (Ahead.run rest h.step).checks_eq
            have hprefix := checks_prefix_serial (transitions rest (t.step ev).2)
              (serialStep (transitions rest (t.step ev).2) ⟨t, ev⟩ s)
            rw [hserial, hrun, hresult, h.length] at hprefix
            obtain ⟨others, hothers⟩ := hprefix
            show ((t.step ev).2.run rest).checks[t.checks.length]? = _
            rw [← hothers, ← h.length]
            simp
  | cons first before ih =>
      cases events with
      | nil => cases hsplit
      | cons ev rest =>
          obtain ⟨rfl, hrest⟩ := List.cons.inj hsplit
          have hlater := ih h.step hrest
          exact hlater

theorem alone_of_begins? {ev : Event Work} {e : Engine Work} {x : Progress × Engine Work}
    (h : begins? ev e = some x) (x? : Option Ending) :
    alone ev x? e = some ((checkOf x.1).brought x?) := by
  unfold alone
  rw [step_of_begins? (t := { engine := e }) h]
  exact congrArg (fun checks => checks[0]?) (bring_last [] (checkOf x.1) x? x.2).1

/-! ## Other clocks -/

/-- Two checks that have come to the same, at whatever time. -/
inductive SameCourse : Progress -> Progress -> Prop where
  | ended {d d' : Decision} (finding : d'.finding = d.finding) :
      SameCourse (.ended (.ok d)) (.ended (.ok d'))
  | waiting (p : Pending) : SameCourse (.waiting p) (.waiting p)

theorem sameCourse_start {e e' : Engine Work} (h : Alike e e') (hclock : e.clock.Readable)
    (hclock' : e'.clock.Readable) (htime : e'.clock.time = e.clock.time) (r : Request) :
    SameCourse (e.start r).1 (e'.start r).1 := by
  have hweigh : e'.weigh r e'.clock.time = e.weigh r e.clock.time := by
    rw [htime, h.weigh]
  cases hfound : (e.weigh r e.clock.time).1 with
  | found f =>
      rw [start_of_found hclock hfound, start_of_found hclock' ((congrArg Prod.fst hweigh).trans hfound)]
      exact .ended rfl
  | due i =>
      rw [start_of_due hclock hfound, start_of_due hclock' ((congrArg Prod.fst hweigh).trans hfound)]
      exact .waiting _

/-- A check starts alike on engines that decide alike, if their clocks show the same time. -/
theorem begins?_of_alike {e e' : Engine Work} (h : Alike e e') (hclock : e.clock.Readable)
    (hclock' : e'.clock.Readable) (htime : e'.clock.time = e.clock.time) {ev : Event Work}
    {x : Progress × Engine Work} (hbegins : begins? ev e = some x) :
    ∃ x', begins? ev e' = some x' ∧ SameCourse x.1 x'.1 := by
  cases ev with
  | start r =>
      cases hbegins
      exact ⟨_, rfl, sameCourse_start h hclock hclock' htime r⟩
  | submit permission context =>
      revert hbegins
      simp only [begins?, startRaw]
      cases requestOf permission context with
      | ok r =>
          rintro ⟨⟩
          exact ⟨_, rfl, sameCourse_start h hclock hclock' htime r⟩
      | error rejection =>
          cases echo permission context with
          | error f => rintro ⟨⟩
          | ok r =>
              rintro ⟨⟩
              refine ⟨_, rfl, ?_⟩
              simp only [stamp_of_readable hclock, stamp_of_readable hclock']
              exact .ended rfl
  | finish place o => cases hbegins
  | cancel place => cases hbegins
  | manage m => cases hbegins
  | clearGrants => cases hbegins

theorem finding?_check {x : Ending} (h : x.clock.Readable) (p : Pending) :
    (x.check p).finding? = x.outcome?.map Finding.ofOutcome := by
  unfold Ending.check
  cases x.outcome? with
  | none => rfl
  | some o =>
      simp only [finish_of_readable (e := ({ clock := x.clock } : Engine Unit)) h]
      rfl

/-- What a check finds does not hang on the time at which it ends. -/
theorem finding?_brought {p p' : Progress} (h : SameCourse p p') {x? : Option Ending}
    {clock : Clock} (hx : ∀ x, x? = some x -> x.clock.Readable) (hclock : clock.Readable) :
    ((checkOf p').brought (x?.map (Ending.onClock clock))).finding? =
      ((checkOf p).brought x?).finding? := by
  cases h with
  | ended finding => exact congrArg some finding
  | waiting p =>
      cases x? with
      | none => rfl
      | some x =>
          exact (finding?_check (x := x.onClock clock) hclock p).trans
            (finding?_check (hx x rfl) p).symm

/-! ## Linearization -/

/--
The check that a transition starts comes to what it comes to alone, on an engine that decides alike,
with the ending that it gets in the run: to the very same at the same times, and to the same finding
at any times, if the first is that of its start.
-/
structure AsAlone (tr : Transition Work) (later : List (Transition Work)) (t : Traffic Work) :
    Prop where
  same : ∀ e', Alike tr.before.engine e' -> e'.clock = tr.before.engine.clock ->
    t.checks[tr.before.checks.length]? =
      alone tr.event (ending? tr.before.checks.length later) e'
  finding : ∀ e' clock, Alike tr.before.engine e' ->
    e'.clock.time = tr.before.engine.clock.time ->
    tr.before.engine.clock.Readable -> e'.clock.Readable -> clock.Readable ->
    (∀ x, ending? tr.before.checks.length later = some x -> x.clock.Readable) ->
    t.checks[tr.before.checks.length]?.map Check.finding? =
      (alone tr.event ((ending? tr.before.checks.length later).map (Ending.onClock clock))
        e').map Check.finding?

theorem asAlone_of_split {events : List (Event Work)} {t s : Traffic Work}
    (h : Ahead (transitions events t) t s) {before after : List (Transition Work)}
    {tr : Transition Work} (hsplit : transitions events t = before ++ tr :: after)
    {x : Progress × Engine Work} (hbegins : begins? tr.event tr.before.engine = some x) :
    AsAlone tr after (t.run events) := by
  have hcheck := check_of_begins? h hsplit hbegins
  refine ⟨?_, ?_⟩
  · intro e' halike hclock
    obtain ⟨hnone, -⟩ | ⟨y, x', hy, hx', hresult, -⟩ :=
      begins?_of_twin (halike.twin_of_clock hclock) tr.event
    · cases hbegins.symm.trans hnone
    · obtain rfl : x = y := Option.some.inj (hbegins.symm.trans hy)
      rw [hcheck, alone_of_begins? hx', hresult]
  · intro e' clock halike htime hstart hstart' hclock hending
    obtain ⟨x', hbegins', hcourse⟩ := begins?_of_alike halike hstart hstart' htime hbegins
    rw [hcheck, alone_of_begins? hbegins', Option.map_some, Option.map_some,
      finding?_brought hcourse hending hclock]

/--
However checks interleave, each comes to what it comes to alone where it starts; the run leaves the
checks and the grants that it leaves in the serial order of the starts; and the log gets one entry
for each check that is completed, in the order in which they are completed.
-/
theorem checks_linearize (events : List (Event Work)) (e : Engine Work) :
    let t : Traffic Work := { engine := e }
    let trs := transitions events t
    (∀ before tr after, trs = before ++ tr :: after ->
      (begins? tr.event tr.before.engine).isSome -> AsAlone tr after (t.run events)) ∧
    (serial trs t).checks = (t.run events).checks ∧
    (serial trs t).engine.grants = (t.run events).engine.grants ∧
    Completed trs t (t.run events) ∧
    ((∀ ev ∈ events, ¬ ev.CutsLog) ->
      (t.run events).engine.log.entries =
        e.log.entries ++ (trs.filterMap Transition.decided?).map Decision.entry) ∧
    ((∀ tr ∈ trs, tr.before.engine.clock.Readable) -> (t.run events).Settled) := by
  intro t trs
  have hahead : Ahead trs t t :=
    ⟨⟨rfl, rfl, rfl, rfl, rfl⟩, rfl, fun place => rfl⟩
  have hsettled : t.Settled := fun c hmem => nomatch hmem
  refine ⟨?_, hahead.run.checks_eq, hahead.run.alike.grants, completed_run events t,
    fun hkeep => entries_run hkeep t, hsettled.run⟩
  intro before tr after hsplit hstarts
  obtain ⟨x, hbegins⟩ := Option.isSome_iff_exists.1 hstarts
  exact asAlone_of_split hahead hsplit hbegins

/-- A refund waits, its grant is revoked, another one is denied, and then the first is confirmed. -/
def overtaken : List (Event Unit) :=
  [.start refund, .manage (.revoke "payments.refund"), .start refund, .finish 0 .approved]

def overtakenTransitions : List (Transition Unit) :=
  transitions overtaken { engine := refundEngine .silent }

theorem checks_linearize_overtaken :
    completions overtakenTransitions = [1, 0] ∧
      (overtakenTransitions.filterMap Transition.decided?).map Decision.granted =
        [false, true] ∧
      ((serial overtakenTransitions { engine := refundEngine .silent }).checks.map
        fun c => c.decision?.map Decision.granted) = [some true, some false] ∧
      (run overtaken { engine := refundEngine .silent }).engine.log.entries.map
        (fun entry => entry.result.granted) = [false, true] := by
  obtain ⟨-, hchecks, -, -, hlog, -⟩ := checks_linearize overtaken (refundEngine .silent)
  have hkeep : ∀ ev ∈ overtaken, ¬ ev.CutsLog := by
    simp [overtaken, Event.CutsLog]
  refine ⟨by decide +kernel, by decide +kernel, ?_, ?_⟩
  · rw [overtakenTransitions, hchecks]
    decide +kernel
  · rw [hlog hkeep, List.map_append, List.map_map]
    decide +kernel

end Traffic

end Engine

end Clearance
