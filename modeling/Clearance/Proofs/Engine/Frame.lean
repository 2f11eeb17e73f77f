import Clearance.Proofs.Engine.Alike
import Clearance.Proofs.Engine.Asking
import Clearance.Proofs.Engine.Conservation
import Clearance.Proofs.Grants.Effects

/-!
# What a check changes

A check whose handler leaves the engine alone changes the grants where it is looked up, and the log
at its end, and nothing else.  Of the grants it changes no more than the lookup of its name does.
So checks of different names at one time can be made in either order: each comes to the same, and
only their entries in the log change places.
-/

namespace Clearance.Engine

open Confirmation (Handler Outcome)

variable {Work : Type}

/-! ## Lookups -/

/-- What is looked up depends on the grants by the grant that is found alone. -/
theorem fst_lookup_congr {r : Request} {now : Timestamp} {g g' : Grants}
    (h : (g'.consume r.permission now).1 = (g.consume r.permission now).1) (p : Permission)
    (policy : Policy) : (lookup p policy r now g').1 = (lookup p policy r now g).1 := by
  revert h
  unfold lookup
  rcases g.consume r.permission now with ⟨_ | m, g₁⟩ <;>
    rcases g'.consume r.permission now with ⟨_ | m', g₁'⟩ <;> rintro ⟨⟩
  · rfl
  · dsimp only
    split <;> rfl

theorem fst_weigh (r : Request) (now : Timestamp) (e : Engine Work) :
    (e.weigh r now).1 =
      match e.catalog.get? r.permission with
      | none => .found (Finding.unknown r.permission)
      | some p =>
          match (lookup p e.policy r now e.grants).1, e.handler? with
          | .error fault, _ => .found (Finding.failed fault.message)
          | .ok (.found f), _ => .found f
          | .ok (.due i), some _ => .due i
          | .ok (.due _), none =>
              .found (Finding.ofOutcome (Outcome.ofUnhandled e.settings.unhandledConfirmation))
      := by
  unfold weigh
  cases e.catalog.get? r.permission with
  | none => rfl
  | some p =>
      dsimp only
      rcases lookup p e.policy r now e.grants with ⟨fault | (f | i), g⟩
      · rfl
      · rfl
      · cases e.handler? <;> rfl

/-- So it is with what a check finds. -/
theorem fst_weigh_congr {r : Request} {now : Timestamp} {e e' : Engine Work}
    (halike : Alike e { e' with grants := e.grants })
    (h : (e'.grants.consume r.permission now).1 = (e.grants.consume r.permission now).1) :
    (e'.weigh r now).1 = (e.weigh r now).1 := by
  have hsettings : e'.settings = e.settings := halike.settings
  have hcatalog : e'.catalog = e.catalog := halike.catalog
  have hpolicy : e'.policy = e.policy := halike.policy
  have hhandler : e'.handler? = e.handler? := halike.handler
  simp only [fst_weigh, hsettings, hcatalog, hpolicy, hhandler, fst_lookup_congr h]

/-- The time at which a request is looked up: it is registered, and the clock can be read. -/
def lookupTime? (r : Request) (e : Engine Work) : Option Timestamp :=
  if (e.catalog.get? r.permission).isSome then e.clock.read.1.toOption else none

/-- The grants as the lookup of a request leaves them. -/
def looked (r : Request) (e : Engine Work) : Grants :=
  match e.lookupTime? r with
  | some now => (e.grants.consume r.permission now).2
  | none => e.grants

theorem looked_of_none {r : Request} {e : Engine Work} (h : e.lookupTime? r = none) :
    e.looked r = e.grants := by
  simp only [looked, h]

theorem looked_of_some {r : Request} {e : Engine Work} {now : Timestamp}
    (h : e.lookupTime? r = some now) : e.looked r = (e.grants.consume r.permission now).2 := by
  simp only [looked, h]

theorem lookupTime?_of_read {r : Request} {e : Engine Work} {p : Permission} {now : Timestamp}
    {clock : Clock} (registered : e.catalog.get? r.permission = some p)
    (read : e.clock.read = (.ok now, clock)) : e.lookupTime? r = some now := by
  simp [lookupTime?, registered, read, Except.toOption]

/-- The start of a check changes the grants by its lookup, and else the log and the clock. -/
theorem alike_start (r : Request) (e : Engine Work) :
    Alike { e with grants := e.looked r } (e.start r).2 := by
  have hstarted := e.started r
  generalize e.start r = x at hstarted ⊢
  cases hstarted with
  | unknown unregistered =>
      have hnone : e.lookupTime? r = none := by simp [lookupTime?, unregistered]
      rw [looked_of_none hnone]
      exact alike_conclude r _ e
  | @unread p fault clock registered read =>
      have hnone : e.lookupTime? r = none := by
        simp [lookupTime?, registered, read, Except.toOption]
      rw [looked_of_none hnone]
      exact (alike_onClock clock e).trans (alike_stamp r _ _)
  | failed registered read lookup =>
      rw [looked_of_some (lookupTime?_of_read registered read), ← snd_lookup, lookup]
      exact (alike_onClock _ _).trans (alike_stamp r _ _)
  | found registered read lookup =>
      rw [looked_of_some (lookupTime?_of_read registered read), ← snd_lookup, lookup]
      exact (alike_onClock _ _).trans (alike_conclude r _ _)
  | waiting registered read lookup =>
      rw [looked_of_some (lookupTime?_of_read registered read), ← snd_lookup, lookup]
      exact alike_onClock _ _
  | unhandled registered read lookup =>
      rw [looked_of_some (lookupTime?_of_read registered read), ← snd_lookup, lookup]
      exact (alike_onClock _ _).trans (alike_conclude r _ _)

/-! ## Approvals by a limited grant -/

theorem source_of_conclude {e : Engine Work} {r : Request} {f : Finding} {d : Decision}
    (h : (e.conclude r f).1 = .ok d) : d.source = f.source ∨ d.source = .error := by
  revert h
  simp only [conclude]
  rcases hstamp : e.stamp r f with ⟨fault | d', e'⟩
  · intro hfail
    exact .inr (congrArg Finding.source (stamp_eq_ok hfail))
  · rintro ⟨⟩
    exact .inl (congrArg Finding.source (stamp_eq_ok (congrArg Prod.fst hstamp)))

/-- Only a limited grant is found as one. -/
theorem limited_of_lookup {p : Permission} {policy : Policy} {r : Request} {now : Timestamp}
    {g g' : Grants} {f : Finding} (h : lookup p policy r now g = (.ok (.found f), g'))
    (hsource : f.source = .limitedGrant) :
    ∃ left, (g.consume r.permission now).1 = some (.limited left) := by
  revert h
  unfold lookup
  rcases g.consume r.permission now with ⟨_ | m, g₁⟩
  · intro h
    have hpolicy := congrArg Prod.fst h
    unfold Finding.ofPolicy at hpolicy
    cases hmatch : policy.findMatch r.permission { context := r.context, now } with
    | error fault =>
        rw [hmatch] at hpolicy
        cases hpolicy
    | ok m? =>
        rw [hmatch] at hpolicy
        cases m? <;> cases hpolicy <;> cases hsource
  · dsimp only
    split
    · rintro ⟨⟩
    · rintro ⟨⟩
      cases m with
      | limited left => exact ⟨left, rfl⟩
      | temporary expiry => cases hsource
      | standing granted => cases hsource

theorem limited_of_start {e : Engine Work} {r : Request} {d : Decision}
    (h : (e.start r).1 = .ended (.ok d)) (hsource : d.source = .limitedGrant) :
    ∃ now left, e.lookupTime? r = some now ∧
      (e.grants.consume r.permission now).1 = some (.limited left) := by
  have hstarted := e.started r
  generalize e.start r = x at hstarted h
  have hconclude {e' : Engine Work} {f : Finding}
      (hend : (ended (e'.conclude r f)).1 = .ended (.ok d)) : f.source = .limitedGrant := by
    rcases source_of_conclude (Progress.ended.inj hend) with hfound | herror
    · exact hfound.symm.trans hsource
    · cases herror.symm.trans hsource
  have hfail {e' : Engine Work} {message : String}
      (hend : (ended (e'.fail r message)).1 = .ended (.ok d)) : False := by
    have hfinding := congrArg Finding.source (stamp_eq_ok (Progress.ended.inj hend))
    cases (show d.source = .error from hfinding).symm.trans hsource
  cases hstarted with
  | unknown unregistered => cases hconclude h
  | unread registered read => exact (hfail h).elim
  | failed registered read lookup => exact (hfail h).elim
  | found registered read lookup =>
      obtain ⟨left, hleft⟩ := limited_of_lookup lookup (hconclude h)
      exact ⟨_, left, lookupTime?_of_read registered read, hleft⟩
  | waiting registered read lookup handled => cases h
  | unhandled registered read lookup nobody =>
      have hunhandled := hconclude h
      revert hunhandled
      cases e.settings.unhandledConfirmation <;> rintro ⟨⟩

namespace Session

/-! ## Whole checks -/

theorem engine_heard_of_quiet {s : Session} {handler : Handler (List Operation)} {r : Request}
    {now : Timestamp} {p : Permission} (h : s.engine.Asks handler r now p)
    (hquiet : handler.Quiet) (depth : Nat) (i : Inquiry) :
    (s.heard depth r i).engine = (s.engine.start r).2 := by
  have hhandler : (s.engine.start r).2.handler? = some handler :=
    (handler?_start r s.engine).trans h.handler
  simp only [heard, consult, hhandler]
  cases hwork : handler.work? with
  | none => rfl
  | some ops =>
      obtain rfl := hquiet ops hwork
      rfl

theorem alike_cancel (p : Pending) (s : Session) : Alike s.engine (s.cancel p).2.engine := by
  have hstamp := alike_stamp p.request Finding.cancelled s.engine
  revert hstamp
  simp only [cancel, on, Engine.cancel]
  rcases s.engine.stamp p.request Finding.cancelled with ⟨fault | d, e⟩ <;> exact id

/-- A check changes the grants by its lookup, and else no more than the log and the clock. -/
theorem alike_evaluate {s : Session}
    (hquiet : ∀ handler, s.engine.handler? = some handler -> handler.Quiet) (depth : Nat)
    (r : Request) (interrupted : Bool) :
    Alike { s.engine with grants := s.engine.looked r }
      (run (depth + 1) (.evaluate r interrupted) s).2.engine := by
  rw [run_evaluate]
  have hstart := alike_start r s.engine
  cases hprogress : (s.engine.start r).1 with
  | ended x =>
      rw [evaluating_of_ended hprogress]
      exact hstart
  | waiting q =>
      obtain ⟨handler, now, p, hasks, -⟩ := start_eq_waiting_iff.1 hprogress
      have hheard := engine_heard_of_quiet hasks (hquiet handler hasks.handler) depth (inquiry r p)
      rw [← hheard] at hstart
      rw [evaluating_of_asks hasks]
      split
      · exact hstart.trans (alike_cancel _ _)
      · exact hstart.trans (alike_conclude _ _ _)

/-- A check is approved by a limited grant. -/
def ByLimit (x : Result) : Prop :=
  ∃ d, x = .ok (.decision d) ∧ d.granted = true ∧ d.source = .limitedGrant

/-- Whatever the clock does, a limited grant approves no check whose lookup did not find it. -/
theorem limited_of_byLimit {s : Session} {depth : Nat} {r : Request} {interrupted : Bool}
    (h : ByLimit (run (depth + 1) (.evaluate r interrupted) s).1) :
    ∃ now left, s.engine.lookupTime? r = some now ∧
      (s.engine.grants.consume r.permission now).1 = some (.limited left) := by
  obtain ⟨d, hrun, -, hsource⟩ := h
  rw [run_evaluate] at hrun
  cases hprogress : (s.engine.start r).1 with
  | ended x =>
      rw [evaluating_of_ended hprogress] at hrun
      rcases x with fault | d' <;> cases hrun
      exact limited_of_start hprogress hsource
  | waiting q =>
      obtain ⟨handler, now, p, hasks, -⟩ := start_eq_waiting_iff.1 hprogress
      rw [evaluating_of_asks hasks] at hrun
      split at hrun
      · rcases (cancel_cases { request := r, inquiry := inquiry r p }
          (s.heard depth r (inquiry r p))).1 with hcancel | ⟨fault, hcancel⟩ <;>
          rw [hcancel] at hrun <;> cases hrun
      · rw [finish_fst] at hrun
        rcases hconclude : ((s.heard depth r (inquiry r p)).engine.conclude r
          (.ofOutcome (.ofReply ((handler.ask (inquiry r p)).1.getD .timedOut)))).1 with fault | d'
        · rw [hconclude] at hrun
          cases hrun
        · rw [hconclude] at hrun
          cases hrun
          rcases source_of_conclude hconclude with hfound | herror
          · rw [hsource] at hfound
            revert hfound
            cases Outcome.ofReply ((handler.ask (inquiry r p)).1.getD .timedOut) <;> rintro ⟨⟩
          · cases herror.symm.trans hsource

/-- A limited grant that is found approves, if the clock can be read. -/
theorem byLimit_of_limited {s : Session} (hclock : s.engine.clock.Readable) {r : Request}
    {now : Timestamp} {left : Int} (htime : s.engine.lookupTime? r = some now)
    (hfound : (s.engine.grants.consume r.permission now).1 = some (.limited left)) (depth : Nat)
    (interrupted : Bool) : ByLimit (run (depth + 1) (.evaluate r interrupted) s).1 := by
  unfold lookupTime? at htime
  split at htime
  · rename_i hregistered
    obtain ⟨p, hget⟩ := Option.isSome_iff_exists.1 hregistered
    rw [hclock.read] at htime
    cases htime
    have hlookup : (lookup p s.engine.policy r s.engine.clock.time s.engine.grants).1 =
        .ok (.found (.ofGrant (.limited left))) := by
      revert hfound
      unfold lookup
      rcases s.engine.grants.consume r.permission s.engine.clock.time with ⟨m?, g⟩
      rintro ⟨⟩
      rfl
    have hweigh : (s.engine.weigh r s.engine.clock.time).1 = .found (.ofGrant (.limited left)) := by
      revert hlookup
      simp only [weigh, hget]
      rcases lookup p s.engine.policy r s.engine.clock.time s.engine.grants with ⟨found, g⟩
      rintro ⟨⟩
      rfl
    rw [run_evaluate, evaluating_of_found hclock hweigh]
    exact ⟨_, rfl, rfl, rfl⟩
  · cases htime

/--
What a check of a request may change in an engine: the grants as its lookup charges them, if it is
looked up, and what is not named here, the log, the sink and the clock.
-/
structure Frame (r : Request) (approved : Bool) (e e' : Engine (List Operation)) : Prop where
  settings : e'.settings = e.settings
  catalog : e'.catalog = e.catalog
  policy : e'.policy = e.policy
  handler : e'.handler? = e.handler?
  looked : ∀ now, e.lookupTime? r = some now ->
    Grants.Charged r.permission now approved e.grants e'.grants
  unlooked : e.lookupTime? r = none -> e'.grants = e.grants ∧ approved = false

/-- A check is approved by a limited grant just if a use is taken, and leaves the rest alone. -/
theorem frame_evaluate {s : Session}
    (hquiet : ∀ handler, s.engine.handler? = some handler -> handler.Quiet) (depth : Nat)
    (r : Request) (interrupted : Bool) :
    ∃ approved,
      Frame r approved s.engine (run (depth + 1) (.evaluate r interrupted) s).2.engine ∧
      (ByLimit (run (depth + 1) (.evaluate r interrupted) s).1 -> approved = true) ∧
      (s.engine.clock.Readable -> approved = true ->
        ByLimit (run (depth + 1) (.evaluate r interrupted) s).1) := by
  have halike := alike_evaluate hquiet depth r interrupted
  have hlimit := @limited_of_byLimit s depth r interrupted
  cases htime : s.engine.lookupTime? r with
  | none =>
      have hgrants := halike.grants
      rw [looked_of_none htime] at hgrants
      refine ⟨false, ⟨halike.settings, halike.catalog, halike.policy, halike.handler, ?_,
        fun _ => ⟨hgrants, rfl⟩⟩, ?_, ?_⟩
      · exact fun now hnow => nomatch htime.symm.trans hnow
      · intro hby
        obtain ⟨now, left, hnow, -⟩ := hlimit hby
        cases htime.symm.trans hnow
      · rintro - ⟨⟩
  | some now =>
      obtain ⟨approved, hcharged, happroved⟩ :=
        Grants.charged_consume r.permission now s.engine.grants
      have hgrants : _ = (s.engine.grants.consume r.permission now).2 :=
        halike.grants.trans (looked_of_some htime)
      rw [← hgrants] at hcharged
      refine ⟨approved, ⟨halike.settings, halike.catalog, halike.policy, halike.handler, ?_, ?_⟩,
        ?_, ?_⟩
      · rintro now' hnow
        cases htime.symm.trans hnow
        exact hcharged
      · exact fun hnone => nomatch htime.symm.trans hnone
      · intro hby
        obtain ⟨now', left, hnow, hleft⟩ := hlimit hby
        cases htime.symm.trans hnow
        exact happroved.2 ⟨left, hleft⟩
      · intro hclock htrue
        obtain ⟨left, hleft⟩ := happroved.1 htrue
        exact byLimit_of_limited hclock htime hleft depth interrupted

end Session

/-! ## Clocks that stand still -/

/-- Every reading of a clock gives one time. -/
structure Clock.Shows (now : Timestamp) (c : Clock) : Prop where
  outage : c.outage = 0
  readings : ∀ t ∈ c.now :: c.ahead, t.localize c.zone = .ok now

namespace Clock.Shows

variable {now : Timestamp} {c : Clock}

theorem readable (h : c.Shows now) : c.Readable :=
  ⟨h.outage, fun t ht => ⟨now, h.readings t ht⟩⟩

theorem time_eq (h : c.Shows now) : c.time = now := by
  rw [Clock.time, h.readings c.face c.face_mem]
  rfl

theorem next (h : c.Shows now) : c.next.Shows now := by
  refine ⟨h.outage, fun t ht => h.readings t ?_⟩
  rcases List.mem_cons.1 ht with rfl | ht
  · exact List.mem_cons_self
  · exact List.mem_cons_of_mem _ (List.mem_of_mem_tail ht)

theorem stampClock {e : Engine Work} (h : e.clock.Shows now) (r : Request) :
    (e.stampClock r).Shows now := by
  unfold Engine.stampClock
  split
  · exact h.next
  · exact h

end Clock.Shows

namespace Session

/-! ## Two checks -/

/--
A check of a request, with what the outcome of its confirmation comes from: who is asked, and
whether the check is cancelled for want of an answer.
-/
structure Attempt where
  request : Request
  handler? : Option (Handler (List Operation)) := none
  interrupted : Bool := false
  quiet : ∀ handler, handler? = some handler -> handler.Quiet

namespace Attempt

def asking (a : Attempt) (s : Session) : Session :=
  { s with engine := { s.engine with handler? := a.handler? } }

/-- Makes the check in a session. -/
def run (depth : Nat) (a : Attempt) (s : Session) : Result × Session :=
  Session.run (depth + 1) (.evaluate a.request a.interrupted) (a.asking s)

/-- The finding that the check is ended with, and whether it is cancelled. -/
def ending (a : Attempt) : Lookup -> Finding × Bool
  | .found f => (f, false)
  | .due i =>
      match a.handler?.bind fun handler => (handler.ask i).1 with
      | some reply => (.ofOutcome (.ofReply reply), false)
      | none =>
          if a.interrupted then (.cancelled, true) else (.ofOutcome (.ofReply .timedOut), false)

/-- What the check comes to at a time, by what it finds. -/
def result (a : Attempt) (now : Timestamp) (l : Lookup) : Result :=
  if (a.ending l).2 then .error .cancelled
  else .ok (.decision ((a.ending l).1.decision a.request now))

/-- What the check finds at a time. -/
def finds (a : Attempt) (now : Timestamp) (s : Session) : Lookup :=
  ((a.asking s).engine.weigh a.request now).1

/-- The decision that is recorded. -/
def recorded (a : Attempt) (now : Timestamp) (s : Session) : Decision :=
  (a.ending (a.finds now s)).1.decision a.request now

variable {now : Timestamp} {s : Session}

theorem ending_due {a : Attempt} {handler : Handler (List Operation)}
    (h : a.handler? = some handler) (i : Inquiry) :
    a.ending (.due i) =
      match (handler.ask i).1 with
      | some reply => (.ofOutcome (.ofReply reply), false)
      | none =>
          if a.interrupted then (.cancelled, true)
          else (.ofOutcome (.ofReply .timedOut), false) := by
  simp only [ending, h, Option.bind_some]

theorem stamped_weighed (h : s.engine.clock.Shows now) (a : Attempt) (f : Finding) :
    ((a.asking s).engine.weighed a.request).stamped a.request f = f.decision a.request now := by
  have hclock : (a.asking s).engine.clock.Shows now := h
  exact congrArg (fun t => f.decision a.request t) (hclock.stampClock a.request).time_eq

/-- On a clock that stands still a check comes to what it finds, and records that. -/
theorem run_of_shows (h : s.engine.clock.Shows now) (depth : Nat) (a : Attempt) :
    (a.run depth s).1 = a.result now (a.finds now s) ∧
      (a.run depth s).2.engine =
        ((a.asking s).engine.weighed a.request).settled (a.recorded now s) := by
  have hclock : (a.asking s).engine.clock.Readable := h.readable
  have htime : (a.asking s).engine.clock.time = now := h.time_eq
  unfold result recorded run
  rw [run_evaluate]
  cases hfound : a.finds now s with
  | found f =>
      have hweigh : ((a.asking s).engine.weigh a.request (a.asking s).engine.clock.time).1 =
          .found f := by
        rw [htime]
        exact hfound
      rw [evaluating_of_found hclock hweigh, stamped_weighed h]
      refine ⟨rfl, ?_⟩
      simp only [Session.recorded, stamped_weighed h]
      rfl
  | due i =>
      have hweigh : ((a.asking s).engine.weigh a.request (a.asking s).engine.clock.time).1 =
          .due i := by
        rw [htime]
        exact hfound
      obtain ⟨handler, hhandler⟩ := exists_handler_of_due hweigh
      have ha : a.handler? = some handler := hhandler
      have hconsulted := engine_consulted_of_quiet hhandler (a.quiet handler ha) depth a.request i
      have hafter : ((a.asking s).consulted depth a.request i).engine.clock.Readable := by
        rw [hconsulted]
        exact readable_stampClock hclock a.request
      rw [ending_due ha]
      cases hinterrupted : a.interrupted with
      | false =>
          have houtcome : (a.asking s).engine.outcome i =
              .ofReply ((handler.ask i).1.getD .timedOut) := by
            simp only [outcome, hhandler]
          rw [evaluating_false_of_due hclock hweigh hafter]
          simp only [Session.recorded, hconsulted, stamped_weighed h, houtcome]
          cases (handler.ask i).1 <;> exact ⟨rfl, rfl⟩
      | true =>
          rw [evaluating_true_of_due hclock hweigh hhandler hafter]
          simp only [Session.recorded, hconsulted, stamped_weighed h]
          cases (handler.ask i).1 <;> exact ⟨rfl, rfl⟩

/-- The grants that the check leaves. -/
theorem grants_run (h : s.engine.clock.Shows now) (depth : Nat) (a : Attempt) :
    (a.run depth s).2.engine.grants =
      if (s.engine.catalog.get? a.request.permission).isSome then
        (s.engine.grants.consume a.request.permission now).2
      else s.engine.grants := by
  have hclock : (a.asking s).engine.clock.Shows now := h
  rw [(run_of_shows h depth a).2]
  change ((a.asking s).engine.weigh a.request (a.asking s).engine.clock.time).2 = _
  rw [hclock.time_eq, weigh_grants]
  rfl

theorem shows_run (h : s.engine.clock.Shows now) (depth : Nat) (a : Attempt) :
    (a.run depth s).2.engine.clock.Shows now := by
  have hclock : (a.asking s).engine.clock.Shows now := h
  rw [(run_of_shows h depth a).2]
  exact (hclock.stampClock a.request).next

theorem entries_run (h : s.engine.clock.Shows now) (depth : Nat) (a : Attempt) :
    (a.run depth s).2.engine.log.entries =
      s.engine.log.entries ++ [(a.recorded now s).entry] := by
  rw [(run_of_shows h depth a).2]
  rfl

section

variable {a b : Attempt} (hname : a.request.permission ≠ b.request.permission)
  (h : s.engine.clock.Shows now) (depth : Nat)

include hname h

/-- A check has no part in what a check of another name finds after it. -/
theorem finds_run : b.finds now (a.run depth s).2 = b.finds now s := by
  refine fst_weigh_congr ?_ ?_
  · have hengine : (b.asking (a.run depth s).2).engine =
        { ((a.asking s).engine.weighed a.request).settled (a.recorded now s) with
          handler? := b.handler? } := by
      rw [← (run_of_shows h depth a).2]
      rfl
    rw [hengine]
    exact ⟨rfl, rfl, rfl, rfl, rfl⟩
  · have hgrants : (b.asking (a.run depth s).2).engine.grants = _ := grants_run h depth a
    rw [hgrants]
    split
    · exact Grants.fst_consume_consume hname now s.engine.grants
    · rfl

theorem grants_run_run :
    (b.run depth (a.run depth s).2).2.engine.grants =
      (a.run depth (b.run depth s).2).2.engine.grants := by
  have hcatalog (c : Attempt) : (c.run depth s).2.engine.catalog = s.engine.catalog := by
    rw [(run_of_shows h depth c).2]
    rfl
  rw [grants_run (shows_run h depth a), grants_run (shows_run h depth b), hcatalog, hcatalog,
    grants_run h, grants_run h]
  split <;> split <;> first | rfl | exact Grants.snd_consume_comm hname now s.engine.grants

/-- After a check of another name a check comes to the same, and its entry is the same. -/
theorem run_run :
    (b.run depth (a.run depth s).2).1 = (b.run depth s).1 ∧
      (b.run depth (a.run depth s).2).2.engine.log.entries =
        s.engine.log.entries ++ [(a.recorded now s).entry, (b.recorded now s).entry] := by
  have hfinds := finds_run hname h depth
  have hafter := shows_run h depth a
  constructor
  · rw [(run_of_shows hafter depth b).1, (run_of_shows h depth b).1, hfinds]
  · have hrecorded : b.recorded now (a.run depth s).2 = b.recorded now s := by
      simp only [recorded, hfinds]
    rw [entries_run hafter, entries_run h, hrecorded, List.append_assoc]
    rfl

end

end Attempt

def mail : Request :=
  { permission := "mail.send" }

/-- An engine that knows of refunds and of mail, with one mail granted. -/
def mailEngine : Engine (List Operation) :=
  { refundEngine .silent with
    catalog := Catalog.ofList
      [refundPermission, { name := "mail.send", scope := .tool, risk := .low }]
    grants := (Grants.empty.grant "payments.refund").grantUses "mail.send" 1 }

end Session

end Clearance.Engine
