import Clearance.Engine.State

/-!
# The steps of a check

What a check does from its start to its end, on a clock that can be read.  A check weighs the
catalog, the grants and the policy at one instant and changes the grants then; it ends at once, or
waits.  Nothing that happens while it waits has a part in what it found, and its end only stamps
the finding and records it.
-/

namespace Clearance.Engine

open Confirmation (Handler Outcome)

namespace Clock

/-- Every reading to come can be had, and has a place on the local clock. -/
structure Readable (c : Clock) : Prop where
  outage : c.outage = 0
  local_time : ∀ t ∈ c.now :: c.ahead, ∃ u, t.localize c.zone = .ok u

/-- The time that the next reading gives. -/
def time (c : Clock) : Timestamp :=
  (c.face.localize c.zone).toOption.getD c.face

theorem face_mem (c : Clock) : c.face ∈ c.now :: c.ahead := by
  unfold face
  cases c.ahead with
  | nil => simp
  | cons t rest => simp

theorem Readable.localize_face {c : Clock} (h : c.Readable) :
    c.face.localize c.zone = .ok c.time := by
  obtain ⟨u, hu⟩ := h.local_time c.face c.face_mem
  simp [time, hu, Except.toOption]

theorem Readable.read {c : Clock} (h : c.Readable) : c.read = (.ok c.time, c.next) := by
  simp only [Clock.read, h.outage, h.localize_face]
  rfl

theorem Readable.next {c : Clock} (h : c.Readable) : c.next.Readable where
  outage := h.outage
  local_time := by
    intro t ht
    refine h.local_time t ?_
    rcases List.mem_cons.1 ht with rfl | ht
    · exact List.mem_cons_self
    · exact List.mem_cons_of_mem _ (List.mem_of_mem_tail ht)

end Clock

/-! ## What is found -/

/-- The finding of a check once its confirmation, if it needs one, has come out. -/
def Lookup.settle (outcome : Inquiry -> Outcome) : Lookup -> Finding
  | .found f => f
  | .due i => Finding.ofOutcome (outcome i)

variable {Work : Type}

/-- What comes of a confirmation: the reply, or what is decided when nobody can be asked. -/
def outcome (i : Inquiry) (e : Engine Work) : Outcome :=
  match e.handler? with
  | none => Outcome.ofUnhandled e.settings.unhandledConfirmation
  | some h => Outcome.ofReply ((h.ask i).1.getD .timedOut)

/-- What a check finds at an instant, and the grants that it leaves. -/
def weigh (r : Request) (now : Timestamp) (e : Engine Work) : Lookup × Grants :=
  match e.catalog.get? r.permission with
  | none => (.found (Finding.unknown r.permission), e.grants)
  | some p =>
      match lookup p e.policy r now e.grants with
      | (.error fault, g) => (.found (Finding.failed fault.message), g)
      | (.ok (.found f), g) => (.found f, g)
      | (.ok (.due i), g) =>
          match e.handler? with
          | some _ => (.due i, g)
          | none =>
              (.found (Finding.ofOutcome (Outcome.ofUnhandled e.settings.unhandledConfirmation)), g)

/-- A check waits only if there is somebody to ask. -/
theorem exists_handler_of_due {r : Request} {now : Timestamp} {e : Engine Work} {i : Inquiry}
    (h : (e.weigh r now).1 = .due i) : ∃ handler, e.handler? = some handler := by
  unfold weigh at h
  cases hhandler : e.handler? with
  | some handler => exact ⟨handler, rfl⟩
  | none =>
      revert h
      simp only [hhandler]
      cases e.catalog.get? r.permission with
      | none => rintro ⟨⟩
      | some p =>
          dsimp only
          rcases lookup p e.policy r now e.grants with ⟨fault | (f | i), g⟩ <;> rintro ⟨⟩

/-- The clock as a check finds it at its end: one that is looked up reads it before. -/
def stampClock (r : Request) (e : Engine Work) : Clock :=
  if (e.catalog.get? r.permission).isSome then e.clock.next else e.clock

theorem readable_stampClock {e : Engine Work} (h : e.clock.Readable) (r : Request) :
    (e.stampClock r).Readable := by
  unfold stampClock
  split
  · exact h.next
  · exact h

/-! ## Ends -/

/-- The decision that stamping a finding makes. -/
def stamped (r : Request) (f : Finding) (e : Engine Work) : Decision :=
  f.decision r e.clock.time

/-- The engine after a decision that it stamped. -/
def settled (d : Decision) (e : Engine Work) : Engine Work :=
  ({ e with clock := e.clock.next }).record d

@[simp] theorem entries_settled (d : Decision) (e : Engine Work) :
    (e.settled d).log.entries = e.log.entries ++ [d.entry] := rfl

theorem stamp_of_readable {e : Engine Work} (h : e.clock.Readable) (r : Request) (f : Finding) :
    e.stamp r f = (.ok (e.stamped r f), e.settled (e.stamped r f)) := by
  simp only [stamp, now, h.read]
  rfl

theorem conclude_of_readable {e : Engine Work} (h : e.clock.Readable) (r : Request)
    (f : Finding) : e.conclude r f = (.ok (e.stamped r f), e.settled (e.stamped r f)) := by
  simp only [conclude, stamp_of_readable h]

theorem finish_of_readable {e : Engine Work} (h : e.clock.Readable) (p : Pending) (o : Outcome) :
    e.finish p o = (.ok (e.stamped p.request (Finding.ofOutcome o)),
      e.settled (e.stamped p.request (Finding.ofOutcome o))) :=
  conclude_of_readable h _ _

theorem cancel_of_readable {e : Engine Work} (h : e.clock.Readable) (p : Pending) :
    e.cancel p = (.ok (e.stamped p.request Finding.cancelled),
      e.settled (e.stamped p.request Finding.cancelled)) :=
  stamp_of_readable h _ _

/-! ## Starts -/

/-- What a start may come to, on any clock. -/
inductive Started (r : Request) (e : Engine Work) : Progress × Engine Work -> Prop where
  | unknown (unregistered : e.catalog.get? r.permission = none) :
      Started r e (ended (e.conclude r (Finding.unknown r.permission)))
  | unread {p : Permission} {fault : ClockFault} {clock : Clock}
      (registered : e.catalog.get? r.permission = some p)
      (read : e.clock.read = (.error fault, clock)) :
      Started r e (ended (({ e with clock } : Engine Work).fail r fault.message))
  | failed {p : Permission} {now : Timestamp} {fault : ConditionFault} {clock : Clock}
      {grants : Grants} (registered : e.catalog.get? r.permission = some p)
      (read : e.clock.read = (.ok now, clock))
      (lookup : lookup p e.policy r now e.grants = (.error fault, grants)) :
      Started r e (ended (({ e with grants, clock } : Engine Work).fail r fault.message))
  | found {p : Permission} {now : Timestamp} {f : Finding} {clock : Clock} {grants : Grants}
      (registered : e.catalog.get? r.permission = some p)
      (read : e.clock.read = (.ok now, clock))
      (lookup : lookup p e.policy r now e.grants = (.ok (.found f), grants)) :
      Started r e (ended (({ e with grants, clock } : Engine Work).conclude r f))
  | waiting {p : Permission} {now : Timestamp} {i : Inquiry} {handler : Handler Work}
      {clock : Clock} {grants : Grants} (registered : e.catalog.get? r.permission = some p)
      (read : e.clock.read = (.ok now, clock))
      (lookup : lookup p e.policy r now e.grants = (.ok (.due i), grants))
      (handled : e.handler? = some handler) :
      Started r e (.waiting { request := r, inquiry := i }, { e with grants, clock })
  | unhandled {p : Permission} {now : Timestamp} {i : Inquiry} {clock : Clock} {grants : Grants}
      (registered : e.catalog.get? r.permission = some p)
      (read : e.clock.read = (.ok now, clock))
      (lookup : lookup p e.policy r now e.grants = (.ok (.due i), grants))
      (nobody : e.handler? = none) :
      Started r e (ended (({ e with grants, clock } : Engine Work).conclude r
        (Finding.ofOutcome (Outcome.ofUnhandled e.settings.unhandledConfirmation))))

theorem started (r : Request) (e : Engine Work) : Started r e (e.start r) := by
  -- The engine is taken apart, so that the case of its handler goes through all that is left of it.
  obtain ⟨settings, catalog, policy, grants, handler?, log, sink, clock⟩ := e
  simp only [start, now]
  cases hget : catalog.get? r.permission with
  | none => exact .unknown hget
  | some p =>
      rcases hread : clock.read with ⟨fault | t, next⟩
      · exact .unread hget hread
      · dsimp only
        rcases hlookup : lookup p policy r t grants with ⟨fault | (f | i), left⟩
        · exact .failed hget hread hlookup
        · exact .found hget hread hlookup
        · dsimp only
          cases handler? with
          | some handler => exact .waiting hget hread hlookup rfl
          | none => exact .unhandled hget hread hlookup rfl

/-- The engine when a check has been looked up, before its end. -/
def weighed (r : Request) (e : Engine Work) : Engine Work :=
  { e with grants := (e.weigh r e.clock.time).2, clock := e.stampClock r }

/-- A check whose finding needs no confirmation ends where it starts. -/
theorem start_of_found {e : Engine Work} (h : e.clock.Readable) {r : Request} {f : Finding}
    (hfound : (e.weigh r e.clock.time).1 = .found f) :
    e.start r = (.ended (.ok ((e.weighed r).stamped r f)),
      (e.weighed r).settled ((e.weighed r).stamped r f)) := by
  revert hfound
  unfold start weighed weigh stampClock
  cases hget : e.catalog.get? r.permission with
  | none =>
      rintro ⟨⟩
      simp only [ended, conclude_of_readable h]
      rfl
  | some p =>
      simp only [now, h.read]
      rcases lookup p e.policy r e.clock.time e.grants with ⟨found, g⟩
      have hnext : ({ e with grants := g, clock := e.clock.next } : Engine Work).clock.Readable :=
        h.next
      rcases found with fault | (f' | i)
      · rintro ⟨⟩
        simp only [ended, fail, stamp_of_readable hnext]
        rfl
      · rintro ⟨⟩
        simp only [ended, conclude_of_readable hnext]
        rfl
      · obtain ⟨settings, catalog, policy, grants, handler?, log, sink, clock⟩ := e
        rcases handler? with _ | handler
        · rintro ⟨⟩
          simp only [ended, conclude_of_readable hnext]
          rfl
        · rintro ⟨⟩

/-- A check whose grant needs a confirmation waits for it, if somebody can be asked. -/
theorem start_of_due {e : Engine Work} (h : e.clock.Readable) {r : Request} {i : Inquiry}
    (hdue : (e.weigh r e.clock.time).1 = .due i) :
    e.start r = (.waiting { request := r, inquiry := i }, e.weighed r) := by
  revert hdue
  unfold start weighed weigh stampClock
  cases hget : e.catalog.get? r.permission with
  | none => rintro ⟨⟩
  | some p =>
      simp only [now, h.read]
      rcases lookup p e.policy r e.clock.time e.grants with ⟨found, g⟩
      rcases found with fault | (f' | i')
      · rintro ⟨⟩
      · rintro ⟨⟩
      · cases hhandler : e.handler? with
        | none => rintro ⟨⟩
        | some handler =>
            rintro ⟨⟩
            rfl

/-! ## An engine to try -/

/-- A clock that stands still at a time with an offset. -/
def stillClock : Clock :=
  { now := { wall := 63908136000000000, offset := some 0 } }

theorem readable_stillClock : stillClock.Readable where
  outage := rfl
  local_time := by
    intro t ht
    rcases List.mem_singleton.1 ht with rfl
    exact ⟨_, Timestamp.localize_of_offset rfl⟩

def refund : Request :=
  { permission := "payments.refund" }

def refundPermission : Permission :=
  { name := "payments.refund", scope := .custom, risk := .high, requiresConfirmation := true }

/-- An engine that knows of refunds: they are granted, but need to be confirmed. -/
def refundEngine (handler : Handler Work) : Engine Work :=
  { catalog := Catalog.ofList [refundPermission]
    grants := Grants.empty.grant "payments.refund"
    handler? := some handler
    clock := stillClock }

end Clearance.Engine
