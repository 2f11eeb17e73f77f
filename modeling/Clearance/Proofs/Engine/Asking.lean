import Clearance.Proofs.Engine.Linearization
import Clearance.Proofs.Engine.Recording
import Clearance.Proofs.Engine.Verdict

/-!
# Asking for a confirmation

A handler is asked about a check when a standing grant decides that has to be confirmed, and at no
other time; it is asked once.  However it behaves then, the check comes to a decision: only a clear
yes grants, and every other end is a denial with the reason of its own.  A check raises nothing but
its own cancellation, or the want of a clock.
-/

namespace Clearance

namespace Confirmation

variable {Work : Type}

/-- How a handler behaves when it is asked. -/
inductive Conduct where
  | answers (truthy : Bool)
  | raises (r : Raised)
  /-- It has not answered when the time is over. -/
  | hangs

namespace Raised

/-- It counts as running out of time: a timeout as such, or a fault of that class. -/
def isTimeout : Raised -> Bool
  | .timeout => true
  | .fault f => f.kind.lineage.contains "ConfirmationTimeoutError"
  | _ => false

/-- What a failure says. -/
def text : Raised -> String
  | .timeout | .cancellation => ""
  | .missingKey key => (Value.str key).literal
  | .other message => message
  | .fault f => f.text

end Raised

/-- Why a conduct is refused, if it is. -/
def Conduct.refusal? : Conduct -> Option String
  | .answers true => none
  | .answers false => some "User confirmation denied"
  | .hangs => some "User confirmation timed out"
  | .raises .cancellation => some "User confirmation cancelled"
  | .raises r =>
      some (if r.isTimeout then "User confirmation timed out"
        else "User confirmation failed: " ++ r.text)

def Handler.conduct (i : Inquiry) : Handler Work -> Conduct
  | .answer v _ => .answers v.isTruthy
  | .raising r => .raises r
  | .silent => .hangs
  | .console default input =>
      match (Prompt.ask default input i).1 with
      | .ok yes => .answers yes
      | .error f => .raises (.other f.message)
  | .service s =>
      match (s.ask i).1 with
      | .ok yes => .answers yes
      | .error (.fault f) => .raises (.fault f)
      | .error (.misuse _ message) => .raises (.other message)
      | .error .unwritable => .raises (.other "Unable to serialize unknown type")

/-- What comes of a confirmation that is refused for a reason, or not refused. -/
def Outcome.ofRefusal? : Option String -> Outcome
  | none => .approved
  | some reason => .refused reason

theorem isTimeout_fault_iff {f : Fault} :
    (Raised.fault f).isTimeout = true ↔
      ∃ permission seconds, f.kind = .confirmationTimeout permission seconds := by
  obtain ⟨kind, message, code, suggestion, context⟩ := f
  cases kind <;> simp [Raised.isTimeout, FaultKind.lineage]

theorem ofReply_raised (r : Raised) :
    Outcome.ofReply r.reply = Outcome.ofRefusal? (Conduct.raises r).refusal? := by
  cases r with
  | timeout => rfl
  | cancellation => rfl
  | missingKey key => rfl
  | other message => rfl
  | fault f =>
      unfold Raised.reply Conduct.refusal?
      dsimp only
      split
      · rename_i hkind
        rw [isTimeout_fault_iff.2 ⟨_, _, hkind⟩]
        rfl
      · rename_i hkind
        have hnot : (Raised.fault f).isTimeout = false := by
          rw [Bool.eq_false_iff, ne_eq, isTimeout_fault_iff]
          rintro ⟨permission, seconds, h⟩
          exact hkind permission seconds h
        rw [hnot]
        rfl

/-- What comes of asking a handler is what its conduct deserves. -/
theorem ofReply_ask (i : Inquiry) (h : Handler Work) :
    Outcome.ofReply ((h.ask i).1.getD .timedOut) =
      Outcome.ofRefusal? (h.conduct i).refusal? := by
  have hanswer (yes : Bool) : Outcome.ofReply (.answered yes) =
      Outcome.ofRefusal? (Conduct.answers yes).refusal? := by
    cases yes <;> rfl
  cases h with
  | answer v work => exact hanswer v.isTruthy
  | raising r => exact ofReply_raised r
  | silent => rfl
  | console default input =>
      simp only [Handler.ask, Handler.conduct]
      cases (Prompt.ask default input i).1 with
      | ok yes => exact hanswer yes
      | error f => rfl
  | service s =>
      simp only [Handler.ask, Handler.conduct]
      rcases (s.ask i).1 with (f | ⟨kind, message⟩ | _) | yes
      · exact ofReply_raised (.fault f)
      · rfl
      · rfl
      · exact hanswer yes

theorem ask_eq_none_iff (i : Inquiry) (h : Handler Work) :
    (h.ask i).1 = none ↔ h.conduct i = .hangs := by
  cases h with
  | answer v work => simp [Handler.ask, Handler.conduct]
  | raising r => simp [Handler.ask, Handler.conduct]
  | silent => simp [Handler.ask, Handler.conduct]
  | console default input =>
      simp only [Handler.ask, Handler.conduct]
      cases (Prompt.ask default input i).1 <;> simp
  | service s =>
      simp only [Handler.ask, Handler.conduct]
      rcases (s.ask i).1 with (f | ⟨kind, message⟩ | _) | yes <;> simp

/-! ## What a handler is asked -/

/-- The inquiries among what was seen. -/
def inquiries (sights : List Sight) : List Inquiry :=
  sights.filterMap fun sight =>
    match sight with
    | .inquiry i => some i
    | .post _ => none

theorem inquiries_append (sights more : List Sight) :
    inquiries (sights ++ more) = inquiries sights ++ inquiries more :=
  List.filterMap_append

theorem inquiries_ask (i : Inquiry) (h : Handler Work) : inquiries (h.ask i).2 = [i] := by
  cases h with
  | answer v work => rfl
  | raising r => rfl
  | silent => rfl
  | console default input => rfl
  | service s =>
      have hposts (posts : List Post) : inquiries (posts.map Sight.post) = [] := by
        induction posts with
        | nil => rfl
        | cons post rest ih => exact ih
      exact congrArg (i :: ·) (hposts _)

end Confirmation

/-- Why a confirmation is refused that nobody can be asked for, if it is. -/
def Unhandled.refusal? : Unhandled -> Option String
  | .allow => none
  | .deny => some "Confirmation required but no handler is configured"

theorem Unhandled.outcome_eq (u : Unhandled) :
    Confirmation.Outcome.ofUnhandled u = .ofRefusal? u.refusal? := by
  cases u <;> rfl

namespace Engine

open Confirmation (Handler Outcome Reply Conduct inquiries)

variable {Work : Type}

/-! ## When a confirmation is due -/

/-- A standing grant decides on a request, and has to be confirmed. -/
structure Due (e : Engine Work) (r : Request) (now : Timestamp) (p : Permission) : Prop where
  registered : e.Registered r p
  needed : p.requiresConfirmation = true
  inactive : ¬ e.grants.Active r.permission now
  spent : ¬ e.grants.HasUses r.permission
  covered : e.grants.Covers r.permission

theorem lookup_eq_due_iff {p : Permission} {policy : Policy} {r : Request} {now : Timestamp}
    {g : Grants} {i : Inquiry} :
    (lookup p policy r now g).1 = .ok (.due i) ↔
      p.requiresConfirmation = true ∧ ¬ g.Active r.permission now ∧ ¬ g.HasUses r.permission ∧
        g.Covers r.permission ∧ i = inquiry r p := by
  rw [← Grants.expiry?_eq_none_iff, ← Grants.usesLeft_eq_zero_iff, ← Grants.standingCover?_isSome_iff]
  cases hexpiry : g.expiry? r.permission now with
  | some expiry =>
      rw [lookup_of_expiry p policy hexpiry]
      simp
  | none =>
      cases huses : g.usesLeft r.permission with
      | succ n =>
          rw [lookup_of_usesLeft p policy hexpiry huses]
          simp
      | zero =>
          cases hcover : g.standingCover? r.permission with
          | none =>
              rw [lookup_of_no_cover p policy hexpiry huses hcover]
              cases Finding.ofPolicy policy r now <;> simp [Except.map]
          | some granted =>
              rw [lookup_of_cover p policy hexpiry huses hcover]
              cases p.requiresConfirmation <;> simp [eq_comm]

/-- A handler is asked: the clock can be read, and a confirmation is due at the time that it has. -/
structure Asks (e : Engine Work) (h : Handler Work) (r : Request) (now : Timestamp)
    (p : Permission) : Prop where
  reading : e.clock.read.1 = .ok now
  handler : e.handler? = some h
  due : e.Due r now p

/-- A check waits if its handler is asked, and then with what it is asked. -/
theorem start_eq_waiting_iff {e : Engine Work} {r : Request} {q : Pending} :
    (e.start r).1 = .waiting q ↔
      ∃ h now p, e.Asks h r now p ∧ q = { request := r, inquiry := inquiry r p } := by
  constructor
  · intro hwaiting
    have hstarted := e.started r
    generalize e.start r = x at hstarted hwaiting
    cases hstarted with
    | @waiting p t i h clock grants registered read lookup handled =>
        cases hwaiting
        obtain ⟨hneeded, hinactive, hspent, hcovered, rfl⟩ :=
          lookup_eq_due_iff.1 (congrArg Prod.fst lookup)
        have hregistered : e.Registered r p := Catalog.get?_eq_some_iff.1 registered
        exact ⟨h, t, p, ⟨congrArg Prod.fst read, handled,
          ⟨hregistered, hneeded, hinactive, hspent, hcovered⟩⟩, rfl⟩
    | _ => cases hwaiting
  · rintro ⟨h, t, p, ⟨hread, hhandler, hdue⟩, rfl⟩
    have hlookup : (lookup p e.policy r t e.grants).1 = .ok (.due (inquiry r p)) :=
      lookup_eq_due_iff.2 ⟨hdue.needed, hdue.inactive, hdue.spent, hdue.covered, rfl⟩
    simp only [start, now, hdue.registered.get?]
    revert hread hlookup
    rcases e.clock.read with ⟨fault | t', clock⟩
    · rintro ⟨⟩
    · rintro ⟨⟩
      dsimp only
      rcases lookup p e.policy r t e.grants with ⟨found, g⟩
      rintro ⟨⟩
      simp only [hhandler]

/-- A check leaves the handler as it is. -/
theorem handler?_start (r : Request) (e : Engine Work) :
    (e.start r).2.handler? = e.handler? := by
  have hstarted := e.started r
  generalize e.start r = x at hstarted ⊢
  cases hstarted with
  | unknown => exact (alike_conclude r _ e).handler
  | unread => exact (alike_stamp r _ _).handler
  | failed => exact (alike_stamp r _ _).handler
  | found => exact (alike_conclude r _ _).handler
  | waiting => rfl
  | unhandled => exact (alike_conclude r _ _).handler

/-! ## Ends -/

/-- The decision that comes of a confirmation, which is refused for a reason or is not. -/
structure Answers (refusal? : Option String) (d : Decision) : Prop where
  granted : d.granted = refusal?.isNone
  source : d.source = if refusal?.isNone then .grant else .confirmation
  reason : d.reason = refusal?

theorem answers_decision (refusal? : Option String) (r : Request) (t : Timestamp) :
    Answers refusal? ((Finding.ofOutcome (.ofRefusal? refusal?)).decision r t) := by
  cases refusal? <;> exact ⟨rfl, rfl, rfl⟩

/-- A finding is decided as it is if the clock can be read. -/
theorem conclude_of_read {e : Engine Work} {t : Timestamp} (h : e.clock.read.1 = .ok t)
    (r : Request) (f : Finding) : (e.conclude r f).1 = .ok (f.decision r t) := by
  revert h
  simp only [conclude, stamp, now]
  rcases e.clock.read with ⟨fault | t', clock⟩ <;> rintro ⟨⟩
  rfl

theorem stamp_eq_ok {e : Engine Work} {r : Request} {f : Finding} {d : Decision}
    (h : (e.stamp r f).1 = .ok d) : d.finding = f := by
  revert h
  simp only [stamp, now]
  rcases e.clock.read with ⟨fault | t, clock⟩ <;> rintro ⟨⟩
  rfl

/-- Whatever the clock does, nothing is granted that was not found to be. -/
theorem granted_of_conclude {e : Engine Work} {r : Request} {f : Finding} {d : Decision}
    (h : (e.conclude r f).1 = .ok d) (hgranted : d.granted = true) : f.granted = true := by
  revert h
  simp only [conclude]
  rcases hstamp : e.stamp r f with ⟨fault | d', e'⟩
  · intro hfail
    have hfinding := congrArg Finding.granted (stamp_eq_ok hfail)
    rw [show d.finding.granted = d.granted from rfl, hgranted] at hfinding
    cases hfinding
  · rintro ⟨⟩
    rw [← stamp_eq_ok (congrArg Prod.fst hstamp)]
    exact hgranted

namespace Session

/-! ## What is seen only grows -/

theorem prefix_of_sights_eq {s s' : Session} (h : s'.sights = s.sights) :
    s.sights <+: s'.sights :=
  ⟨[], (List.append_nil _).trans h.symm⟩

theorem sights_sweep {f : Stage -> Session -> Stage × Session}
    (hf : ∀ stage s, s.sights <+: (f stage s).2.sights) (stages : List Stage) (s : Session) :
    s.sights <+: (sweep f stages s).2.sights := by
  induction stages generalizing s with
  | nil => exact List.prefix_refl _
  | cons stage rest ih => exact (hf stage s).trans (ih (f stage s).2)

theorem sights_finish (p : Pending) (reply : Reply) (s : Session) :
    (s.finish p reply).2.sights = s.sights := rfl

theorem sights_cancel (p : Pending) (s : Session) : (s.cancel p).2.sights = s.sights := by
  simp only [cancel, on]
  rcases s.engine.cancel p with ⟨f | d, e⟩ <;> rfl

theorem sights_answered (stage : Stage) (s : Session) :
    (answered stage s).2.sights = s.sights := by
  rcases stage with r | p | ⟨p, _ | reply⟩ <;> rfl

theorem sights_expired (stage : Stage) (s : Session) :
    (expired stage s).2.sights = s.sights := by
  rcases stage with r | p | ⟨p, _ | reply⟩ <;> rfl

theorem sights_abandoned (stage : Stage) (s : Session) :
    (abandoned stage s).2.sights = s.sights := by
  rcases stage with r | p | ⟨p, _ | reply⟩
  · rfl
  · rfl
  · exact sights_cancel p s
  · rfl

section

variable {work : List Operation -> Session -> Session}
  (hwork : ∀ ops s, s.sights <+: (work ops s).sights)

include hwork

theorem sights_asked (stage : Stage) (s : Session) :
    s.sights <+: (asked work stage s).2.sights := by
  cases stage with
  | settled r => exact List.prefix_refl _
  | replied p reply? => exact List.prefix_refl _
  | waiting p =>
      simp only [asked, consult]
      cases s.engine.handler? with
      | none => exact List.prefix_refl _
      | some h =>
          have hask : s.sights <+: s.sights ++ (h.ask p.inquiry).2 := List.prefix_append _ _
          dsimp only
          cases h.work? with
          | none => exact hask
          | some ops =>
              exact hask.trans (hwork ops { s with sights := s.sights ++ (h.ask p.inquiry).2 })

theorem sights_together {silence : Stage -> Session -> Stage × Session}
    (hsilence : ∀ stage s, (silence stage s).2.sights = s.sights) (stages : List Stage)
    (s : Session) : s.sights <+: (together work silence stages s).2.sights := by
  have hasked := sights_sweep (sights_asked hwork) stages s
  have hanswered := sights_sweep (fun stage s => prefix_of_sights_eq (sights_answered stage s))
    (sweep (asked work) stages s).1 (sweep (asked work) stages s).2
  have hsilent := sights_sweep (fun stage s => prefix_of_sights_eq (hsilence stage s))
    (sweep answered (sweep (asked work) stages s).1 (sweep (asked work) stages s).2).1
    (sweep answered (sweep (asked work) stages s).1 (sweep (asked work) stages s).2).2
  exact (hasked.trans hanswered).trans hsilent

theorem sights_alone {silence : Stage -> Session -> Stage × Session}
    (hsilence : ∀ stage s, (silence stage s).2.sights = s.sights) (stage : Stage)
    (s : Session) : s.sights <+: (alone work silence stage s).2.sights := by
  simp only [alone]
  rw [hsilence, sights_answered]
  exact sights_asked hwork stage s

end

theorem sights_startAll (asks : List (Value × Value)) (s : Session) :
    (startAll asks s).2.sights = s.sights := by
  induction asks generalizing s with
  | nil => rfl
  | cons ask rest ih => exact ih (s.startCheck ask.1 ask.2).2

theorem sights_working {depth : Nat}
    (hrun : ∀ op s, s.sights <+: (run depth op s).2.sights) (ops : List Operation)
    (s : Session) : s.sights <+: (working depth ops s).sights := by
  induction ops generalizing s with
  | nil => exact List.prefix_refl _
  | cons op rest ih =>
      have hrest := ih { (run depth op s).2 with
        nested := (run depth op s).2.nested ++ [(run depth op s).1] }
      exact (hrun op s).trans hrest

/-- An operation forgets nothing of what was seen before it. -/
theorem sights_run (depth : Nat) (op : Operation) (s : Session) :
    s.sights <+: (run depth op s).2.sights := by
  induction depth generalizing op s with
  | zero => exact List.prefix_refl _
  | succ depth ih =>
      have hwork := sights_working ih
      cases op with
      | check permission context =>
          exact sights_alone hwork sights_expired (s.startCheck permission context).1
            (s.startCheck permission context).2
      | require permission context =>
          exact sights_alone hwork sights_expired (s.startCheck permission context).1
            (s.startCheck permission context).2
      | checkCancel permission context =>
          exact sights_alone hwork sights_abandoned (s.startCheck permission context).1
            (s.startCheck permission context).2
      | evaluate r interrupted =>
          rw [run_evaluate]
          cases interrupted with
          | false =>
              exact sights_alone hwork sights_expired (stageOf (.ok (s.engine.start r).1))
                { s with engine := (s.engine.start r).2 }
          | true =>
              exact sights_alone hwork sights_abandoned (stageOf (.ok (s.engine.start r).1))
                { s with engine := (s.engine.start r).2 }
      | gather asks =>
          have hstart := sights_startAll asks s
          have htogether := sights_together hwork sights_expired (startAll asks s).1
            (startAll asks s).2
          rw [hstart] at htogether
          exact htogether
      | manage m => exact List.prefix_refl _
      | misgiven f => exact List.prefix_refl _

/-! ## Whole checks -/

/-- The session in which a check that waits comes to its end: its handler has done its work. -/
def heard (depth : Nat) (r : Request) (i : Inquiry) (s : Session) : Session :=
  (({ s with engine := (s.engine.start r).2 } : Session).consult (working depth)
    { request := r, inquiry := i }).2

theorem evaluating_of_ended {s : Session} {r : Request} {x : Except ClockFault Decision}
    (h : (s.engine.start r).1 = .ended x) (depth : Nat) (interrupted : Bool) :
    evaluating depth interrupted r s =
      (settled x, { s with engine := (s.engine.start r).2 }) := by
  unfold evaluating
  rw [h]
  cases interrupted <;> rfl

theorem consult_of_asks {s : Session} {handler : Handler (List Operation)} {r : Request}
    {now : Timestamp} {p : Permission} (h : s.engine.Asks handler r now p) (depth : Nat)
    (i : Inquiry) :
    ({ s with engine := (s.engine.start r).2 } : Session).consult (working depth)
      { request := r, inquiry := i } = ((handler.ask i).1, s.heard depth r i) := by
  refine Prod.ext ?_ rfl
  have hhandler : (s.engine.start r).2.handler? = some handler :=
    (handler?_start r s.engine).trans h.handler
  simp only [consult, hhandler]

/-- A check whose handler is asked ends with the reply, or is cancelled for want of one. -/
theorem evaluating_of_asks {s : Session} {handler : Handler (List Operation)} {r : Request}
    {now : Timestamp} {p : Permission} (h : s.engine.Asks handler r now p) (depth : Nat)
    (interrupted : Bool) :
    evaluating depth interrupted r s =
      if interrupted = true ∧ (handler.ask (inquiry r p)).1 = none then
        (s.heard depth r (inquiry r p)).cancel { request := r, inquiry := inquiry r p }
      else
        (s.heard depth r (inquiry r p)).finish { request := r, inquiry := inquiry r p }
          ((handler.ask (inquiry r p)).1.getD .timedOut) := by
  have hwaiting := start_eq_waiting_iff.2 ⟨handler, now, p, h, rfl⟩
  have hconsult := consult_of_asks h depth (inquiry r p)
  unfold evaluating
  rw [hwaiting]
  cases interrupted with
  | false =>
      simp only [Bool.false_eq_true, if_false, false_and, stageOf, alone_expired, hconsult]
  | true =>
      simp only [if_true, true_and, stageOf, alone_abandoned, hconsult]
      cases (handler.ask (inquiry r p)).1 with
      | none => rfl
      | some reply => rfl

theorem sights_heard {s : Session} {handler : Handler (List Operation)} {r : Request}
    {now : Timestamp} {p : Permission} (h : s.engine.Asks handler r now p) (depth : Nat)
    (i : Inquiry) :
    ∃ nested, (s.heard depth r i).sights = s.sights ++ (handler.ask i).2 ++ nested ∧
      (handler.Quiet -> nested = []) := by
  have hhandler : (s.engine.start r).2.handler? = some handler :=
    (handler?_start r s.engine).trans h.handler
  simp only [heard, consult, hhandler]
  cases hops : handler.work? with
  | none => exact ⟨[], (List.append_nil _).symm, fun _ => rfl⟩
  | some ops =>
      obtain ⟨nested, hnested⟩ := sights_working (sights_run depth) ops
        { s with engine := (s.engine.start r).2, sights := s.sights ++ (handler.ask i).2 }
      refine ⟨nested, hnested.symm, fun hquiet => ?_⟩
      obtain rfl := hquiet ops hops
      exact List.append_right_eq_self.1 hnested

/--
What becomes of a check about which a handler is asked.  It is asked once, and whatever else is
asked then is asked by its own operations; its conduct decides; nothing is granted that it refused,
even by a clock out of order; and what is raised is the cancellation of the check or the clock's.
-/
structure Heard (depth : Nat) (r : Request) (interrupted : Bool) (i : Inquiry)
    (handler : Handler (List Operation)) (s : Session) : Prop where
  asked : ∃ nested,
    inquiries (run (depth + 1) (.evaluate r interrupted) s).2.sights =
      inquiries s.sights ++ i :: nested ∧ (handler.Quiet -> nested = [])
  decided : ∀ t, (s.heard depth r i).engine.clock.read.1 = .ok t ->
    ¬ (interrupted = true ∧ handler.conduct i = .hangs) ->
      ∃ d, (run (depth + 1) (.evaluate r interrupted) s).1 = .ok (.decision d) ∧
        Answers (handler.conduct i).refusal? d
  cancelled : ∀ t, (s.heard depth r i).engine.clock.read.1 = .ok t ->
    interrupted = true -> handler.conduct i = .hangs ->
      (run (depth + 1) (.evaluate r interrupted) s).1 = .error .cancelled
  closed : ∀ d, (run (depth + 1) (.evaluate r interrupted) s).1 = .ok (.decision d) ->
    d.granted = true -> (handler.conduct i).refusal? = none
  raised : ∀ f, (run (depth + 1) (.evaluate r interrupted) s).1 = .error f ->
    (∃ fault, f = .clock fault) ∨
      f = .cancelled ∧ interrupted = true ∧ handler.conduct i = .hangs
  gate : ∀ limit unhandled, Confirmation.isOver limit = false ->
    Confirmation.confirm (some handler) limit unhandled i =
      (.ofRefusal? (handler.conduct i).refusal?, (handler.ask i).2)

theorem cancel_cases (p : Pending) (s : Session) :
    ((s.cancel p).1 = .error .cancelled ∨ ∃ fault, (s.cancel p).1 = .error (.clock fault)) ∧
      ∀ t, s.engine.clock.read.1 = .ok t -> (s.cancel p).1 = .error .cancelled := by
  simp only [cancel, on, Engine.cancel, stamp, now]
  rcases s.engine.clock.read with ⟨fault | t, clock⟩
  · exact ⟨.inr ⟨fault, rfl⟩, fun t h => by cases h⟩
  · exact ⟨.inl rfl, fun _ _ => rfl⟩

theorem finish_fst (p : Pending) (reply : Reply) (s : Session) :
    (s.finish p reply).1 =
      settled (s.engine.conclude p.request (.ofOutcome (.ofReply reply))).1 := rfl

theorem gate_of_conduct (i : Inquiry) (handler : Handler (List Operation)) (limit : Time.Amount)
    (unhandled : Unhandled) (h : Confirmation.isOver limit = false) :
    Confirmation.confirm (some handler) limit unhandled i =
      (.ofRefusal? (handler.conduct i).refusal?, (handler.ask i).2) := by
  simp only [Confirmation.confirm, h, Bool.false_eq_true, if_false]
  rw [Confirmation.ofReply_ask]

theorem inquiries_heard {s : Session} {handler : Handler (List Operation)} {r : Request}
    {now : Timestamp} {p : Permission} (h : s.engine.Asks handler r now p) (depth : Nat)
    (i : Inquiry) :
    ∃ nested, inquiries (s.heard depth r i).sights = inquiries s.sights ++ i :: nested ∧
      (handler.Quiet -> nested = []) := by
  obtain ⟨nested, hseen, hquiet⟩ := sights_heard h depth i
  refine ⟨inquiries nested, ?_, fun hq => (congrArg inquiries (hquiet hq)).trans rfl⟩
  rw [hseen, Confirmation.inquiries_append, Confirmation.inquiries_append,
    Confirmation.inquiries_ask, List.append_assoc]
  rfl

theorem eq_none_of_granted {refusal? : Option String}
    (h : (Finding.ofOutcome (.ofRefusal? refusal?)).granted = true) : refusal? = none := by
  cases refusal? with
  | none => rfl
  | some reason => cases h

section

variable {s : Session} {handler : Handler (List Operation)} {r : Request} {now : Timestamp}
  {p : Permission} {interrupted : Bool}

theorem heard_of_cancelled (h : s.engine.Asks handler r now p) (depth : Nat)
    (hcancel : interrupted = true ∧ (handler.ask (inquiry r p)).1 = none) :
    Heard depth r interrupted (inquiry r p) handler s := by
  have heval := evaluating_of_asks h depth interrupted
  rw [if_pos hcancel] at heval
  have hconduct := (Confirmation.ask_eq_none_iff (inquiry r p) handler).1 hcancel.2
  obtain ⟨nested, hinquiries, hquiet⟩ := inquiries_heard h depth (inquiry r p)
  obtain ⟨hcases, hread⟩ := cancel_cases { request := r, inquiry := inquiry r p }
    (s.heard depth r (inquiry r p))
  refine ⟨⟨nested, ?_, hquiet⟩, ?_, ?_, ?_, ?_, gate_of_conduct (inquiry r p) handler⟩
  · rw [run_evaluate, heval, sights_cancel, hinquiries]
  · exact fun t _ hnot => absurd ⟨hcancel.1, hconduct⟩ hnot
  · intro t ht _ _
    rw [run_evaluate, heval, hread t ht]
    rfl
  · intro d hd
    rw [run_evaluate, heval] at hd
    rcases hcases with hresult | ⟨fault, hresult⟩ <;> rw [hresult] at hd <;> cases hd
  · intro f hf
    rw [run_evaluate, heval] at hf
    rcases hcases with hresult | ⟨fault, hresult⟩ <;> rw [hresult] at hf <;> cases hf
    · exact .inr ⟨rfl, hcancel.1, hconduct⟩
    · exact .inl ⟨fault, rfl⟩

theorem heard_of_finished (h : s.engine.Asks handler r now p) (depth : Nat)
    (hfinish : ¬ (interrupted = true ∧ (handler.ask (inquiry r p)).1 = none)) :
    Heard depth r interrupted (inquiry r p) handler s := by
  have heval := evaluating_of_asks h depth interrupted
  rw [if_neg hfinish] at heval
  have hhangs := Confirmation.ask_eq_none_iff (inquiry r p) handler
  obtain ⟨nested, hinquiries, hquiet⟩ := inquiries_heard h depth (inquiry r p)
  have hresult : (run (depth + 1) (.evaluate r interrupted) s).1 =
      (settled ((s.heard depth r (inquiry r p)).engine.conclude r
        (.ofOutcome (.ofRefusal? (handler.conduct (inquiry r p)).refusal?))).1).map
          Answer.decision := by
    rw [run_evaluate, heval, finish_fst, Confirmation.ofReply_ask]
  refine ⟨⟨nested, ?_, hquiet⟩, ?_, ?_, ?_, ?_, gate_of_conduct (inquiry r p) handler⟩
  · rw [run_evaluate, heval, sights_finish, hinquiries]
  · intro t ht _
    rw [hresult, conclude_of_read ht]
    exact ⟨_, rfl, answers_decision _ r t⟩
  · exact fun t _ hinterrupted hconduct => absurd ⟨hinterrupted, hhangs.2 hconduct⟩ hfinish
  · intro d hd hgranted
    rw [hresult] at hd
    rcases hconclude : ((s.heard depth r (inquiry r p)).engine.conclude r
      (.ofOutcome (.ofRefusal? (handler.conduct (inquiry r p)).refusal?))).1 with fault | d'
    · rw [hconclude] at hd
      cases hd
    · rw [hconclude] at hd
      cases hd
      exact eq_none_of_granted (granted_of_conclude hconclude hgranted)
  · intro f hf
    rw [hresult] at hf
    rcases hconclude : ((s.heard depth r (inquiry r p)).engine.conclude r
      (.ofOutcome (.ofRefusal? (handler.conduct (inquiry r p)).refusal?))).1 with fault | d'
    · rw [hconclude] at hf
      cases hf
      exact .inl ⟨fault, rfl⟩
    · rw [hconclude] at hf
      cases hf

theorem heard_of_asks (h : s.engine.Asks handler r now p) (depth : Nat) (interrupted : Bool) :
    Heard depth r interrupted (inquiry r p) handler s := by
  by_cases hcancel : interrupted = true ∧ (handler.ask (inquiry r p)).1 = none
  · exact heard_of_cancelled h depth hcancel
  · exact heard_of_finished h depth hcancel

end

/-- A check that nobody is asked about sees nothing and has no work done. -/
theorem unseen_of_not_asks {s : Session} {r : Request}
    (h : ∀ handler now p, ¬ s.engine.Asks handler r now p) (depth : Nat) (interrupted : Bool) :
    (run (depth + 1) (.evaluate r interrupted) s).2 =
      { s with engine := (s.engine.start r).2 } := by
  rw [run_evaluate]
  cases hstart : (s.engine.start r).1 with
  | ended x => rw [evaluating_of_ended hstart]
  | waiting q =>
      obtain ⟨handler, now, p, hasks, -⟩ := start_eq_waiting_iff.1 hstart
      exact absurd hasks (h handler now p)

/-- If nobody can be asked, the settings decide, and the check does not wait. -/
theorem unhandled_of_due {s : Session} {r : Request} {now later : Timestamp} {p : Permission}
    (hhandler : s.engine.handler? = none) (hread : s.engine.clock.read.1 = .ok now)
    (hdue : s.engine.Due r now p) (hlater : s.engine.clock.read.2.read.1 = .ok later)
    (depth : Nat) (interrupted : Bool) :
    ∃ d, (run (depth + 1) (.evaluate r interrupted) s).1 = .ok (.decision d) ∧
      Answers s.engine.settings.unhandledConfirmation.refusal? d := by
  have hlookup : (lookup p s.engine.policy r now s.engine.grants).1 = .ok (.due (inquiry r p)) :=
    lookup_eq_due_iff.2 ⟨hdue.needed, hdue.inactive, hdue.spent, hdue.covered, rfl⟩
  have hstart : (s.engine.start r).1 = .ended (.ok ((Finding.ofOutcome
      (.ofRefusal? s.engine.settings.unhandledConfirmation.refusal?)).decision r later)) := by
    rw [← Unhandled.outcome_eq]
    simp only [start, Engine.now, hdue.registered.get?]
    revert hread hlater hlookup
    rcases s.engine.clock.read with ⟨fault | t, clock⟩
    · rintro ⟨⟩
    · rintro ⟨⟩ hlater
      dsimp only
      rcases lookup p s.engine.policy r now s.engine.grants with ⟨found, g⟩
      rintro ⟨⟩
      simp only [hhandler, ended]
      exact congrArg Progress.ended (conclude_of_read hlater r _)
  rw [run_evaluate, evaluating_of_ended hstart]
  exact ⟨_, rfl, answers_decision _ r later⟩

end Session

end Engine

end Clearance
