import Clearance.Proofs.Engine.Interleaving
import Clearance.Proofs.Engine.Management

/-!
# Checks are recorded as they are completed

A check that comes to a decision has it recorded there and then, and never again: the log of a run
has one entry for each check that was decided, in the order in which the checks were completed,
whatever the order of their starts.
-/

namespace Clearance.Engine

open Confirmation (Outcome)

variable {Work : Type}

/-- What was decided on a check that has come to its end. -/
def Check.decision? : Check -> Option Decision
  | .ended (.ok d) | .cancelled (.ok d) => some d
  | _ => none

/-- An operation that drops entries of the log. -/
def Event.CutsLog : Event Work -> Prop
  | .manage (.trimAudit _) | .manage .clearAudit => True
  | _ => False

/-! ## One entry for each decision -/

/-- The entries of what is decided. -/
def entriesOf (r : Except ClockFault Decision) : List AuditEntry :=
  (r.toOption.map Decision.entry).toList

theorem entries_stamp (r : Request) (f : Finding) (e : Engine Work) :
    (e.stamp r f).2.log.entries = e.log.entries ++ entriesOf (e.stamp r f).1 := by
  simp only [stamp, now]
  rcases e.clock.read with ⟨fault | t, clock⟩
  · exact (List.append_nil _).symm
  · rfl

theorem entries_conclude (r : Request) (f : Finding) (e : Engine Work) :
    (e.conclude r f).2.log.entries = e.log.entries ++ entriesOf (e.conclude r f).1 := by
  have hstamp := entries_stamp r f e
  revert hstamp
  simp only [conclude]
  rcases e.stamp r f with ⟨fault | d, e₁⟩ <;> intro hstamp
  · have hsame : e₁.log.entries = e.log.entries := hstamp.trans (List.append_nil _)
    rw [← hsame]
    exact entries_stamp r (Finding.failed fault.message) e₁
  · exact hstamp

/-- The entries of a check that has come so far. -/
def Progress.entries : Progress -> List AuditEntry
  | .ended r => entriesOf r
  | .waiting _ => []

theorem entries_start (r : Request) (e : Engine Work) :
    (e.start r).2.log.entries = e.log.entries ++ (e.start r).1.entries := by
  have hstarted := e.started r
  generalize e.start r = x at hstarted ⊢
  cases hstarted with
  | unknown => exact entries_conclude r _ e
  | unread => exact entries_stamp r _ _
  | failed => exact entries_stamp r _ _
  | found => exact entries_conclude r _ _
  | waiting => exact (List.append_nil _).symm
  | unhandled => exact entries_conclude r _ _

namespace Traffic

theorem begin_fst (x : Progress × Engine Work) (t : Traffic Work) :
    ((t.begin x).1.map entriesOf).getD [] = x.1.entries := by
  rcases x with ⟨r | p, e⟩ <;> rfl

theorem engine_begin (x : Progress × Engine Work) (t : Traffic Work) :
    (t.begin x).2.engine = x.2 := by
  rcases x with ⟨r | p, e⟩ <;> rfl

end Traffic

/-- The entry that comes into the log, if a transition brings a check to a decision. -/
def Transition.appended (tr : Transition Work) : List AuditEntry :=
  (tr.decided?.map Decision.entry).toList

theorem Transition.appended_eq (tr : Transition Work) :
    tr.appended = ((tr.before.step tr.event).1.map entriesOf).getD [] := by
  unfold Transition.appended Transition.decided?
  rcases (tr.before.step tr.event).1 with _ | (fault | d) <;> rfl

/--
What an event comes to, on any clock: the entries of what is decided in it, and the engine
afterwards.
-/
inductive Act (t : Traffic Work) : Event Work -> List AuditEntry -> Engine Work -> Prop where
  | started {ev : Event Work} {r : Request} (request : ev.request? = some r) :
      Act t ev (t.engine.start r).1.entries (t.engine.start r).2
  /-- Data that makes no request is denied. -/
  | rejected {permission context : Value} {r : Request} {rejection : Rejection}
      (unreadable : requestOf permission context = .error rejection)
      (told : echo permission context = .ok r) :
      Act t (.submit permission context)
        (entriesOf (t.engine.stamp r (.rejected rejection.message)).1)
        (t.engine.stamp r (.rejected rejection.message)).2
  /-- It cannot be told what is asked. -/
  | untold {permission context : Value} {rejection : Rejection} {f : Value.NoText}
      (unreadable : requestOf permission context = .error rejection)
      (untold : echo permission context = .error f) : Act t (.submit permission context) [] t.engine
  | finished {place : Nat} {o : Outcome} {p : Pending} (waiting : t.waiting? place = some p) :
      Act t (.finish place o) (entriesOf (t.engine.conclude p.request (.ofOutcome o)).1)
        (t.engine.conclude p.request (.ofOutcome o)).2
  | cancelled {place : Nat} {p : Pending} (waiting : t.waiting? place = some p) :
      Act t (.cancel place) (entriesOf (t.engine.stamp p.request .cancelled).1)
        (t.engine.stamp p.request .cancelled).2
  /-- The check at the place does not wait. -/
  | missed {ev : Event Work} {place : Nat} (ends : (∃ o, ev = .finish place o) ∨ ev = .cancel place)
      (gone : t.waiting? place = none) : Act t ev [] t.engine
  | managed (m : Management Work) : Act t (.manage m) [] (t.engine.manage m).2
  | cleared : Act t .clearGrants [] { t.engine with grants := .empty }

namespace Transition

theorem act_of_request {t : Traffic Work} {ev : Event Work} {r : Request}
    (hrequest : ev.request? = some r) (hstep : t.step ev = t.begin (t.engine.start r)) :
    Act t ev (Transition.mk t ev).appended (Transition.mk t ev).after.engine := by
  rw [appended_eq, after, hstep, Traffic.begin_fst, Traffic.engine_begin]
  exact .started hrequest

/-- Every transition is one of the acts. -/
theorem act (tr : Transition Work) : Act tr.before tr.event tr.appended tr.after.engine := by
  obtain ⟨t, ev⟩ := tr
  cases ev with
  | start r => exact act_of_request rfl rfl
  | submit permission context =>
      cases hrequest : requestOf permission context with
      | ok r =>
          refine act_of_request (r := r) ?_ ?_
          · simp only [Event.request?, hrequest]
            rfl
          · simp only [Traffic.step, startRaw, hrequest]
      | error rejection =>
          rw [appended_eq, after]
          simp only [Traffic.step, startRaw, hrequest]
          cases htold : echo permission context with
          | error f => exact .untold hrequest htold
          | ok r =>
              simp only [Traffic.begin_fst, Traffic.engine_begin]
              exact .rejected hrequest htold
  | finish place o =>
      rw [appended_eq, after]
      simp only [Traffic.step]
      cases hwaiting : t.waiting? place with
      | some p => exact .finished hwaiting
      | none => exact .missed (.inl ⟨o, rfl⟩) hwaiting
  | cancel place =>
      rw [appended_eq, after]
      simp only [Traffic.step]
      cases hwaiting : t.waiting? place with
      | some p => exact .cancelled hwaiting
      | none => exact .missed (.inr rfl) hwaiting
  | manage m => exact .managed m
  | clearGrants => exact .cleared

/-- A transition adds the entry of what is decided in it, if anything is. -/
theorem entries_after (tr : Transition Work) (hkeep : ¬ tr.event.CutsLog) :
    tr.after.engine.log.entries = tr.before.engine.log.entries ++ tr.appended := by
  obtain ⟨t, ev⟩ := tr
  have hact := (Transition.mk t ev).act
  generalize (Transition.mk t ev).appended = entries at hact ⊢
  generalize (Transition.mk t ev).after.engine = e at hact ⊢
  cases hact with
  | started => exact entries_start _ _
  | rejected => exact entries_stamp _ _ _
  | finished => exact entries_conclude _ _ _
  | cancelled => exact entries_stamp _ _ _
  | managed m =>
      rw [List.append_nil, (manage_frame m t.engine).2.1]
      cases m with
      | trimAudit keep => exact absurd trivial hkeep
      | clearAudit => exact absurd trivial hkeep
      | _ => rfl
  | _ => exact (List.append_nil _).symm

end Transition

/-! ## Starts -/

namespace Traffic

/-- How far a check comes at its start, if an event starts one. -/
def begins? (ev : Event Work) (e : Engine Work) : Option (Progress × Engine Work) :=
  match ev with
  | .start r => some (e.start r)
  | .submit permission context =>
      match e.startRaw permission context with
      | (.ok p, e) => some (p, e)
      | (.error _, _) => none
  | _ => none

/-- The check that has come so far. -/
def checkOf : Progress -> Check
  | .ended r => .ended r
  | .waiting p => .waiting p

theorem step_of_begins? {ev : Event Work} {t : Traffic Work} {x : Progress × Engine Work}
    (h : begins? ev t.engine = some x) :
    (t.step ev).2 = { engine := x.2, checks := t.checks ++ [checkOf x.1] } := by
  have hbegin : (t.begin x).2 = { engine := x.2, checks := t.checks ++ [checkOf x.1] } := by
    rcases x with ⟨r | p, e⟩ <;> rfl
  rw [← hbegin]
  cases ev with
  | start r =>
      cases h
      rfl
  | submit permission context =>
      revert h
      simp only [begins?, step]
      rcases t.engine.startRaw permission context with ⟨f | p, e⟩ <;> rintro ⟨⟩
      rfl
  | finish place o => cases h
  | cancel place => cases h
  | manage m => cases h
  | clearGrants => cases h

/-- Data of which it cannot be told what it asks starts no check. -/
theorem step_submit_of_begins?_eq_none {permission context : Value} {t : Traffic Work}
    (h : begins? (.submit permission context) t.engine = none) :
    (t.step (.submit permission context)).2 = t := by
  revert h
  simp only [begins?, step, startRaw]
  cases requestOf permission context with
  | ok r => rintro ⟨⟩
  | error rejection =>
      cases echo permission context with
      | ok r => rintro ⟨⟩
      | error f =>
          rintro -
          rfl

theorem begins?_of_readable {ev : Event Work} {e : Engine Work} {x : Progress × Engine Work}
    (hclock : e.clock.Readable) (h : begins? ev e = some x) :
    (∃ d, x.1 = .ended (.ok d)) ∨ ∃ p, x.1 = .waiting p := by
  have hstart (r : Request) :
      (∃ d, (e.start r).1 = .ended (.ok d)) ∨ ∃ p, (e.start r).1 = .waiting p := by
    cases hfound : (e.weigh r e.clock.time).1 with
    | found f =>
        rw [start_of_found hclock hfound]
        exact .inl ⟨_, rfl⟩
    | due i =>
        rw [start_of_due hclock hfound]
        exact .inr ⟨_, rfl⟩
  cases ev with
  | start r =>
      cases h
      exact hstart r
  | submit permission context =>
      revert h
      simp only [begins?, startRaw]
      cases requestOf permission context with
      | ok r =>
          rintro ⟨⟩
          exact hstart r
      | error rejection =>
          cases echo permission context with
          | error f => rintro ⟨⟩
          | ok r =>
              rintro ⟨⟩
              simp only [stamp_of_readable hclock]
              exact .inl ⟨_, rfl⟩
  | finish place o => cases h
  | cancel place => cases h
  | manage m => cases h
  | clearGrants => cases h

end Traffic

/-! ## Completions -/

/-- The place of the check that a transition brings to a decision. -/
def Transition.completes? (tr : Transition Work) : Option Nat :=
  tr.decided?.map fun _ =>
    match tr.event with
    | .finish place _ | .cancel place => place
    | _ => tr.before.checks.length

namespace Traffic

/-- What was decided on the check at a place. -/
def decisionAt (place : Nat) (t : Traffic Work) : Option Decision :=
  t.checks[place]?.bind Check.decision?

/-- The places of the checks that come to a decision in a run, in the order in which they do. -/
def completions (trs : List (Transition Work)) : List Nat :=
  trs.filterMap Transition.completes?

/-- What a check that starts is given as decided is what stands at its place. -/
theorem decisionAt_begin (x : Progress × Engine Work) (t : Traffic Work) (place : Nat) :
    decisionAt place (t.begin x).2 =
      if place = t.checks.length then
        (match (t.begin x).1 with
        | some (.ok d) => some d
        | _ => none)
      else decisionAt place t := by
  have happend (c : Check) (e : Engine Work) :
      decisionAt place ({ engine := e, checks := t.checks ++ [c] } : Traffic Work) =
        if place = t.checks.length then c.decision? else decisionAt place t := by
    simp only [decisionAt]
    split
    · rename_i h
      simp [h]
    · rename_i h
      rcases Nat.lt_or_gt_of_ne h with hlt | hgt
      · rw [List.getElem?_append_left hlt]
      · rw [List.getElem?_eq_none (by simp; omega), List.getElem?_eq_none (by omega)]
  rcases x with ⟨(fault | d) | p, e⟩ <;> exact happend _ e

theorem waiting?_eq_some_iff {t : Traffic Work} {place : Nat} {p : Pending} :
    t.waiting? place = some p ↔ t.checks[place]? = some (.waiting p) := by
  unfold waiting?
  cases t.checks[place]? with
  | none => simp
  | some c => cases c <;> simp [Check.pending?]

theorem lt_of_waiting? {t : Traffic Work} {place : Nat} {p : Pending}
    (hwaiting : t.waiting? place = some p) : place < t.checks.length :=
  (List.getElem?_eq_some_iff.1 (waiting?_eq_some_iff.1 hwaiting)).1

theorem decisionAt_set {t : Traffic Work} {place : Nat} {p : Pending}
    (hwaiting : t.waiting? place = some p) (c : Check) (e : Engine Work) (other : Nat) :
    decisionAt other ({ engine := e, checks := t.checks.set place c } : Traffic Work) =
      if other = place then c.decision? else decisionAt other t := by
  simp only [decisionAt, List.getElem?_set]
  by_cases h : other = place
  · subst h
    simp [lt_of_waiting? hwaiting]
  · simp [h, Ne.symm h]

theorem decisionAt_of_waiting? {t : Traffic Work} {place : Nat} {p : Pending}
    (hwaiting : t.waiting? place = some p) : decisionAt place t = none := by
  unfold decisionAt
  rw [waiting?_eq_some_iff.1 hwaiting]
  rfl

theorem decisionAt_length (t : Traffic Work) : decisionAt t.checks.length t = none := by
  simp [decisionAt]

/--
What a transition does to the decisions: it completes one check, which had no decision before, or
none.
-/
inductive Decides (tr : Transition Work) : Prop where
  | one (place : Nat) (d : Decision) (completes : tr.completes? = some place)
      (decided : tr.decided? = some d) (before : decisionAt place tr.before = none)
      (after : ∀ other, decisionAt other tr.after =
        if other = place then some d else decisionAt other tr.before)
  | none (completes : tr.completes? = none) (decided : tr.decided? = none)
      (after : ∀ other, decisionAt other tr.after = decisionAt other tr.before)

theorem decides_of_place {tr : Transition Work} {place : Nat}
    (hcompletes : tr.completes? = tr.decided?.map fun _ => place)
    (hbefore : decisionAt place tr.before = none)
    (hafter : ∀ other, decisionAt other tr.after =
      if other = place then tr.decided? else decisionAt other tr.before) : Decides tr := by
  cases hdecided : tr.decided? with
  | some d =>
      rw [hdecided] at hcompletes hafter
      exact .one place d hcompletes hdecided hbefore hafter
  | none =>
      rw [hdecided] at hcompletes hafter
      refine .none hcompletes hdecided fun other => ?_
      rw [hafter]
      split
      · rename_i h
        rw [h, hbefore]
      · rfl

theorem decides_of_idle {tr : Transition Work} (h : tr.before.step tr.event = (none, tr.before)) :
    Decides tr := by
  have hdecided : tr.decided? = none := by
    simp only [Transition.decided?, h]
  refine .none ?_ hdecided fun other => ?_
  · simp only [Transition.completes?, hdecided, Option.map_none]
  · simp only [Transition.after, h]

theorem decides_of_begin {ev : Event Work} {t : Traffic Work} {x : Progress × Engine Work}
    (hplace : (Transition.mk t ev).completes? =
      (Transition.mk t ev).decided?.map fun _ => t.checks.length)
    (hstep : t.step ev = t.begin x) : Decides (Transition.mk t ev) := by
  refine decides_of_place hplace (decisionAt_length t) fun other => ?_
  simp only [Transition.after, Transition.decided?, hstep]
  exact decisionAt_begin x t other

theorem decides (tr : Transition Work) : Decides tr := by
  obtain ⟨t, ev⟩ := tr
  cases ev with
  | start r => exact decides_of_begin rfl rfl
  | submit permission context =>
      cases hrequest : requestOf permission context with
      | ok r =>
          refine decides_of_begin (x := t.engine.start r) rfl ?_
          simp only [step, startRaw, hrequest]
      | error rejection =>
          cases htold : echo permission context with
          | ok r =>
              refine decides_of_begin
                (x := ended (t.engine.stamp r (Finding.rejected rejection.message))) rfl ?_
              simp only [step, startRaw, hrequest, htold]
              rfl
          | error f => exact decides_of_idle (by simp only [step, startRaw, hrequest, htold])
  | finish place o =>
      cases hwaiting : t.waiting? place with
      | none => exact decides_of_idle (by simp only [step, hwaiting])
      | some p =>
          refine decides_of_place rfl (decisionAt_of_waiting? hwaiting) fun other => ?_
          simp only [Transition.after, Transition.decided?, step, hwaiting]
          refine (decisionAt_set hwaiting _ _ other).trans ?_
          rcases (t.engine.finish p o).1 with fault | d <;> rfl
  | cancel place =>
      cases hwaiting : t.waiting? place with
      | none => exact decides_of_idle (by simp only [step, hwaiting])
      | some p =>
          refine decides_of_place rfl (decisionAt_of_waiting? hwaiting) fun other => ?_
          simp only [Transition.after, Transition.decided?, step, hwaiting]
          refine (decisionAt_set hwaiting _ _ other).trans ?_
          rcases (t.engine.cancel p).1 with fault | d <;> rfl
  | manage m => exact .none rfl rfl fun _ => rfl
  | clearGrants => exact .none rfl rfl fun _ => rfl

/-! ## Runs -/

/--
The completions of a run: each check is completed at most once; those that are completed are the
ones that have a decision afterwards and had none before; and what is decided in the run is, in its
order, what was decided on them.
-/
structure Completed (trs : List (Transition Work)) (t t' : Traffic Work) : Prop where
  nodup : (completions trs).Nodup
  kept : ∀ place d, decisionAt place t = some d -> decisionAt place t' = some d
  mem_iff : ∀ place, place ∈ completions trs ↔
    decisionAt place t = none ∧ (decisionAt place t').isSome
  decisions : (trs.filterMap Transition.decided?).map some =
    (completions trs).map fun place => decisionAt place t'

theorem completed_nil (t : Traffic Work) : Completed [] t t := by
  refine ⟨List.nodup_nil, fun _ _ h => h, fun place => ?_, rfl⟩
  constructor
  · intro h
    cases h
  · rintro ⟨hnone, hsome⟩
    simp [hnone] at hsome

section

variable {tr : Transition Work} {trs : List (Transition Work)} {t : Traffic Work}

/-- A transition that completes no check may come first. -/
theorem Completed.cons_none (h : Completed trs tr.after t) (completes : tr.completes? = none)
    (decided : tr.decided? = none)
    (after : ∀ other, decisionAt other tr.after = decisionAt other tr.before) :
    Completed (tr :: trs) tr.before t := by
  have hcompletions : completions (tr :: trs) = completions trs :=
    List.filterMap_cons_none completes
  have hdecided : (tr :: trs).filterMap Transition.decided? =
      trs.filterMap Transition.decided? := List.filterMap_cons_none decided
  refine ⟨hcompletions ▸ h.nodup, ?_, ?_, ?_⟩
  · exact fun place d hd => h.kept place d ((after place).trans hd)
  · intro place
    rw [hcompletions, h.mem_iff, after place]
  · rw [hcompletions, hdecided, h.decisions]

/-- So may one that completes a check: what comes behind it does not complete the check again. -/
theorem Completed.cons_one (h : Completed trs tr.after t) {place : Nat} {d : Decision}
    (completes : tr.completes? = some place) (decided : tr.decided? = some d)
    (before : decisionAt place tr.before = none)
    (after : ∀ other, decisionAt other tr.after =
      if other = place then some d else decisionAt other tr.before) :
    Completed (tr :: trs) tr.before t := by
  have hcompletions : completions (tr :: trs) = place :: completions trs :=
    List.filterMap_cons_some completes
  have hdecided : (tr :: trs).filterMap Transition.decided? =
      d :: trs.filterMap Transition.decided? := List.filterMap_cons_some decided
  have hplace : decisionAt place tr.after = some d := (after place).trans (if_pos rfl)
  have hother {other : Nat} (hne : other ≠ place) :
      decisionAt other tr.after = decisionAt other tr.before := (after other).trans (if_neg hne)
  have hfinal : decisionAt place t = some d := h.kept place d hplace
  refine ⟨?_, ?_, ?_, ?_⟩
  · rw [hcompletions, List.nodup_cons]
    refine ⟨fun hmem => ?_, h.nodup⟩
    have hnone := ((h.mem_iff place).1 hmem).1
    rw [hplace] at hnone
    cases hnone
  · intro other d' hd'
    have hne : other ≠ place := by
      rintro rfl
      rw [before] at hd'
      cases hd'
    exact h.kept other d' ((hother hne).trans hd')
  · intro other
    rw [hcompletions, List.mem_cons, h.mem_iff]
    by_cases hsame : other = place
    · subst hsame
      simp [before, hfinal]
    · simp [hsame, hother hsame]
  · rw [hcompletions, hdecided, List.map_cons, List.map_cons, h.decisions, hfinal]

end

theorem completed_run (events : List (Event Work)) (t : Traffic Work) :
    Completed (transitions events t) t (t.run events) := by
  induction events generalizing t with
  | nil => exact completed_nil t
  | cons ev rest ih =>
      have hrest : Completed (transitions rest (t.step ev).2) (Transition.mk t ev).after
          (t.run (ev :: rest)) := ih (t.step ev).2
      cases decides (Transition.mk t ev) with
      | none completes decided after => exact hrest.cons_none completes decided after
      | one place d completes decided before after =>
          exact hrest.cons_one completes decided before after

/-- The entries that come into the log in a run, in order, whatever is cut from it meanwhile. -/
def appended (events : List (Event Work)) (t : Traffic Work) : List AuditEntry :=
  ((transitions events t).filterMap Transition.decided?).map Decision.entry

theorem appended_cons (ev : Event Work) (rest : List (Event Work)) (t : Traffic Work) :
    appended (ev :: rest) t = (Transition.mk t ev).appended ++ appended rest (t.step ev).2 := by
  simp only [appended, transitions, List.filterMap_cons, Transition.appended]
  cases (Transition.mk t ev).decided? <;> rfl

/-- The log grows by the entries of what is decided, unless it is cut. -/
theorem entries_run {events : List (Event Work)} (hkeep : ∀ ev ∈ events, ¬ ev.CutsLog)
    (t : Traffic Work) :
    (t.run events).engine.log.entries = t.engine.log.entries ++
      ((transitions events t).filterMap Transition.decided?).map Decision.entry := by
  induction events generalizing t with
  | nil => exact (List.append_nil _).symm
  | cons ev rest ih =>
      have hrest := ih (fun ev' hev' => hkeep ev' (List.mem_cons_of_mem _ hev')) (t.step ev).2
      have hstep : (t.step ev).2.engine.log.entries =
          t.engine.log.entries ++ (Transition.mk t ev).appended :=
        Transition.entries_after ⟨t, ev⟩ (hkeep ev List.mem_cons_self)
      have hcons := appended_cons ev rest t
      rw [appended] at hcons
      rw [hcons, ← List.append_assoc, ← hstep]
      exact hrest

/-- Cutting the log leaves its end. -/
theorem suffix_after (tr : Transition Work) :
    tr.after.engine.log.entries <:+ tr.before.engine.log.entries ++ tr.appended := by
  by_cases hkeep : tr.event.CutsLog
  · obtain ⟨t, ev⟩ := tr
    cases ev with
    | manage m =>
        have hnothing : (Transition.mk t (.manage m)).appended = [] := rfl
        rw [hnothing, List.append_nil]
        simp only [Transition.after, step, (manage_frame m t.engine).2.1]
        cases m with
        | trimAudit keep => exact List.drop_suffix _ _
        | clearAudit => exact List.nil_suffix
        | _ => exact absurd hkeep id
    | _ => exact absurd hkeep id
  · exact tr.entries_after hkeep ▸ List.suffix_refl _

/-- The log is the end of all that came into it. -/
theorem suffix_run (events : List (Event Work)) (t : Traffic Work) :
    (t.run events).engine.log.entries <:+ t.engine.log.entries ++ appended events t := by
  induction events generalizing t with
  | nil => exact (List.append_nil t.engine.log.entries).symm ▸ List.suffix_refl _
  | cons ev rest ih =>
      have hrest := ih (t.step ev).2
      obtain ⟨cut, hcut⟩ := suffix_after (Transition.mk t ev)
      rw [appended_cons, ← List.append_assoc, ← hcut, List.append_assoc]
      exact hrest.trans (List.suffix_append _ _)

/-- A check that does not wait any more has a decision. -/
def Settled (t : Traffic Work) : Prop :=
  ∀ c ∈ t.checks, c.pending? = none -> c.decision?.isSome

theorem Settled.step {t : Traffic Work} (h : t.Settled) (hclock : t.engine.clock.Readable)
    (ev : Event Work) : (t.step ev).2.Settled := by
  have hset {place : Nat} {d : Decision} {c : Check} (hdecision : c.decision? = some d) :
      ∀ c' ∈ t.checks.set place c, c'.pending? = none -> c'.decision?.isSome := by
    intro c' hmem hnone
    rcases List.mem_or_eq_of_mem_set hmem with hmem | rfl
    · exact h c' hmem hnone
    · rw [hdecision]
      rfl
  cases hbegins : begins? ev t.engine with
  | some x =>
      rw [step_of_begins? hbegins]
      intro c hmem hnone
      rcases List.mem_append.1 hmem with hmem | hmem
      · exact h c hmem hnone
      · obtain rfl := List.mem_singleton.1 hmem
        rcases begins?_of_readable hclock hbegins with ⟨d, hended⟩ | ⟨p, hwaiting⟩
        · rw [hended]
          rfl
        · rw [hwaiting] at hnone
          cases hnone
  | none =>
      cases ev with
      | start r => cases hbegins
      | submit permission context =>
          rw [step_submit_of_begins?_eq_none hbegins]
          exact h
      | finish place o =>
          simp only [Traffic.step]
          cases t.waiting? place with
          | none => exact h
          | some p =>
              simp only [finish_of_readable hclock]
              exact hset rfl
      | cancel place =>
          simp only [Traffic.step]
          cases t.waiting? place with
          | none => exact h
          | some p =>
              simp only [cancel_of_readable hclock]
              exact hset rfl
      | manage m => exact h
      | clearGrants => exact h

theorem Settled.run {events : List (Event Work)} {t : Traffic Work} (h : t.Settled)
    (hclock : ∀ tr ∈ transitions events t, tr.before.engine.clock.Readable) :
    (t.run events).Settled := by
  induction events generalizing t with
  | nil => exact h
  | cons ev rest ih =>
      exact ih (h.step (hclock _ List.mem_cons_self) ev) fun tr htr =>
        hclock tr (List.mem_cons_of_mem _ htr)

end Traffic

end Clearance.Engine
