import Clearance.Proofs.Engine.Completion
import Mathlib.Data.List.Forall2

/-!
# Sinks take no part

The sink of an engine is handed every entry that comes into the log, once and in order, and has no
part in anything else.  Putting another sink in its place commutes with every step: what is told,
decided, logged and granted stays the same, and only what the sink was handed is left in it.
-/

namespace Clearance

namespace Trail.Sink

/-- A sink after it was handed entries, one after another. -/
def takes (entries : List AuditEntry) (s : Sink) : Sink :=
  entries.foldl (fun s e => s.record e) s

@[simp] theorem takes_nil (s : Sink) : s.takes [] = s := rfl

theorem takes_append (first second : List AuditEntry) (s : Sink) :
    s.takes (first ++ second) = (s.takes first).takes second :=
  List.foldl_append

/-- A sink that fails at some entries was handed them all the same. -/
theorem takes_faulty (fails : Nat -> Bool) (handed entries : List AuditEntry) :
    (faulty fails handed).takes entries = faulty fails (handed ++ entries) := by
  induction entries generalizing handed with
  | nil => rw [List.append_nil, takes_nil]
  | cons e rest ih =>
      have hrest : (faulty fails (handed ++ [e])).takes rest =
          faulty fails (handed ++ [e] ++ rest) := ih _
      rw [List.append_assoc] at hrest
      exact hrest

/-- A sink that never fails keeps all that it is handed. -/
theorem kept_of_sound {fails : Nat -> Bool} (h : ∀ place, fails place = false)
    (handed : List AuditEntry) : kept fails handed = handed := by
  have hall : (handed.zipIdx.filter fun entry => !fails entry.2) = handed.zipIdx :=
    List.filter_eq_self.2 fun entry _ => congrArg not (h entry.2)
  calc
    kept fails handed = (handed.zipIdx.filter fun entry => !fails entry.2).map Prod.fst := rfl
    _ = handed := by rw [hall, List.zipIdx_map_fst]

end Trail.Sink

namespace Engine

variable {Work : Type}

/-- The same engine with another sink. -/
def onSink (sink : Trail.Sink) (e : Engine Work) : Engine Work :=
  { e with sink }

/-! ## Single steps -/

section

variable (sink : Trail.Sink) (e : Engine Work)

theorem stamp_onSink (r : Request) (f : Finding) :
    (e.onSink sink).stamp r f =
      ((e.stamp r f).1, (e.stamp r f).2.onSink (sink.takes (entriesOf (e.stamp r f).1))) := by
  simp only [stamp, now, onSink]
  rcases e.clock.read with ⟨fault | t, clock⟩ <;> rfl

theorem conclude_onSink (r : Request) (f : Finding) :
    (e.onSink sink).conclude r f =
      ((e.conclude r f).1,
        (e.conclude r f).2.onSink (sink.takes (entriesOf (e.conclude r f).1))) := by
  have hstamp := stamp_onSink sink e r f
  simp only [conclude, hstamp]
  rcases e.stamp r f with ⟨fault | d, e₁⟩
  · exact stamp_onSink sink e₁ r (Finding.failed fault.message)
  · rfl

theorem start_onSink (r : Request) :
    (e.onSink sink).start r =
      ((e.start r).1, (e.start r).2.onSink (sink.takes (e.start r).1.entries)) := by
  have hended {x x' : Except ClockFault Decision × Engine Work}
      (h : x' = (x.1, x.2.onSink (sink.takes (entriesOf x.1)))) :
      ended x' = ((ended x).1, (ended x).2.onSink (sink.takes (ended x).1.entries)) := by
    rw [h]
    rfl
  obtain ⟨settings, catalog, policy, grants, handler?, log, before, clock⟩ := e
  simp only [start, now, onSink]
  cases catalog.get? r.permission with
  | none =>
      exact hended (conclude_onSink sink
        ⟨settings, catalog, policy, grants, handler?, log, before, clock⟩ r _)
  | some p =>
      rcases clock.read with ⟨fault | t, clock⟩
      · exact hended (stamp_onSink sink
          ⟨settings, catalog, policy, grants, handler?, log, before, clock⟩ r _)
      · dsimp only
        rcases lookup p policy r t grants with ⟨fault | (f | i), grants⟩
        · exact hended (stamp_onSink sink
            ⟨settings, catalog, policy, grants, handler?, log, before, clock⟩ r _)
        · exact hended (conclude_onSink sink
            ⟨settings, catalog, policy, grants, handler?, log, before, clock⟩ r f)
        · cases handler? with
          | some handler => rfl
          | none =>
              exact hended (conclude_onSink sink
                ⟨settings, catalog, policy, grants, none, log, before, clock⟩ r _)

theorem grantUntil_onSink (name : String) (x : Expiry) :
    (e.onSink sink).grantUntil name x =
      ((e.grantUntil name x).1, (e.grantUntil name x).2.onSink sink) := by
  simp only [grantUntil, now, onSink]
  rcases e.clock.read with ⟨fault | t, clock⟩
  · rfl
  · dsimp only
    cases x.resolve clock.zone t <;> rfl

/-- Management neither uses the sink nor reads it, but where it is asked for what it holds. -/
theorem manage_onSink (m : Management Work) :
    ((e.onSink sink).manage m).2 = (e.manage m).2.onSink sink ∧
      (m ≠ .sink -> ((e.onSink sink).manage m).1 = (e.manage m).1) := by
  cases m with
  | sink => exact ⟨rfl, fun h => absurd rfl h⟩
  | grantUntil name x =>
      have huntil := grantUntil_onSink sink e name x
      exact ⟨congrArg Prod.snd huntil, fun _ => congrArg (fun x => x.1) huntil⟩
  | advance micros =>
      simp only [manage, onSink]
      cases e.clock.advance micros <;> exact ⟨rfl, fun _ => rfl⟩
  | grantScope scope =>
      simp only [manage, onSink]
      cases Scope.ofValue scope <;> exact ⟨rfl, fun _ => rfl⟩
  | unregister name? => cases name? <;> exact ⟨rfl, fun _ => rfl⟩
  | listByRisk risk =>
      simp only [manage, onSink]
      cases RiskLevel.ofValue risk <;> exact ⟨rfl, fun _ => rfl⟩
  | listByScope scope =>
      simp only [manage, onSink]
      cases Scope.ofValue scope <;> exact ⟨rfl, fun _ => rfl⟩
  | setPolicy policy =>
      simp only [manage, onSink]
      cases policyOf policy <;> exact ⟨rfl, fun _ => rfl⟩
  | importData config =>
      simp only [manage, onSink]
      cases Config.ofValue config <;> exact ⟨rfl, fun _ => rfl⟩
  | importText text =>
      simp only [manage, onSink]
      cases Config.ofText text <;> exact ⟨rfl, fun _ => rfl⟩
  | audit wanted =>
      have hentries : (e.onSink sink).entries wanted = e.entries wanted := rfl
      simp only [manage, hentries]
      cases e.entries wanted <;> exact ⟨rfl, fun _ => rfl⟩
  | report wanted =>
      have hentries : (e.onSink sink).entries wanted = e.entries wanted := rfl
      simp only [manage, hentries]
      cases e.entries wanted <;> exact ⟨rfl, fun _ => rfl⟩
  | _ => exact ⟨rfl, fun _ => rfl⟩

end

/-! ## Transitions -/

namespace Transition

/-- What is given in return for an event, if anything is. -/
def result? (tr : Transition Work) : Option Result :=
  let decided := (tr.before.step tr.event).1.map fun r =>
    (r.mapError Failure.clock).map Answer.decision
  match tr.event with
  | .manage m => some (tr.before.engine.manage m).1
  | .submit permission context =>
      match (tr.before.engine.startRaw permission context).1 with
      | .error f => some (.error (.noText f))
      | .ok _ => decided
  | _ => decided

end Transition

namespace Traffic

/-- The same checks on the same engine with another sink. -/
def onSink (sink : Trail.Sink) (t : Traffic Work) : Traffic Work :=
  { t with engine := t.engine.onSink sink }

theorem begin_onSink (sink : Trail.Sink) (x : Progress × Engine Work) (t : Traffic Work) :
    (t.onSink sink).begin (x.1, x.2.onSink (sink.takes x.1.entries)) =
      ((t.begin x).1,
        (t.begin x).2.onSink (sink.takes (((t.begin x).1.map entriesOf).getD []))) := by
  rcases x with ⟨r | p, e⟩ <;> rfl

theorem startRaw_onSink (sink : Trail.Sink) (e : Engine Work) (permission context : Value) :
    ((e.onSink sink).startRaw permission context).1 = (e.startRaw permission context).1 := by
  simp only [startRaw]
  cases requestOf permission context with
  | ok r => simp only [start_onSink]
  | error rejection =>
      cases echo permission context with
      | error f => rfl
      | ok r => simp only [stamp_onSink]

/-- An event decides the same with another sink, and hands the sink the entry of the decision. -/
theorem step_onSink (sink : Trail.Sink) (ev : Event Work) (t : Traffic Work) :
    (t.onSink sink).step ev =
      ((t.step ev).1,
        (t.step ev).2.onSink (sink.takes (((t.step ev).1.map entriesOf).getD []))) := by
  have hengine : (t.onSink sink).engine = t.engine.onSink sink := rfl
  cases ev with
  | start r =>
      simp only [step, hengine, start_onSink]
      exact begin_onSink sink _ t
  | submit permission context =>
      simp only [step, startRaw, hengine]
      cases requestOf permission context with
      | ok r =>
          simp only [start_onSink]
          exact begin_onSink sink _ t
      | error rejection =>
          cases echo permission context with
          | error f => rfl
          | ok r =>
              simp only [stamp_onSink]
              exact begin_onSink sink (ended (t.engine.stamp r _)) t
  | finish place o =>
      have hwaiting : (t.onSink sink).waiting? place = t.waiting? place := rfl
      simp only [step, hengine, hwaiting]
      cases t.waiting? place with
      | none => rfl
      | some p =>
          simp only [finish, conclude_onSink]
          rfl
  | cancel place =>
      have hwaiting : (t.onSink sink).waiting? place = t.waiting? place := rfl
      simp only [step, hengine, hwaiting]
      cases t.waiting? place with
      | none => rfl
      | some p =>
          simp only [cancel, stamp_onSink]
          rfl
  | manage m =>
      simp only [step, hengine, (manage_onSink sink t.engine m).1]
      rfl
  | clearGrants => rfl

theorem result?_onSink (sink : Trail.Sink) (t : Traffic Work) {ev : Event Work}
    (h : ev ≠ .manage .sink) :
    (Transition.mk (t.onSink sink) ev).result? = (Transition.mk t ev).result? := by
  simp only [Transition.result?, step_onSink]
  cases ev with
  | manage m =>
      have hm : m ≠ .sink := fun hm => h (congrArg Event.manage hm)
      exact congrArg some ((manage_onSink sink t.engine m).2 hm)
  | submit permission context =>
      have hraw : ((t.onSink sink).engine.startRaw permission context).1 =
          (t.engine.startRaw permission context).1 := startRaw_onSink sink t.engine _ _
      simp only [hraw]
  | _ => rfl

/-! ## Runs -/

/-- One event at the same time in two runs, in which the same is given, logged and granted. -/
structure Undisturbed (tr tr' : Transition Work) : Prop where
  event : tr'.event = tr.event
  result : tr.event ≠ .manage .sink -> tr'.result? = tr.result?
  log : tr'.after.engine.log = tr.after.engine.log
  grants : tr'.after.engine.grants = tr.after.engine.grants

theorem undisturbed_onSink (sink : Trail.Sink) (t : Traffic Work) (ev : Event Work) :
    Undisturbed (Transition.mk t ev) (Transition.mk (t.onSink sink) ev) where
  event := rfl
  result := result?_onSink sink t
  log := by
    simp only [Transition.after, step_onSink]
    rfl
  grants := by
    simp only [Transition.after, step_onSink]
    rfl

theorem transitions_onSink (events : List (Event Work)) (sink : Trail.Sink) (t : Traffic Work) :
    List.Forall₂ Undisturbed (transitions events t) (transitions events (t.onSink sink)) := by
  induction events generalizing sink t with
  | nil => exact .nil
  | cons ev rest ih =>
      have hrest := ih (sink.takes (((t.step ev).1.map entriesOf).getD [])) (t.step ev).2
      have hstep := congrArg Prod.snd (step_onSink sink ev t)
      refine .cons (undisturbed_onSink sink t ev) ?_
      rw [hstep]
      exact hrest

/-- A run with another sink comes to the same, and the sink was handed what came into the log. -/
theorem run_onSink (events : List (Event Work)) (sink : Trail.Sink) (t : Traffic Work) :
    (t.onSink sink).run events = (t.run events).onSink (sink.takes (appended events t)) := by
  induction events generalizing sink t with
  | nil => rfl
  | cons ev rest ih =>
      have hrest := ih (sink.takes (((t.step ev).1.map entriesOf).getD [])) (t.step ev).2
      have hstep := congrArg Prod.snd (step_onSink sink ev t)
      have hrun : (t.onSink sink).run (ev :: rest) = ((t.onSink sink).step ev).2.run rest := rfl
      rw [appended_cons, Transition.appended_eq, Trail.Sink.takes_append, hrun, hstep]
      exact hrest

/--
Whatever sink takes the place of that of an engine, every event of a run gives the same in return
and leaves the same log and the same grants.  The sink has been handed every entry that came into
the log, once and in order; the log is the end of these that was not cut.
-/
theorem sink_takes_no_part (events : List (Event Work)) (e : Engine Work) (sink : Trail.Sink) :
    let t : Traffic Work := { engine := e }
    let t' : Traffic Work := { engine := e.onSink sink }
    List.Forall₂ Undisturbed (transitions events t) (transitions events t') ∧
      (t'.run events).engine = (t.run events).engine.onSink (sink.takes (appended events t)) ∧
      (∀ tr ∈ transitions events t, ¬ tr.event.CutsLog ->
        tr.after.engine.log.entries = tr.before.engine.log.entries ++ tr.appended) ∧
      (t.run events).engine.log.entries <:+ e.log.entries ++ appended events t ∧
      ∀ fails handed, sink = .faulty fails handed ->
        (t'.run events).engine.sink = .faulty fails (handed ++ appended events t) ∧
          ((∀ place, fails place = false) ->
            Trail.Sink.kept fails (handed ++ appended events t) = handed ++ appended events t) := by
  intro t t'
  have hrun : t'.run events = (t.run events).onSink (sink.takes (appended events t)) :=
    run_onSink events sink t
  refine ⟨transitions_onSink events sink t, congrArg Traffic.engine hrun,
    fun tr _ hkeep => tr.entries_after hkeep, suffix_run events t, ?_⟩
  rintro fails handed rfl
  refine ⟨?_, fun hsound => Trail.Sink.kept_of_sound hsound _⟩
  rw [hrun, Trail.Sink.takes_faulty]
  rfl

/-- Two unknown permissions are denied, with the log trimmed after the first and cleared at last. -/
def cutRun : List (Event Unit) :=
  [.start { permission := "files.read" }, .manage (.trimAudit 0),
    .start { permission := "files.write" }, .manage .clearAudit]

/-- A sink that fails at the first of two entries keeps the second, which is cut from the log. -/
theorem sink_takes_no_part_cut :
    let t : Traffic Unit := { engine := refundEngine .silent }
    let t' : Traffic Unit := { engine := (refundEngine .silent).onSink (.faulty (· == 0) []) }
    List.Forall₂ Undisturbed (transitions cutRun t) (transitions cutRun t') ∧
      (t.run cutRun).engine.log.entries = [] ∧
      (appended cutRun t).map AuditEntry.permission = ["files.read", "files.write"] ∧
      (t'.run cutRun).engine.sink.permissions? = some ["files.write"] ∧
      (({ engine := (refundEngine .silent).onSink (.faulty (fun _ => false) []) } :
        Traffic Unit).run cutRun).engine.sink =
          .faulty (fun _ => false) (appended cutRun t) := by
  intro t t'
  obtain ⟨hundisturbed, -, -, -, hfaulty⟩ :=
    sink_takes_no_part cutRun (refundEngine .silent) (.faulty (· == 0) [])
  obtain ⟨-, -, -, -, hsound⟩ :=
    sink_takes_no_part cutRun (refundEngine .silent) (.faulty (fun _ => false) [])
  refine ⟨hundisturbed, by decide +kernel, by decide +kernel, ?_, (hsound _ [] rfl).1⟩
  rw [(hfaulty _ [] rfl).1]
  decide +kernel

end Traffic

end Engine

end Clearance
