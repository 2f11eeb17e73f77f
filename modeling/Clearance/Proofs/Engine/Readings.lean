import Clearance.Proofs.Engine.Completion

/-!
# Readings of the clock

The times that are read off the clock of an engine in a run, in order.  A check reads the clock when
it is looked up and again when it ends, so other checks may read it in between; a finding that can
not be stamped makes for another reading.  An entry carries the last reading that its decision took.
-/

namespace Clearance.Engine

variable {Work : Type}

namespace Clock

/-- A clock gives some readings, of which others may have failed, and is left as another. -/
inductive Gives : Clock -> List Timestamp -> Clock -> Prop where
  | nothing (c : Clock) : Gives c [] c
  | reading {c next last : Clock} {t : Timestamp} {later : List Timestamp}
      (read : c.read = (.ok t, next)) (gives : Gives next later last) : Gives c (t :: later) last
  | failure {c next last : Clock} {fault : ClockFault} {later : List Timestamp}
      (read : c.read = (.error fault, next)) (gives : Gives next later last) : Gives c later last

/-- What a clock gives when it is read once. -/
def reading (c : Clock) : List Timestamp :=
  c.read.1.toOption.toList

theorem gives_reading (c : Clock) : c.Gives c.reading c.read.2 := by
  unfold reading
  rcases hread : c.read with ⟨fault | t, next⟩
  · exact .failure hread (.nothing next)
  · exact .reading hread (.nothing next)

/-- What a clock gives at the end of a check: a second reading if the first fails. -/
def lastReading (c : Clock) : List Timestamp :=
  match c.read with
  | (.ok t, _) => [t]
  | (.error _, next) => next.reading

end Clock

/-- What the clock gives when a check is looked up, and when it ends there. -/
def startReadings (r : Request) (e : Engine Work) : List Timestamp :=
  match e.catalog.get? r.permission with
  | none => e.clock.lastReading
  | some p =>
      match e.clock.read with
      | (.error _, next) => next.reading
      | (.ok now, next) =>
          match (lookup p e.policy r now e.grants).1, e.handler? with
          | .error _, _ => now :: next.reading
          | .ok (.due _), some _ => [now]
          | _, _ => now :: next.lastReading

/-- An operation that sets the clock or puts it out of order. -/
def Event.SetsClock : Event Work -> Prop
  | .manage (.advance _) | .manage (.setClock _) | .manage (.disturbClock _ _) => True
  | _ => False

/-- The readings that are taken in a transition, in order. -/
def Transition.readings (tr : Transition Work) : List Timestamp :=
  match tr.event.request?, tr.event with
  | some r, _ => tr.before.engine.startReadings r
  | none, .submit permission context =>
      match echo permission context with
      | .ok _ => tr.before.engine.clock.reading
      | .error _ => []
  | none, .finish place _ =>
      match tr.before.waiting? place with
      | some _ => tr.before.engine.clock.lastReading
      | none => []
  | none, .cancel place =>
      match tr.before.waiting? place with
      | some _ => tr.before.engine.clock.reading
      | none => []
  | none, .manage (.grantUntil _ _) => tr.before.engine.clock.reading
  | none, _ => []

/-- The readings of a run, in order. -/
def Traffic.readings (events : List (Event Work)) (t : Traffic Work) : List Timestamp :=
  (transitions events t).flatMap Transition.readings

/-! ## The clock gives the readings -/

theorem clock_stamp (r : Request) (f : Finding) (e : Engine Work) :
    (e.stamp r f).2.clock = e.clock.read.2 := by
  simp only [stamp, now]
  rcases e.clock.read with ⟨fault | t, next⟩ <;> rfl

theorem gives_stamp (r : Request) (f : Finding) (e : Engine Work) :
    e.clock.Gives e.clock.reading (e.stamp r f).2.clock :=
  clock_stamp r f e ▸ e.clock.gives_reading

theorem gives_conclude (r : Request) (f : Finding) (e : Engine Work) :
    e.clock.Gives e.clock.lastReading (e.conclude r f).2.clock := by
  simp only [conclude, stamp, now, Clock.lastReading]
  rcases hread : e.clock.read with ⟨fault | t, next⟩
  · exact .failure hread (gives_stamp r _ { e with clock := next })
  · exact .reading hread (.nothing next)

theorem gives_start (r : Request) (e : Engine Work) :
    e.clock.Gives (e.startReadings r) (e.start r).2.clock := by
  have hstarted := e.started r
  generalize e.start r = x at hstarted ⊢
  unfold startReadings
  cases hstarted with
  | unknown unregistered =>
      simp only [unregistered]
      exact gives_conclude r _ e
  | @unread p fault clock registered read =>
      simp only [registered, read]
      exact .failure read (gives_stamp r _ { e with clock })
  | @failed p now fault clock grants registered read lookup =>
      simp only [registered, read, lookup]
      exact .reading read (gives_stamp r _ { e with grants, clock })
  | @found p now f clock grants registered read lookup =>
      simp only [registered, read, lookup]
      exact .reading read (gives_conclude r f { e with grants, clock })
  | waiting registered read lookup handled =>
      simp only [registered, read, lookup, handled]
      exact .reading read (.nothing _)
  | @unhandled p now i clock grants registered read lookup nobody =>
      simp only [registered, read, lookup, nobody]
      exact .reading read (gives_conclude r _ { e with handler? := none, grants, clock })

theorem gives_manage {m : Management Work} (hset : ¬ (Event.manage m).SetsClock)
    (t : Traffic Work) :
    t.engine.clock.Gives (Transition.mk t (.manage m)).readings (t.engine.manage m).2.clock := by
  rw [(manage_frame m t.engine).2.2]
  cases m with
  | advance micros => exact absurd trivial hset
  | setClock time => exact absurd trivial hset
  | disturbClock message readings => exact absurd trivial hset
  | grantUntil name x => exact t.engine.clock.gives_reading
  | _ => exact .nothing _

/-- The readings of a transition are those that the clock gives in it. -/
theorem gives_readings {tr : Transition Work} (hset : ¬ tr.event.SetsClock) :
    tr.before.engine.clock.Gives tr.readings tr.after.engine.clock := by
  obtain ⟨t, ev⟩ := tr
  have hact := (Transition.mk t ev).act
  generalize (Transition.mk t ev).appended = entries at hact
  generalize (Transition.mk t ev).after.engine = e at hact ⊢
  unfold Transition.readings
  cases hact with
  | started request =>
      simp only [request]
      exact gives_start _ t.engine
  | rejected unreadable told =>
      simp only [Transition.request?_submit_of_error unreadable, told]
      exact gives_stamp _ _ t.engine
  | untold unreadable untold =>
      simp only [Transition.request?_submit_of_error unreadable, untold]
      exact .nothing _
  | finished waiting =>
      simp only [Event.request?, waiting]
      exact gives_conclude _ _ t.engine
  | cancelled waiting =>
      simp only [Event.request?, waiting]
      exact gives_stamp _ _ t.engine
  | missed ends gone =>
      obtain ⟨o, rfl⟩ | rfl := ends <;> simp only [Event.request?, gone] <;> exact .nothing _
  | managed m => exact gives_manage hset t
  | cleared => exact .nothing _

/-! ## Entries carry readings -/

theorem timestamps_stamp (r : Request) (f : Finding) (e : Engine Work) :
    ((entriesOf (e.stamp r f).1).map AuditEntry.timestamp).Sublist e.clock.reading := by
  simp only [stamp, now, Clock.reading]
  rcases e.clock.read with ⟨fault | t, next⟩ <;> exact List.Sublist.refl _

theorem timestamps_conclude (r : Request) (f : Finding) (e : Engine Work) :
    ((entriesOf (e.conclude r f).1).map AuditEntry.timestamp).Sublist e.clock.lastReading := by
  simp only [conclude, stamp, now, Clock.lastReading]
  rcases e.clock.read with ⟨fault | t, next⟩
  · exact timestamps_stamp r (Finding.failed fault.message) { e with clock := next }
  · exact List.Sublist.refl _

/-- A check that ends where it starts carries the last of its readings. -/
theorem timestamps_start (r : Request) (e : Engine Work) :
    ((e.start r).1.entries.map AuditEntry.timestamp).Sublist (e.startReadings r) := by
  have hstarted := e.started r
  generalize e.start r = x at hstarted ⊢
  unfold startReadings
  cases hstarted with
  | unknown unregistered =>
      simp only [unregistered]
      exact timestamps_conclude r _ e
  | unread registered read =>
      simp only [registered, read]
      exact timestamps_stamp r _ _
  | failed registered read lookup =>
      simp only [registered, read, lookup]
      exact (timestamps_stamp r _ _).cons _
  | found registered read lookup =>
      simp only [registered, read, lookup]
      exact (timestamps_conclude r _ _).cons _
  | waiting registered read lookup handled => exact List.nil_sublist _
  | unhandled registered read lookup nobody =>
      simp only [registered, read, lookup, nobody]
      exact (timestamps_conclude r _ _).cons _

theorem timestamps_appended (tr : Transition Work) :
    (tr.appended.map AuditEntry.timestamp).Sublist tr.readings := by
  obtain ⟨t, ev⟩ := tr
  have hact := (Transition.mk t ev).act
  generalize (Transition.mk t ev).appended = entries at hact ⊢
  generalize (Transition.mk t ev).after.engine = e at hact
  unfold Transition.readings
  cases hact with
  | started request =>
      simp only [request]
      exact timestamps_start _ t.engine
  | rejected unreadable told =>
      simp only [Transition.request?_submit_of_error unreadable, told]
      exact timestamps_stamp _ _ t.engine
  | finished waiting =>
      simp only [Event.request?, waiting]
      exact timestamps_conclude _ _ t.engine
  | cancelled waiting =>
      simp only [Event.request?, waiting]
      exact timestamps_stamp _ _ t.engine
  | _ => exact List.nil_sublist _

namespace Traffic

/-- The entries that come into the log in a run carry readings of the run, in order. -/
theorem timestamps_run (events : List (Event Work)) (t : Traffic Work) :
    ((appended events t).map AuditEntry.timestamp).Sublist (readings events t) := by
  induction events generalizing t with
  | nil => exact List.nil_sublist _
  | cons ev rest ih =>
      rw [appended_cons, List.map_append]
      exact (timestamps_appended ⟨t, ev⟩).append (ih (t.step ev).2)

end Traffic

end Clearance.Engine
