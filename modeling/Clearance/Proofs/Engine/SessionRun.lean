import Clearance.Proofs.Engine.Evaluation
import Clearance.Proofs.Engine.Interleaving

/-!
# Sessions are runs

Whatever is done in a session is a run of single events.  Checks that are made at once have all
been started before the first is finished; a handler's own operations come between the start and
the end of the check that it is asked about.  What holds of every run holds of sessions, too.
-/

namespace Clearance.Engine

open Confirmation (Handler Outcome Reply)

namespace Traffic

section

variable {Work : Type} {t u v : Traffic Work}

/-- Some run leads from one state to another. -/
def Leads (t u : Traffic Work) : Prop :=
  ∃ events, t.run events = u

theorem Leads.refl (t : Traffic Work) : t.Leads t :=
  ⟨[], rfl⟩

theorem leads_step (ev : Event Work) (t : Traffic Work) : t.Leads (t.step ev).2 :=
  ⟨[ev], rfl⟩

theorem Leads.trans (h : t.Leads u) (h' : u.Leads v) : t.Leads v := by
  obtain ⟨first, rfl⟩ := h
  obtain ⟨second, rfl⟩ := h'
  exact ⟨first ++ second, by simp only [run, List.foldl_append]⟩

end

/-! ## Checks that wait -/

/-- What the checks of a list wait with, in order. -/
def pendings (checks : List Check) : List Pending :=
  checks.filterMap Check.pending?

theorem pendings_append (checks more : List Check) :
    pendings (checks ++ more) = pendings checks ++ pendings more :=
  List.filterMap_append

/-- One of the checks that wait in order has a place, and the others have theirs around it. -/
theorem exists_place {kept rest : List Pending} {p : Pending} {more : List Check}
    (h : (kept ++ p :: rest).Sublist (pendings more)) :
    ∃ before after, more = before ++ .waiting p :: after ∧
      kept.Sublist (pendings before) ∧ rest.Sublist (pendings after) := by
  obtain ⟨front, back, hsplit, hkept, hback⟩ := List.append_sublist_iff.1 h
  obtain ⟨upTo, behind, rfl, hp, hrest⟩ := List.cons_sublist_iff.1 hback
  obtain ⟨skipped, passed, rfl⟩ := List.append_of_mem hp
  have hpendings : pendings more = (front ++ skipped) ++ p :: (passed ++ behind) := by
    rw [hsplit]
    simp only [List.append_assoc, List.cons_append]
  obtain ⟨before, tail, rfl, hbefore, htail⟩ := List.filterMap_eq_append_iff.1 hpendings
  obtain ⟨idle, c, after, rfl, hidle, hc, hafter⟩ := List.filterMap_eq_cons_iff.1 htail
  cases c with
  | waiting q =>
      cases hc
      refine ⟨before ++ idle, after, by simp, ?_, ?_⟩
      · rw [pendings_append, pendings, hbefore, List.append_assoc]
        exact hkept.trans (List.sublist_append_left _ _)
      · rw [pendings, hafter]
        exact hrest.trans (List.sublist_append_right _ _)
  | ended r => cases hc
  | cancelled r => cases hc

/-- A check that waits may be finished, or cancelled, and the others go on waiting. -/
theorem leads_of_waiting {Work : Type} {kept rest : List Pending} {p : Pending}
    (base : List Check) {more : List Check} (h : (kept ++ p :: rest).Sublist (pendings more))
    {e e' : Engine Work} (hend : (∃ o, e' = (e.finish p o).2) ∨ e' = (e.cancel p).2) :
    ∃ more', Leads { engine := e, checks := base ++ more }
        { engine := e', checks := base ++ more' } ∧
      (kept ++ rest).Sublist (pendings more') := by
  obtain ⟨before, after, rfl, hkept, hrest⟩ := exists_place h
  have hplace : waiting? (base ++ before).length
      ({ engine := e, checks := base ++ (before ++ .waiting p :: after) } : Traffic Work) =
        some p := by
    simp only [waiting?, ← List.append_assoc]
    rw [List.getElem?_append_right (Nat.le_refl _), Nat.sub_self]
    rfl
  have hset (c : Check) : (base ++ (before ++ .waiting p :: after)).set (base ++ before).length c =
      base ++ (before ++ c :: after) := by
    simp only [← List.append_assoc]
    rw [List.set_append_right _ _ (Nat.le_refl _), Nat.sub_self]
    rfl
  have hothers (c : Check) (hc : c.pending? = none) :
      (kept ++ rest).Sublist (pendings (before ++ c :: after)) := by
    rw [pendings_append, pendings, pendings, List.filterMap_cons_none hc]
    exact hkept.append hrest
  rcases hend with ⟨o, rfl⟩ | rfl
  · refine ⟨before ++ .ended (e.finish p o).1 :: after, ?_, hothers _ rfl⟩
    have hstep := leads_step (.finish (base ++ before).length o)
      ({ engine := e, checks := base ++ (before ++ .waiting p :: after) } : Traffic Work)
    simp only [step, hplace, hset] at hstep
    exact hstep
  · refine ⟨before ++ .cancelled (e.cancel p).1 :: after, ?_, hothers _ rfl⟩
    have hstep := leads_step (.cancel (base ++ before).length)
      ({ engine := e, checks := base ++ (before ++ .waiting p :: after) } : Traffic Work)
    simp only [step, hplace, hset] at hstep
    exact hstep

end Traffic

namespace Session

/-- What a stage waits with. -/
def Stage.pending? : Stage -> Option Pending
  | .waiting p | .replied p _ => some p
  | .settled _ => none

/-- What the stages of several checks wait with, in order. -/
def stagePendings (stages : List Stage) : List Pending :=
  stages.filterMap Stage.pending?

/-- A run leads from a session to another, whatever checks were made before. -/
def Grows (s s' : Session) : Prop :=
  ∀ checks, ∃ more, Traffic.Leads { engine := s.engine, checks }
    { engine := s'.engine, checks := checks ++ more }

theorem Grows.refl (s : Session) : Grows s s := by
  intro checks
  refine ⟨[], ?_⟩
  rw [List.append_nil]
  exact Traffic.Leads.refl _

theorem Grows.trans {s s' s'' : Session} (h : Grows s s') (h' : Grows s' s'') : Grows s s'' := by
  intro checks
  obtain ⟨first, hfirst⟩ := h checks
  obtain ⟨second, hsecond⟩ := h' (checks ++ first)
  refine ⟨first ++ second, ?_⟩
  rw [← List.append_assoc]
  exact hfirst.trans hsecond

/-! ## Starts -/

theorem startCheck_leads (permission context : Value) (s : Session) (checks : List Check) :
    ∃ more, Traffic.Leads { engine := s.engine, checks }
        { engine := (s.startCheck permission context).2.engine, checks := checks ++ more } ∧
      Traffic.pendings more = (s.startCheck permission context).1.pending?.toList := by
  have hstep := Traffic.leads_step (.submit permission context) { engine := s.engine, checks }
  revert hstep
  simp only [Traffic.step, startCheck, on]
  rcases s.engine.startRaw permission context with ⟨f | (r | p), e⟩
  · intro hstep
    refine ⟨[], ?_, rfl⟩
    rw [List.append_nil]
    exact hstep
  · intro hstep
    exact ⟨[.ended r], hstep, rfl⟩
  · intro hstep
    exact ⟨[.waiting p], hstep, rfl⟩

theorem stagePendings_cons (stage : Stage) (stages : List Stage) :
    stagePendings (stage :: stages) = stage.pending?.toList ++ stagePendings stages := by
  unfold stagePendings
  cases h : stage.pending? with
  | none => rw [List.filterMap_cons_none h]; rfl
  | some p => rw [List.filterMap_cons_some h]; rfl

theorem startAll_leads (asks : List (Value × Value)) (s : Session) (checks : List Check) :
    ∃ more, Traffic.Leads { engine := s.engine, checks }
        { engine := (startAll asks s).2.engine, checks := checks ++ more } ∧
      Traffic.pendings more = stagePendings (startAll asks s).1 := by
  induction asks generalizing s checks with
  | nil =>
      refine ⟨[], ?_, rfl⟩
      rw [List.append_nil]
      exact Traffic.Leads.refl _
  | cons ask rest ih =>
      obtain ⟨permission, context⟩ := ask
      obtain ⟨first, hfirst, hwaits⟩ := startCheck_leads permission context s checks
      obtain ⟨others, hothers, hrest⟩ :=
        ih (s.startCheck permission context).2 (checks ++ first)
      refine ⟨first ++ others, ?_, ?_⟩
      · rw [← List.append_assoc]
        exact hfirst.trans hothers
      · rw [Traffic.pendings_append, hwaits, hrest, ← stagePendings_cons]
        rfl

/-! ## Handlers at work -/

section

variable {work : List Operation -> Session -> Session} (hwork : ∀ ops s, Grows s (work ops s))

include hwork

theorem grows_asked (stage : Stage) (s : Session) : Grows s (asked work stage s).2 := by
  cases stage with
  | waiting p =>
      simp only [asked, consult]
      cases s.engine.handler? with
      | none => exact Grows.refl s
      | some handler =>
          dsimp only
          cases handler.work? with
          | none => exact Grows.refl s
          | some ops => exact hwork ops { s with sights := s.sights ++ (handler.ask p.inquiry).2 }
  | settled r => exact Grows.refl s
  | replied p reply? => exact Grows.refl s

theorem grows_sweep_asked (stages : List Stage) (s : Session) :
    Grows s (sweep (asked work) stages s).2 := by
  induction stages generalizing s with
  | nil => exact Grows.refl s
  | cons stage rest ih => exact (grows_asked hwork stage s).trans (ih _)

omit hwork in
theorem stagePendings_sweep_asked (stages : List Stage) (s : Session) :
    stagePendings (sweep (asked work) stages s).1 = stagePendings stages := by
  induction stages generalizing s with
  | nil => rfl
  | cons stage rest ih =>
      have hstage : (asked work stage s).1.pending? = stage.pending? := by
        cases stage <;> rfl
      simp only [sweep]
      rw [stagePendings_cons, stagePendings_cons, hstage, ih]

end

/-! ## Ends -/

/-- A check that waits is left alone, or finished or cancelled. -/
def Closes (f : Stage -> Session -> Stage × Session) : Prop :=
  ∀ stage s, (f stage s).1.pending? = stage.pending? ∧ (f stage s).2.engine = s.engine ∨
    ∃ p, stage.pending? = some p ∧ (f stage s).1.pending? = none ∧
      ((∃ o, (f stage s).2.engine = (s.engine.finish p o).2) ∨
        (f stage s).2.engine = (s.engine.cancel p).2)

theorem closes_answered : Closes answered := by
  intro stage s
  rcases stage with r | p | ⟨p, _ | reply⟩
  · exact .inl ⟨rfl, rfl⟩
  · exact .inl ⟨rfl, rfl⟩
  · exact .inl ⟨rfl, rfl⟩
  · exact .inr ⟨p, rfl, rfl, .inl ⟨_, rfl⟩⟩

theorem closes_expired : Closes expired := by
  intro stage s
  rcases stage with r | p | ⟨p, _ | reply⟩
  · exact .inl ⟨rfl, rfl⟩
  · exact .inl ⟨rfl, rfl⟩
  · exact .inr ⟨p, rfl, rfl, .inl ⟨_, rfl⟩⟩
  · exact .inl ⟨rfl, rfl⟩

theorem closes_abandoned : Closes abandoned := by
  intro stage s
  rcases stage with r | p | ⟨p, _ | reply⟩
  · exact .inl ⟨rfl, rfl⟩
  · exact .inl ⟨rfl, rfl⟩
  · refine .inr ⟨p, rfl, rfl, .inr ?_⟩
    simp only [abandoned, cancel, on]
    rcases s.engine.cancel p with ⟨r | r, e⟩ <;> rfl
  · exact .inl ⟨rfl, rfl⟩

/--
Stages that are gone through one after another: those that are passed are kept in `kept`, and go on
waiting in front of the rest.
-/
theorem sweep_leads {f : Stage -> Session -> Stage × Session} (hf : Closes f)
    (stages : List Stage) {s : Session} (base : List Check) {more : List Check}
    {kept : List Pending}
    (h : (kept ++ stagePendings stages).Sublist (Traffic.pendings more)) :
    ∃ more', Traffic.Leads { engine := s.engine, checks := base ++ more }
        { engine := (sweep f stages s).2.engine, checks := base ++ more' } ∧
      (kept ++ stagePendings (sweep f stages s).1).Sublist (Traffic.pendings more') := by
  induction stages generalizing s more kept with
  | nil => exact ⟨more, Traffic.Leads.refl _, h⟩
  | cons stage rest ih =>
      rw [stagePendings_cons] at h
      rcases hf stage s with ⟨hsame, hengine⟩ | ⟨p, hwaits, hends, hengine⟩
      · rw [← List.append_assoc] at h
        obtain ⟨more', hleads, hsub⟩ := ih (s := (f stage s).2) h
        rw [hengine] at hleads
        refine ⟨more', hleads, ?_⟩
        simp only [sweep]
        rw [stagePendings_cons, hsame, ← List.append_assoc]
        exact hsub
      · rw [hwaits] at h
        obtain ⟨more₁, hend, hsub₁⟩ := Traffic.leads_of_waiting base h hengine
        obtain ⟨more', hleads, hsub⟩ := ih (s := (f stage s).2) hsub₁
        refine ⟨more', hend.trans hleads, ?_⟩
        simp only [sweep]
        rw [stagePendings_cons, hends]
        exact hsub

/-- Several checks at once, after their starts. -/
theorem together_leads {work : List Operation -> Session -> Session}
    (hwork : ∀ ops s, Grows s (work ops s)) {silence : Stage -> Session -> Stage × Session}
    (hsilence : Closes silence) {stages : List Stage} {s : Session} (base : List Check)
    {more : List Check} (h : Traffic.pendings more = stagePendings stages) :
    ∃ more', Traffic.Leads { engine := s.engine, checks := base ++ more }
      { engine := (together work silence stages s).2.engine, checks := base ++ more' } := by
  obtain ⟨others, hasked⟩ := grows_sweep_asked hwork stages s (base ++ more)
  have hwaits : ([] ++ stagePendings (sweep (asked work) stages s).1).Sublist
      (Traffic.pendings (more ++ others)) := by
    rw [stagePendings_sweep_asked, Traffic.pendings_append, h]
    exact List.sublist_append_left _ _
  rw [List.append_assoc] at hasked
  obtain ⟨more₁, hanswered, hwaits₁⟩ := sweep_leads closes_answered _ base hwaits
  obtain ⟨more', hsilent, -⟩ := sweep_leads hsilence _ base hwaits₁
  exact ⟨more', (hasked.trans hanswered).trans hsilent⟩

/-- A check alone, after its start. -/
theorem grows_alone {work : List Operation -> Session -> Session}
    (hwork : ∀ ops s, Grows s (work ops s)) {silence : Stage -> Session -> Stage × Session}
    (hsilence : Closes silence) {stage : Stage} {s s' : Session}
    (hstart : ∀ checks, ∃ more, Traffic.Leads { engine := s.engine, checks }
        { engine := s'.engine, checks := checks ++ more } ∧
      Traffic.pendings more = stage.pending?.toList) :
    Grows s (alone work silence stage s').2 := by
  intro checks
  obtain ⟨more, hleads, hwaits⟩ := hstart checks
  have hsingle : Traffic.pendings more = stagePendings [stage] := by
    rw [hwaits, stagePendings_cons]
    exact (List.append_nil _).symm
  obtain ⟨more', htogether⟩ := together_leads hwork hsilence (s := s') checks hsingle
  exact ⟨more', hleads.trans htogether⟩

/-! ## Operations -/

theorem start_leads (r : Request) (s : Session) (checks : List Check) :
    ∃ more, Traffic.Leads { engine := s.engine, checks }
        { engine := (s.engine.start r).2, checks := checks ++ more } ∧
      Traffic.pendings more = (stageOf (.ok (s.engine.start r).1)).pending?.toList := by
  have hstep := Traffic.leads_step (.start r) { engine := s.engine, checks }
  revert hstep
  simp only [Traffic.step]
  rcases s.engine.start r with ⟨result | p, e⟩
  · intro hstep
    exact ⟨[.ended result], hstep, rfl⟩
  · intro hstep
    exact ⟨[.waiting p], hstep, rfl⟩

theorem grows_working {depth : Nat} (hrun : ∀ op s, Grows s (run depth op s).2)
    (ops : List Operation) (s : Session) : Grows s (working depth ops s) := by
  induction ops generalizing s with
  | nil => exact Grows.refl s
  | cons op rest ih =>
      have hfirst : Grows s { (run depth op s).2 with
          nested := (run depth op s).2.nested ++ [(run depth op s).1] } := hrun op s
      exact hfirst.trans (ih _)

/-- Every operation of a session is a run of single events on its engine. -/
theorem grows_run (depth : Nat) (op : Operation) (s : Session) : Grows s (run depth op s).2 := by
  induction depth generalizing op s with
  | zero => exact Grows.refl s
  | succ depth ih =>
      have hwork := grows_working ih
      cases op with
      | check permission context =>
          exact grows_alone hwork closes_expired (startCheck_leads permission context s)
      | require permission context =>
          exact grows_alone hwork closes_expired (startCheck_leads permission context s)
      | checkCancel permission context =>
          exact grows_alone hwork closes_abandoned (startCheck_leads permission context s)
      | evaluate r interrupted =>
          rw [run_evaluate]
          cases interrupted with
          | false => exact grows_alone hwork closes_expired (start_leads r s)
          | true => exact grows_alone hwork closes_abandoned (start_leads r s)
      | gather asks =>
          intro checks
          obtain ⟨more, hleads, hwaits⟩ := startAll_leads asks s checks
          obtain ⟨more', htogether⟩ := together_leads hwork closes_expired
            (s := (startAll asks s).2) checks hwaits
          exact ⟨more', hleads.trans htogether⟩
      | manage m =>
          intro checks
          refine ⟨[], ?_⟩
          rw [List.append_nil]
          exact Traffic.leads_step (.manage m) { engine := s.engine, checks }
      | misgiven f => exact Grows.refl s

end Session

end Clearance.Engine
