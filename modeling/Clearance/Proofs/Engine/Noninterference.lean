import Clearance.Proofs.Engine.Conservation
import Clearance.Proofs.Engine.Linearization
import Clearance.Proofs.Policy.Reads

/-!
# Checks depend on what the policy reads

Two requests for one permission that differ in nothing that the policy reads come to the same, and
so does everything after them.  Where the policy does not read the clock and no grant is temporary,
the time makes no difference either.
-/

namespace Clearance

/-- Two requests for one permission that a policy cannot tell apart. -/
structure Request.Indistinct (p : Policy) (r r' : Request) : Prop where
  permission : r'.permission = r.permission
  context : ∀ key, p.Reads key -> r'.context.value key = r.context.value key

namespace Engine

variable {Work : Type}

/-- What was found by a check that has come to its end. -/
def Check.found? : Check -> Option (Except ClockFault Finding)
  | .waiting _ => none
  | .ended r | .cancelled r => some (r.map Decision.finding)

/-! ## Lookups -/

theorem Finding.ofPolicy_congr {p : Policy} {r r' : Request} {now now' : Timestamp}
    (h : r.Indistinct p r') (htime : p.ReadsClock -> now' = now) :
    Finding.ofPolicy p r' now' = Finding.ofPolicy p r now := by
  have hagree : Circumstances.Agree p.Reads p.ReadsClock { context := r.context, now }
      { context := r'.context, now := now' } := ⟨h.context, htime⟩
  unfold Finding.ofPolicy
  rw [h.permission, Policy.findMatch_congr hagree]

/-- A lookup finds the same, or is due all the same with another context. -/
theorem lookup_of_indistinct {policy : Policy} {r r' : Request} (h : r.Indistinct policy r')
    (p : Permission) (now : Timestamp) (g : Grants) :
    lookup p policy r' now g = lookup p policy r now g ∨
      ∃ i i' g', lookup p policy r now g = (.ok (.due i), g') ∧
        lookup p policy r' now g = (.ok (.due i'), g') := by
  unfold lookup
  rw [h.permission]
  rcases g.consume r.permission now with ⟨_ | m, g₁⟩
  · dsimp only
    rw [Finding.ofPolicy_congr h fun _ => rfl]
    exact .inl rfl
  · dsimp only
    split
    · exact .inr ⟨_, _, g₁, rfl, rfl⟩
    · exact .inl rfl

theorem purge_of_lasting {g : Grants} (h : g.temporary = []) (now : Timestamp) :
    g.purge now = g := by
  refine Grants.ext rfl ?_ rfl
  simp only [Grants.purge, h]
  rfl

/-- Without temporary grants and conditions on the clock a lookup does not depend on the time. -/
theorem lookup_of_lasting {policy : Policy} {g : Grants} (hpolicy : ¬ policy.ReadsClock)
    (hgrants : g.temporary = []) (p : Permission) (r : Request) (now now' : Timestamp) :
    lookup p policy r now' g = lookup p policy r now g := by
  have hconsume : g.consume r.permission now' = g.consume r.permission now := by
    unfold Grants.consume
    rw [purge_of_lasting hgrants, purge_of_lasting hgrants]
  have hsame : Finding.ofPolicy policy r now' = Finding.ofPolicy policy r now :=
    Finding.ofPolicy_congr ⟨rfl, fun _ _ => rfl⟩ fun hclock => absurd hclock hpolicy
  unfold lookup
  rw [hconsume, hsame]

/-! ## Relations that events keep -/

namespace Traffic

/-- Two ends of checks that find the same. -/
def SameFound (E : Engine Work -> Engine Work -> Prop)
    (x x' : Except ClockFault Decision × Engine Work) : Prop :=
  x'.1.map Decision.finding = x.1.map Decision.finding ∧ E x.2 x'.2

/--
A relation between engines that some events keep; related engines find the same where an event
starts a check, and at the ends of checks, whichever requests these are of.
-/
structure Steady (Allowed : Event Work -> Prop) (E : Engine Work -> Engine Work -> Prop) :
    Prop where
  begins : ∀ {e e' : Engine Work}, E e e' -> ∀ {ev : Event Work}, Allowed ev ->
    begins? ev e = none ∧ begins? ev e' = none ∨
      ∃ x x', begins? ev e = some x ∧ begins? ev e' = some x' ∧
        (checkOf x'.1).found? = (checkOf x.1).found? ∧ E x.2 x'.2
  stamp : ∀ {e e' : Engine Work}, E e e' -> ∀ (r r' : Request) (f : Finding),
    SameFound E (e.stamp r f) (e'.stamp r' f)
  manage : ∀ {e e' : Engine Work}, E e e' -> ∀ {m : Management Work}, Allowed (.manage m) ->
    E (e.manage m).2 (e'.manage m).2
  clear : ∀ {e e' : Engine Work}, E e e' ->
    E { e with grants := .empty } { e' with grants := .empty }

/-- Related engines on which the checks have found the same so far. -/
structure Level (E : Engine Work -> Engine Work -> Prop) (t t' : Traffic Work) : Prop where
  engine : E t.engine t'.engine
  checks : t'.checks.map Check.found? = t.checks.map Check.found?

theorem isSome_waiting?_iff {place : Nat} {t : Traffic Work} :
    (t.waiting? place).isSome ↔ (t.checks.map Check.found?)[place]? = some none := by
  rw [waiting?, List.getElem?_map]
  rcases t.checks[place]? with _ | (p | x | x)
  · simp
  · simp [Check.pending?, Check.found?]
  · simp [Check.pending?, Check.found?]
  · simp [Check.pending?, Check.found?]

section

variable {Allowed : Event Work -> Prop} {E : Engine Work -> Engine Work -> Prop}

theorem Steady.conclude (h : Steady Allowed E) {e e' : Engine Work} (he : E e e')
    (r r' : Request) (f : Finding) : SameFound E (e.conclude r f) (e'.conclude r' f) := by
  obtain ⟨hfound, hengine⟩ := h.stamp he r r' f
  revert hfound hengine
  simp only [Engine.conclude]
  rcases e.stamp r f with ⟨fault | d, e₁⟩ <;> rcases e'.stamp r' f with ⟨fault' | d', e₁'⟩ <;>
    intro hfound hengine
  · cases hfound
    exact h.stamp hengine r r' (Finding.failed fault.message)
  · cases hfound
  · cases hfound
  · exact ⟨hfound, hengine⟩

/-- Checks that wait on both sides are brought to ends that find the same. -/
theorem Level.set {t t' : Traffic Work} (h : Level E t t')
    {x x' : Except ClockFault Decision × Engine Work} (hsame : SameFound E x x')
    {make : Except ClockFault Decision -> Check}
    (hmake : ∀ x, (make x).found? = some (x.map Decision.finding)) (place : Nat) :
    Level E { engine := x.2, checks := t.checks.set place (make x.1) }
      { engine := x'.2, checks := t'.checks.set place (make x'.1) } := by
  refine ⟨hsame.2, ?_⟩
  simp only [List.map_set, hmake, h.checks, hsame.1]

/-- A check waits on both sides or on neither. -/
theorem Level.waiting?_cases {t t' : Traffic Work} (h : Level E t t') (place : Nat) :
    t.waiting? place = none ∧ t'.waiting? place = none ∨
      ∃ p p', t.waiting? place = some p ∧ t'.waiting? place = some p' := by
  have hboth : (t.waiting? place).isSome ↔ (t'.waiting? place).isSome := by
    rw [isSome_waiting?_iff, isSome_waiting?_iff, h.checks]
  cases hleft : t.waiting? place <;> cases hright : t'.waiting? place <;>
    simp [hleft, hright] at hboth ⊢

theorem Steady.step (h : Steady Allowed E) {t t' : Traffic Work} (ht : Level E t t')
    {ev : Event Work} (hev : Allowed ev) : Level E (t.step ev).2 (t'.step ev).2 := by
  rcases h.begins ht.engine hev with ⟨hnone, hnone'⟩ | ⟨x, x', hx, hx', hfound, hengine⟩
  · cases ev with
    | start r => cases hnone
    | submit permission context =>
        rw [step_submit_of_begins?_eq_none hnone, step_submit_of_begins?_eq_none hnone']
        exact ht
    | finish place o =>
        rcases ht.waiting?_cases place with ⟨hleft, hright⟩ | ⟨p, p', hleft, hright⟩ <;>
          simp only [Traffic.step, hleft, hright]
        · exact ht
        · exact ht.set (h.conclude ht.engine p.request p'.request (.ofOutcome o))
            (fun _ => rfl) place
    | cancel place =>
        rcases ht.waiting?_cases place with ⟨hleft, hright⟩ | ⟨p, p', hleft, hright⟩ <;>
          simp only [Traffic.step, hleft, hright]
        · exact ht
        · exact ht.set (h.stamp ht.engine p.request p'.request .cancelled) (fun _ => rfl) place
    | manage m => exact ⟨h.manage ht.engine hev, ht.checks⟩
    | clearGrants => exact ⟨h.clear ht.engine, ht.checks⟩
  · rw [step_of_begins? hx, step_of_begins? hx']
    refine ⟨hengine, ?_⟩
    simp only [List.map_append, List.map_cons, List.map_nil, ht.checks, hfound]

theorem Steady.run (h : Steady Allowed E) {events : List (Event Work)} {t t' : Traffic Work}
    (ht : Level E t t') (hevents : ∀ ev ∈ events, Allowed ev) :
    Level E (t.run events) (t'.run events) := by
  induction events generalizing t t' with
  | nil => exact ht
  | cons ev rest ih =>
      obtain ⟨hev, hrest⟩ := List.forall_mem_cons.1 hevents
      exact ih (h.step ht hev) hrest

end

end Traffic

/-! ## Other contexts -/

/-- What a finding is stamped with depends on nothing but the clock, and not on the request. -/
theorem Twin.stamp_any {e e' : Engine Work} (h : Twin e e') (r r' : Request) (f : Finding) :
    Traffic.SameFound Twin (e.stamp r f) (e'.stamp r' f) := by
  obtain ⟨log, sink, rfl⟩ := h
  simp only [Traffic.SameFound, Engine.stamp, now]
  rcases e.clock.read with ⟨fault | t, clock⟩
  · exact ⟨rfl, log, sink, rfl⟩
  · exact ⟨rfl, _, _, rfl⟩

theorem steady_twin : Traffic.Steady (fun _ : Event Work => True) Twin where
  begins := by
    intro e e' h ev _
    rcases Traffic.begins?_of_twin h ev with hnone | ⟨x, x', hx, hx', hresult, htwin⟩
    · exact .inl hnone
    · exact .inr ⟨x, x', hx, hx', by rw [hresult], htwin⟩
  stamp := fun h r r' f => h.stamp_any r r' f
  manage := fun h m _ => h.manage m
  clear := by
    rintro e e' ⟨log, sink, rfl⟩
    exact ⟨log, sink, rfl⟩

/-- Requests that the policy cannot tell apart start alike. -/
theorem start_of_indistinct {e : Engine Work} {r r' : Request} (h : r.Indistinct e.policy r') :
    (Traffic.checkOf (e.start r').1).found? = (Traffic.checkOf (e.start r).1).found? ∧
      Twin (e.start r).2 (e.start r').2 := by
  have hended {x x' : Except ClockFault Decision × Engine Work}
      (hsame : Traffic.SameFound Twin x x') :
      (Traffic.checkOf (ended x').1).found? = (Traffic.checkOf (ended x).1).found? ∧
        Twin (ended x).2 (ended x').2 :=
    ⟨congrArg some hsame.1, hsame.2⟩
  have hconclude (f : Finding) (e' : Engine Work) :=
    hended (steady_twin.conclude (Twin.refl e') r r' f)
  have hfail (message : String) (e' : Engine Work) :=
    hended ((Twin.refl e').stamp_any r r' (Finding.failed message))
  simp only [start, now, h.permission]
  cases e.catalog.get? r.permission with
  | none => exact hconclude _ e
  | some p =>
      rcases e.clock.read with ⟨fault | t, clock⟩
      · exact hfail _ { e with clock }
      · dsimp only
        rcases lookup_of_indistinct h p t e.grants with hsame | ⟨i, i', grants, hdue, hdue'⟩
        · rw [hsame]
          rcases lookup p e.policy r t e.grants with ⟨fault | (f | i), grants⟩
          · exact hfail _ { e with grants, clock }
          · exact hconclude f { e with grants, clock }
          · dsimp only
            cases e.handler? with
            | some handler => exact ⟨rfl, Twin.refl _⟩
            | none => exact hconclude _ { e with handler? := none, grants, clock }
        · rw [hdue, hdue']
          dsimp only
          cases e.handler? with
          | some handler => exact ⟨rfl, Twin.refl _⟩
          | none => exact hconclude _ { e with handler? := none, grants, clock }

/-! ## Other times -/

/--
Engines that decide alike, on clocks of which both can be read, where the time makes no difference.
-/
structure Timeless (e e' : Engine Work) : Prop where
  alike : Alike e e'
  readable : e.clock.Readable
  readable' : e'.clock.Readable
  policy : ¬ e.policy.ReadsClock
  lasting : e.grants.temporary = []

theorem Timeless.stamp {e e' : Engine Work} (h : Timeless e e') (r r' : Request) (f : Finding) :
    Traffic.SameFound Timeless (e.stamp r f) (e'.stamp r' f) := by
  rw [stamp_of_readable h.readable, stamp_of_readable h.readable']
  have halike : Alike (e.settled (e.stamped r f)) (e'.settled (e'.stamped r' f)) :=
    ⟨h.alike.settings, h.alike.catalog, h.alike.policy, h.alike.grants, h.alike.handler⟩
  exact ⟨rfl, halike, h.readable.next, h.readable'.next, h.policy, h.lasting⟩

theorem Timeless.weigh {e e' : Engine Work} (h : Timeless e e') (r : Request)
    (now now' : Timestamp) : e'.weigh r now' = e.weigh r now := by
  rw [h.alike.weigh]
  unfold Engine.weigh
  cases e.catalog.get? r.permission with
  | none => rfl
  | some p =>
      dsimp only
      rw [lookup_of_lasting h.policy h.lasting p r now now']

/-- A lookup makes no grant temporary. -/
theorem temporary_weigh {e : Engine Work} (h : e.grants.temporary = []) (r : Request)
    (now : Timestamp) : (e.weigh r now).2.temporary = [] := by
  rw [weigh_grants]
  split
  · rw [Grants.temporary_consume, purge_of_lasting h, h]
  · exact h

theorem Timeless.weighed {e e' : Engine Work} (h : Timeless e e') (r : Request) :
    Timeless (e.weighed r) (e'.weighed r) where
  alike := ⟨h.alike.settings, h.alike.catalog, h.alike.policy,
    congrArg Prod.snd (h.weigh r e.clock.time e'.clock.time), h.alike.handler⟩
  readable := readable_stampClock h.readable r
  readable' := readable_stampClock h.readable' r
  policy := h.policy
  lasting := temporary_weigh h.lasting r e.clock.time

theorem Timeless.start {e e' : Engine Work} (h : Timeless e e') (r : Request) :
    (Traffic.checkOf (e'.start r).1).found? = (Traffic.checkOf (e.start r).1).found? ∧
      Timeless (e.start r).2 (e'.start r).2 := by
  have hweigh := h.weigh r e.clock.time e'.clock.time
  cases hfound : (e.weigh r e.clock.time).1 with
  | found f =>
      have hstamp := (h.weighed r).stamp r r f
      rw [stamp_of_readable (h.weighed r).readable, stamp_of_readable (h.weighed r).readable']
        at hstamp
      rw [start_of_found h.readable hfound, start_of_found h.readable' (hweigh ▸ hfound)]
      exact ⟨rfl, hstamp.2⟩
  | due i =>
      rw [start_of_due h.readable hfound, start_of_due h.readable' (hweigh ▸ hfound)]
      exact ⟨rfl, h.weighed r⟩

theorem steady_timeless :
    Traffic.Steady (fun ev : Event Work => ∀ m, ev ≠ .manage m) Timeless where
  begins := by
    intro e e' h ev hev
    cases ev with
    | start r => exact .inr ⟨_, _, rfl, rfl, h.start r⟩
    | submit permission context =>
        simp only [Traffic.begins?, startRaw]
        cases requestOf permission context with
        | ok r => exact .inr ⟨_, _, rfl, rfl, h.start r⟩
        | error rejection =>
            cases echo permission context with
            | error f => exact .inl ⟨rfl, rfl⟩
            | ok r =>
                obtain ⟨hfound, hengine⟩ := h.stamp r r (.rejected rejection.message)
                exact .inr ⟨_, _, rfl, rfl, congrArg some hfound, hengine⟩
    | finish place o => exact .inl ⟨rfl, rfl⟩
    | cancel place => exact .inl ⟨rfl, rfl⟩
    | manage m => exact absurd rfl (hev m)
    | clearGrants => exact .inl ⟨rfl, rfl⟩
  stamp := fun h r r' f => h.stamp r r' f
  manage := fun _ m hm => absurd rfl (hm m)
  clear := fun h =>
    ⟨⟨h.alike.settings, h.alike.catalog, h.alike.policy, rfl, h.alike.handler⟩, h.readable,
      h.readable', h.policy, rfl⟩

/-! ## Noninterference -/

namespace Traffic

theorem level_refl {E : Engine Work -> Engine Work -> Prop} {e e' : Engine Work} (h : E e e') :
    Level E { engine := e } { engine := e' } :=
  ⟨h, rfl⟩

/-- Refunds are allowed in one region, and at no path but those below another one. -/
def regionPolicy : Policy :=
  { rules :=
      [{ pattern := "payments.*"
         allow := true
         conditions :=
           [{ kind := "region", operator := .equals, operand := .one "eu", contextKey := some "" },
            { kind := "path", operator := .startsWith, operand := .anyOf ["/eu", ""] }] }] }

/-- An engine that leaves refunds to the policy. -/
def regionEngine : Engine Unit :=
  { refundEngine .silent with policy := regionPolicy, grants := .empty }

def noted (note : Int) : Request :=
  { refund with context := [("note", .int note), ("region", .str "eu")] }

/-- An hour after the time at which the other clock stands still. -/
def laterClock : Clock :=
  { stillClock with now := { stillClock.now with wall := stillClock.now.wall + 3600000000 } }

end Traffic

end Engine

end Clearance
