import Clearance.Proofs.Engine.Completion
import Clearance.Proofs.Engine.PlainRequests
import Clearance.Proofs.Grants.Lookup
import Clearance.Proofs.Trail.Mirror

/-!
# The trail of an engine

An engine that records into a trail keeps the trail a mirror of its log, as long as all moments have
offsets of whole minutes, all contexts are plain data, and the log is not cut.
-/

namespace Clearance

/-! ## Moments -/

namespace Timestamp

variable {t u : Timestamp}

theorem Portable.shift (h : t.Portable) {micros : Int} (hshift : t.shift micros = .ok u) :
    u.Portable := by
  unfold Timestamp.shift at hshift
  simp only [Bool.and_eq_true, decide_eq_true_eq] at hshift
  split at hshift
  · rename_i hrange
    cases hshift
    exact ⟨by dsimp only; omega, h.offset⟩
  · cases hshift

theorem Portable.localize (h : t.Portable) {zone : Int} (hzone : Time.WholeMinutes zone)
    (hlocal : t.localize zone = .ok u) : u.Portable := by
  cases hoffset : t.offset with
  | some offset =>
      rw [localize_of_offset hoffset] at hlocal
      cases hlocal
      exact h
  | none =>
      have hshown : u = { t with offset := some zone } := by
        simp only [Timestamp.localize, hoffset] at hlocal
        split at hlocal
        · cases hlocal
        · split at hlocal
          · cases hlocal
          · split at hlocal
            · cases hlocal
            · cases hlocal
              rfl
      subst hshown
      refine ⟨h.wall_lt, ?_⟩
      rintro offset ⟨⟩
      exact hzone

end Timestamp

namespace Engine

/-- Whatever a clock shows, and whatever its zone, has an offset of whole minutes. -/
structure Clock.Portable (c : Clock) : Prop where
  zone : Time.WholeMinutes c.zone
  face : ∀ t ∈ c.now :: c.ahead, t.Portable

variable {c : Clock}

theorem Clock.Portable.next (h : c.Portable) : c.next.Portable where
  zone := h.zone
  face := by
    intro t ht
    refine h.face t ?_
    rcases List.mem_cons.1 ht with rfl | hahead
    · exact List.mem_cons_self ..
    · exact List.mem_cons_of_mem _ (List.mem_of_mem_tail hahead)

theorem Clock.Portable.read (h : c.Portable) :
    c.read.2.Portable ∧ ∀ t, c.read.1 = .ok t -> t.Portable := by
  unfold Clock.read
  split
  · exact ⟨⟨h.zone, h.face⟩, fun t ht => nomatch ht⟩
  · refine ⟨h.next, fun t ht => ?_⟩
    have hface : c.face.Portable := by
      refine h.face _ ?_
      unfold Clock.face
      cases c.ahead <;> simp
    cases hlocal : c.face.localize c.zone with
    | error fault =>
        rw [hlocal] at ht
        cases ht
    | ok u =>
        rw [hlocal] at ht
        cases ht
        exact hface.localize h.zone hlocal

theorem Clock.Portable.set (h : c.Portable) {t : Timestamp} (ht : t.Portable) :
    ({ c with now := t } : Clock).Portable := by
  refine ⟨h.zone, fun u hu => ?_⟩
  rcases List.mem_cons.1 hu with rfl | hahead
  · exact ht
  · exact h.face u (List.mem_cons_of_mem _ hahead)

theorem Clock.Portable.advance (h : c.Portable) {micros : Int} {c' : Clock}
    (hadvance : c.advance micros = .ok c') : c'.Portable := by
  unfold Clock.advance at hadvance
  cases hshift : c.now.shift micros with
  | error fault =>
      rw [hshift] at hadvance
      cases hadvance
  | ok t =>
      rw [hshift] at hadvance
      cases hadvance
      exact h.set ((h.face c.now (List.mem_cons_self ..)).shift hshift)

/-- A finding whose moments and rule can be told. -/
structure Finding.Portable (f : Finding) : Prop where
  expiresAt : ∀ t, f.expiresAt = some t -> t.Portable
  rule : ∀ r, f.rule = some r -> r.Valid

/-- A finding that names neither an expiry nor a rule. -/
theorem Finding.portable_of_none {f : Finding} (hexpires : f.expiresAt = none)
    (hrule : f.rule = none) : f.Portable where
  expiresAt := by
    intro t ht
    rw [hexpires] at ht
    cases ht
  rule := by
    intro r hr
    rw [hrule] at hr
    cases hr

theorem Finding.portable_denial (source : Source) (reason : String) :
    (Finding.denial source reason).Portable :=
  portable_of_none rfl rfl

theorem Finding.portable_ofOutcome (o : Confirmation.Outcome) : (Finding.ofOutcome o).Portable := by
  cases o <;> exact portable_of_none rfl rfl

theorem Finding.Portable.valid_entry {f : Finding} (h : f.Portable) {r : Request}
    (hr : r.context.toValue.Plain) {t : Timestamp} (ht : t.Portable) :
    (f.decision r t).entry.Valid :=
  ⟨ht, hr, hr, ht, h.expiresAt, h.rule⟩

/-- All temporary grants run out at moments that can be told. -/
def PortableGrants (g : Grants) : Prop :=
  ∀ entry ∈ g.temporary, entry.2.Portable

/-! ## Lookups -/

theorem rule_mem_of_firstMatch {circumstances : Circumstances} {name : String} {rules : List Rule}
    {index : Nat} {m : RuleMatch}
    (h : Policy.firstMatch circumstances name index rules = .ok (some m)) : m.rule ∈ rules := by
  induction rules generalizing index with
  | nil => cases h
  | cons rule rest ih =>
      unfold Policy.firstMatch at h
      split at h
      · cases h
      · cases h
        exact List.mem_cons_self ..
      · exact List.mem_cons_of_mem _ (ih h)

theorem portable_ofPolicy {p : Policy} (h : p.Valid) {r : Request} {now : Timestamp} {f : Finding}
    (hfound : Finding.ofPolicy p r now = .ok f) : f.Portable := by
  unfold Finding.ofPolicy at hfound
  cases hmatch : p.findMatch r.permission { context := r.context, now } with
  | error fault =>
      rw [hmatch] at hfound
      cases hfound
  | ok m? =>
      rw [hmatch] at hfound
      cases m? with
      | none =>
          cases hfound
          exact Finding.portable_of_none rfl rfl
      | some m =>
          cases hfound
          refine ⟨fun t ht => (nomatch ht), ?_⟩
          rintro rule ⟨⟩
          exact h _ (rule_mem_of_firstMatch hmatch)

theorem PortableGrants.consume {g : Grants} (h : PortableGrants g) (name : String)
    (now : Timestamp) :
    PortableGrants (g.consume name now).2 ∧
      ∀ m, (g.consume name now).1 = some m -> ∀ t, m.expiresAt? = some t -> t.Portable := by
  have hleft : PortableGrants (g.consume name now).2 := by
    intro entry hentry
    rw [Grants.temporary_consume] at hentry
    exact h entry (List.mem_filter.1 hentry).1
  refine ⟨hleft, fun m hm t ht => ?_⟩
  rcases Grants.consume_cases name now g with ⟨expiry, hexpiry, hconsume⟩ | ⟨n, -, -, hconsume⟩ |
    ⟨-, -, hconsume⟩
  · rw [hconsume] at hm
    cases hm
    cases ht
    exact h _ (Grants.expiry?_eq_some_iff.1 hexpiry).1
  · rw [hconsume] at hm
    cases hm
    cases ht
  · rw [hconsume] at hm
    obtain ⟨granted, -, rfl⟩ := Option.map_eq_some_iff.1 hm
    cases ht

/-- What a lookup finds can be told, and it leaves grants that can be told. -/
theorem portable_lookup {p : Permission} {policy : Policy} (hpolicy : policy.Valid) (r : Request)
    (now : Timestamp) {g : Grants} (h : PortableGrants g) :
    PortableGrants (lookup p policy r now g).2 ∧
      ∀ f, (lookup p policy r now g).1 = .ok (.found f) -> f.Portable := by
  obtain ⟨hleft, hmatch⟩ := h.consume r.permission now
  unfold lookup
  rcases hconsume : g.consume r.permission now with ⟨m?, g'⟩
  rw [hconsume] at hleft hmatch
  cases m? with
  | none =>
      refine ⟨hleft, fun f hf => ?_⟩
      cases hpolicyFound : Finding.ofPolicy policy r now with
      | error fault =>
          simp only [hpolicyFound] at hf
          cases hf
      | ok f' =>
          simp only [hpolicyFound] at hf
          cases hf
          exact portable_ofPolicy hpolicy hpolicyFound
  | some m =>
      dsimp only
      split
      · exact ⟨hleft, fun f hf => nomatch hf⟩
      · refine ⟨hleft, ?_⟩
        rintro f ⟨⟩
        exact ⟨hmatch m rfl, fun rule hrule => nomatch hrule⟩

/-! ## Engines -/

variable {Work : Type}

/-- An engine whose trail mirrors its log and will go on doing so. -/
structure Mirrored (e : Engine Work) : Prop where
  clock : e.clock.Portable
  policy : e.policy.Valid
  grants : PortableGrants e.grants
  trail : ∃ d, e.sink = .trail d ∧ d.Mirrors e.log.entries

variable {e : Engine Work} {r : Request}

theorem Mirrored.record (h : e.Mirrored) {d : Decision} (hd : d.entry.Valid) :
    (e.record d).Mirrored := by
  obtain ⟨db, hsink, hmirrors⟩ := h.trail
  obtain ⟨id, db', hrecord, hmirrors'⟩ := hmirrors.record hd
  refine ⟨h.clock, h.policy, h.grants, db', ?_, hmirrors'⟩
  simp only [Engine.record, hsink, Trail.Sink.record, hrecord]

theorem Mirrored.now (h : e.Mirrored) :
    e.now.2.Mirrored ∧ ∀ t, e.now.1 = .ok t -> t.Portable := by
  obtain ⟨hclock, hreading⟩ := h.clock.read
  exact ⟨⟨hclock, h.policy, h.grants, h.trail⟩, hreading⟩

theorem Mirrored.stamp (h : e.Mirrored) (hr : r.context.toValue.Plain) {f : Finding}
    (hf : f.Portable) : (e.stamp r f).2.Mirrored := by
  obtain ⟨hnext, hreading⟩ := h.now
  unfold Engine.stamp
  rcases hnow : e.now with ⟨fault | t, e'⟩
  · rw [hnow] at hnext
    exact hnext
  · rw [hnow] at hnext hreading
    exact hnext.record (hf.valid_entry hr (hreading t rfl))

theorem Mirrored.fail (h : e.Mirrored) (hr : r.context.toValue.Plain) (message : String) :
    (e.fail r message).2.Mirrored :=
  h.stamp hr (Finding.portable_denial _ _)

theorem Mirrored.conclude (h : e.Mirrored) (hr : r.context.toValue.Plain) {f : Finding}
    (hf : f.Portable) : (e.conclude r f).2.Mirrored := by
  have hstamp := h.stamp hr hf
  unfold Engine.conclude
  rcases hstamped : e.stamp r f with ⟨fault | d, e'⟩
  · rw [hstamped] at hstamp
    exact hstamp.fail hr _
  · rw [hstamped] at hstamp
    exact hstamp

/-- A check that is started keeps the trail a mirror; if it waits, it does so with its request. -/
theorem Mirrored.start (h : e.Mirrored) (hr : r.context.toValue.Plain) :
    (e.start r).2.Mirrored ∧ ∀ p, (e.start r).1 = .waiting p -> p.request = r := by
  unfold Engine.start
  cases hget : e.catalog.get? r.permission with
  | none => exact ⟨h.conclude hr (Finding.portable_denial _ _), fun p hp => nomatch hp⟩
  | some permission =>
      obtain ⟨hnext, -⟩ := h.now
      rcases hnow : e.now with ⟨fault | t, e'⟩
      · rw [hnow] at hnext
        exact ⟨hnext.fail hr _, fun p hp => nomatch hp⟩
      · rw [hnow] at hnext
        obtain ⟨hleft, hfound⟩ := @portable_lookup permission _ hnext.policy r t _ hnext.grants
        dsimp only
        rcases hlookup : lookup permission e'.policy r t e'.grants with ⟨found, g⟩
        rw [hlookup] at hleft hfound
        have hweighed : ({ e' with grants := g } : Engine Work).Mirrored :=
          ⟨hnext.clock, hnext.policy, hleft, hnext.trail⟩
        rcases found with fault | (f | i)
        · exact ⟨hweighed.fail hr _, fun p hp => nomatch hp⟩
        · exact ⟨hweighed.conclude hr (hfound f rfl), fun p hp => nomatch hp⟩
        · dsimp only
          split
          · refine ⟨hweighed, ?_⟩
            rintro p ⟨⟩
            rfl
          · exact ⟨hweighed.conclude hr (Finding.portable_ofOutcome _), fun p hp => nomatch hp⟩

/-! ## Management -/

theorem valid_of_policyOf {v : Value} {p : Policy} (h : policyOf v = .ok p) : p.Valid := by
  unfold policyOf at h
  cases hmapping : mappingOf v with
  | error fault =>
      rw [hmapping] at h
      cases h
  | ok mapping =>
      rw [hmapping] at h
      cases hpolicy : Schema.policy mapping with
      | error issues =>
          simp only [Except.mapError, bind, Except.bind, Schema.titled, hpolicy] at h
          cases h
      | ok q =>
          simp only [Except.mapError, bind, Except.bind, Schema.titled, hpolicy] at h
          cases h
          exact Schema.valid_of_policy hpolicy

theorem valid_of_ofValue {v : Value} {source : String} {c : Config}
    (h : Config.ofValue v source = .ok c) {p : Policy} (hp : c.policy = some p) : p.Valid := by
  unfold Config.ofValue at h
  dsimp only at h
  split at h
  · cases h
    cases hp
  · split at h
    · rename_i hconfig
      cases h
      exact Schema.valid_of_config hconfig hp
    · cases h
  · cases h

theorem valid_of_ofText {text source : String} {c : Config}
    (h : Config.ofText text source = .ok c) {p : Policy} (hp : c.policy = some p) : p.Valid := by
  unfold Config.ofText at h
  split at h
  · rename_i v _
    cases hvalue : Config.ofValue v source with
    | error fault =>
        rw [hvalue] at h
        cases h
    | ok c' =>
        rw [hvalue] at h
        cases h
        exact valid_of_ofValue hvalue hp
  · split at h <;> cases h
  · cases h

theorem Mirrored.takeOver (h : e.Mirrored) {c : Config}
    (hc : ∀ p, c.policy = some p -> p.Valid) : (e.takeOver c).Mirrored := by
  refine ⟨h.clock, ?_, h.grants, h.trail⟩
  unfold Engine.takeOver
  cases hpolicy : c.policy with
  | none => exact h.policy
  | some p => exact hc p hpolicy

theorem PortableGrants.grantUntil {g : Grants} (h : PortableGrants g) (name : String)
    {t : Timestamp} (ht : t.Portable) : PortableGrants (g.grantUntil name t) := by
  intro entry hentry
  rcases Table.eq_or_mem_of_mem_set hentry with rfl | hold
  · exact ht
  · exact h entry hold

theorem PortableGrants.of_temporary {g g' : Grants} (h : PortableGrants g)
    (hsame : g'.temporary = g.temporary) : PortableGrants g' := by
  intro entry hentry
  exact h entry (hsame ▸ hentry)

theorem temporary_grantAll (names : List String) (g : Grants) :
    (names.foldl (fun g name => g.grant name) g).temporary = g.temporary := by
  induction names generalizing g with
  | nil => rfl
  | cons name rest ih =>
      rw [List.foldl_cons, ih]
      rfl

/-- An operation that sets no moment but one of whole minutes. -/
def Management.Portable : Management Work -> Prop
  | .setClock t | .grantUntil _ (.instant t) => t.Portable
  | _ => True

theorem Mirrored.grantUntil (h : e.Mirrored) (name : String) {x : Expiry}
    (hx : ∀ t, x = .instant t -> t.Portable) : (e.grantUntil name x).2.Mirrored := by
  obtain ⟨hnext, hreading⟩ := h.now
  unfold Engine.grantUntil
  rcases hnow : e.now with ⟨fault | t, e'⟩
  · rw [hnow] at hnext
    exact hnext
  · rw [hnow] at hnext hreading
    dsimp only
    cases hresolve : x.resolve e'.clock.zone t with
    | error fault => exact hnext
    | ok expiry =>
        have hexpiry : expiry.Portable := by
          cases x with
          | instant t' => exact (hx t' rfl).localize hnext.clock.zone hresolve
          | after micros =>
              cases hshift : t.shift micros with
              | error fault =>
                  simp only [Expiry.resolve, hshift] at hresolve
                  cases hresolve
              | ok t' =>
                  simp only [Expiry.resolve, hshift] at hresolve
                  exact ((hreading t rfl).shift hshift).localize hnext.clock.zone hresolve
        exact ⟨hnext.clock, hnext.policy, hnext.grants.grantUntil name hexpiry, hnext.trail⟩

/-- Management that leaves the log uncut keeps the trail a mirror. -/
theorem Mirrored.manage (h : e.Mirrored) {m : Management Work} (hm : m.Portable)
    (hkeep : ¬ (Event.manage m).CutsLog) : (e.manage m).2.Mirrored := by
  cases m with
  | advance micros =>
      simp only [Engine.manage]
      cases hclock : e.clock.advance micros with
      | error fault => exact h
      | ok clock => exact ⟨h.clock.advance hclock, h.policy, h.grants, h.trail⟩
  | setClock t => exact ⟨h.clock.set hm, h.policy, h.grants, h.trail⟩
  | disturbClock message readings =>
      exact ⟨⟨h.clock.zone, h.clock.face⟩, h.policy, h.grants, h.trail⟩
  | grant name => exact ⟨h.clock, h.policy, h.grants.of_temporary rfl, h.trail⟩
  | revoke name =>
      refine ⟨h.clock, h.policy, ?_, h.trail⟩
      exact fun entry hentry => h.grants entry (List.mem_filter.1 hentry).1
  | grantUntil name x =>
      refine h.grantUntil name ?_
      rintro t rfl
      exact hm
  | grantUses name uses => exact ⟨h.clock, h.policy, h.grants.of_temporary rfl, h.trail⟩
  | grantScope scope =>
      simp only [Engine.manage]
      cases Scope.ofValue scope with
      | error fault => exact h
      | ok scope =>
          exact ⟨h.clock, h.policy, h.grants.of_temporary (temporary_grantAll _ _), h.trail⟩
  | setPolicy policy =>
      simp only [Engine.manage]
      cases hpolicy : policyOf policy with
      | error fault => exact h
      | ok p => exact ⟨h.clock, valid_of_policyOf hpolicy, h.grants, h.trail⟩
  | importData config =>
      simp only [Engine.manage]
      cases hconfig : Config.ofValue config with
      | error fault => exact h
      | ok c => exact h.takeOver fun p hp => valid_of_ofValue hconfig hp
  | importText text =>
      simp only [Engine.manage]
      cases hconfig : Config.ofText text with
      | error fault => exact h
      | ok c => exact h.takeOver fun p hp => valid_of_ofText hconfig hp
  | trimAudit keep => exact absurd trivial hkeep
  | clearAudit => exact absurd trivial hkeep
  | unregister name? => cases name? <;> exact ⟨h.clock, h.policy, h.grants, h.trail⟩
  | listByRisk risk =>
      simp only [Engine.manage]
      cases RiskLevel.ofValue risk <;> exact h
  | listByScope scope =>
      simp only [Engine.manage]
      cases Scope.ofValue scope <;> exact h
  | audit wanted =>
      simp only [Engine.manage]
      cases e.entries wanted <;> exact h
  | report wanted =>
      simp only [Engine.manage]
      cases e.entries wanted <;> exact h
  | _ => exact ⟨h.clock, h.policy, h.grants, h.trail⟩

/-! ## Runs -/

/-- An event with a context of plain data, or that sets no moment but one of whole minutes. -/
def Event.Portable : Event Work -> Prop
  | .start r => r.context.toValue.Plain
  | .submit _ context => context.Plain
  | .manage m => m.Portable
  | _ => True

namespace Traffic

/-- An engine whose trail mirrors its log, with checks that wait in plain contexts. -/
structure Mirrored (t : Traffic Work) : Prop where
  engine : t.engine.Mirrored
  pending : ∀ check ∈ t.checks, ∀ p, check.pending? = some p -> p.request.context.toValue.Plain

variable {t : Traffic Work}

theorem Mirrored.begin (h : t.Mirrored) {x : Progress × Engine Work} (hx : x.2.Mirrored)
    (hwaiting : ∀ p, x.1 = .waiting p -> p.request.context.toValue.Plain) :
    (t.begin x).2.Mirrored := by
  obtain ⟨progress, e⟩ := x
  cases progress with
  | ended r =>
      refine ⟨hx, fun check hcheck p hp => ?_⟩
      rcases List.mem_append.1 hcheck with hold | hnew
      · exact h.pending check hold p hp
      · obtain rfl := List.mem_singleton.1 hnew
        cases hp
  | waiting q =>
      refine ⟨hx, fun check hcheck p hp => ?_⟩
      rcases List.mem_append.1 hcheck with hold | hnew
      · exact h.pending check hold p hp
      · obtain rfl := List.mem_singleton.1 hnew
        cases hp
        exact hwaiting q rfl

theorem Mirrored.set (h : t.Mirrored) {e : Engine Work} (he : e.Mirrored) (place : Nat)
    {check : Check} (hcheck : check.pending? = none) :
    ({ engine := e, checks := t.checks.set place check } : Traffic Work).Mirrored := by
  refine ⟨he, fun other hother p hp => ?_⟩
  rcases List.mem_or_eq_of_mem_set hother with hold | rfl
  · exact h.pending other hold p hp
  · rw [hcheck] at hp
    cases hp

theorem Mirrored.waiting (h : t.Mirrored) {place : Nat} {p : Pending}
    (hp : t.waiting? place = some p) : p.request.context.toValue.Plain := by
  obtain ⟨check, hcheck, hpending⟩ := Option.bind_eq_some_iff.1 hp
  exact h.pending check (List.mem_of_getElem? hcheck) p hpending

/-- An event that leaves the log uncut keeps the trail a mirror. -/
theorem Mirrored.step (h : t.Mirrored) {ev : Event Work} (hev : ev.Portable)
    (hkeep : ¬ ev.CutsLog) : (t.step ev).2.Mirrored := by
  cases ev with
  | start r =>
      obtain ⟨hengine, hrequest⟩ := h.engine.start hev
      exact h.begin hengine fun p hp => (hrequest p hp).symm ▸ hev
  | submit permission context =>
      simp only [Traffic.step, startRaw]
      cases hrequest : requestOf permission context with
      | ok r =>
          have hplain := plain_requestOf hev hrequest
          obtain ⟨hengine, hwaiting⟩ := h.engine.start hplain
          exact h.begin hengine fun p hp => (hwaiting p hp).symm ▸ hplain
      | error rejection =>
          dsimp only
          cases hecho : echo permission context with
          | error fault => exact h
          | ok r =>
              have hstamp := h.engine.stamp (plain_echo hecho)
                (Finding.portable_denial .error ("Invalid permission check: " ++ rejection.message))
              exact h.begin hstamp fun p hp => by cases hp
  | finish place o =>
      simp only [Traffic.step]
      cases hwaiting : t.waiting? place with
      | none => exact h
      | some p =>
          have hengine := h.engine.conclude (h.waiting hwaiting) (Finding.portable_ofOutcome o)
          exact h.set hengine place rfl
  | cancel place =>
      simp only [Traffic.step]
      cases hwaiting : t.waiting? place with
      | none => exact h
      | some p =>
          have hengine := h.engine.stamp (h.waiting hwaiting)
            (Finding.portable_of_none rfl rfl : Finding.cancelled.Portable)
          exact h.set hengine place rfl
  | manage m => exact ⟨h.engine.manage hev hkeep, h.pending⟩
  | clearGrants =>
      obtain ⟨hclock, hpolicy, -, htrail⟩ := h.engine
      exact ⟨⟨hclock, hpolicy, fun entry hentry => absurd hentry List.not_mem_nil, htrail⟩,
        h.pending⟩

theorem Mirrored.run {events : List (Event Work)} (h : t.Mirrored)
    (hevents : ∀ ev ∈ events, ev.Portable ∧ ¬ ev.CutsLog) : (t.run events).Mirrored := by
  induction events generalizing t with
  | nil => exact h
  | cons ev rest ih =>
      obtain ⟨⟨hev, hkeep⟩, hrest⟩ := List.forall_mem_cons.1 hevents
      exact ih (h.step hev hkeep) hrest

theorem mirrored_make {settings : Settings} {policy : Policy} {permissions : List Permission}
    {handler? : Option (Confirmation.Handler Work)} {clock : Clock} {d : Trail.Database}
    (hpolicy : policy.Valid) (hclock : clock.Portable) (hd : d.table? = some []) :
    (Engine.make settings policy permissions handler? (.trail d) clock).Mirrored :=
  ⟨hclock, hpolicy, fun _ hentry => (nomatch hentry), d, rfl, [], hd, .nil⟩

/--
An engine that started with an empty trail has a trail that lists what its log selects, entry by
entry, whatever checks and operations made up the run and however often the file of the trail was
closed and opened again.  Contexts are plain data, all moments that are set have offsets of whole
minutes, and the log was not cut.
-/
theorem trail_lists_log {settings : Settings} {policy : Policy} {permissions : List Permission}
    {handler? : Option (Confirmation.Handler Work)} {clock : Clock} {d : Trail.Database}
    (hpolicy : policy.Valid) (hclock : clock.Portable) (hd : d.table? = some [])
    {events : List (Event Work)} (hevents : ∀ ev ∈ events, ev.Portable ∧ ¬ ev.CutsLog) :
    let e : Engine Work := Engine.make settings policy permissions handler? (.trail d) clock
    let t : Traffic Work := run events { engine := e }
    ∃ d', t.engine.sink = .trail d' ∧
      ∀ (files : Trail.Files) (name path : String) (n : Nat) (filter? : Option AuditFilter),
        files.canHold name = true -> Table.get? name files = some (.database d') ->
          ∃ files' es, files.reopened name path n = .ok files' ∧
            files'.list name { filter? } = .ok es ∧
            List.Forall₂ AuditEntry.Agrees (t.engine.log.select filter?) es := by
  intro e t
  have hstart : Traffic.Mirrored ({ engine := e } : Traffic Work) :=
    ⟨mirrored_make hpolicy hclock hd, fun check hcheck => nomatch hcheck⟩
  obtain ⟨d', hsink, hmirrors⟩ := (hstart.run hevents).engine.trail
  refine ⟨d', hsink, fun files name path n filter? hhold hcontent => ?_⟩
  have htable : d'.table?.isNone = false := by
    obtain ⟨rows, hrows, -⟩ := hmirrors
    rw [hrows]
    rfl
  have hkeeps : files.Keeps name d' := ⟨hhold, hcontent, htable⟩
  obtain ⟨files', hreopened, hkeeps'⟩ := hkeeps.reopened path n
  obtain ⟨es, hlist, hagrees⟩ := hkeeps'.list hmirrors filter?
  exact ⟨files', es, hreopened, hlist, hagrees⟩

/-- No file below the root may be read by what is only granted by default. -/
def rootPolicy : Policy where
  defaultAllow := true
  rules :=
    [ { pattern := "files.*", allow := false, reason := some "below the root"
        conditions := [{ kind := "path", operator := .startsWith, operand := .anyOf ["/"] }] } ]

def filePermission : Permission :=
  { name := "files.read", scope := .file, risk := .low }

/-- A refund under a temporary grant, and a file that the policy keeps closed. -/
def refundDay : List (Event Unit) :=
  [ .manage (.grantUntil "payments.refund" (.after 60000000)), .start refund,
    .submit (.str "files.read") (.dict [(.str "path", .str "/etc/hosts")]) ]

/-- An engine that keeps a trail, at the start of the day. -/
def dayEngine : Engine Unit :=
  Engine.make { seedBuiltinPermissions := false } rootPolicy [refundPermission, filePermission] none
    (.trail (Trail.Database.prepare {})) stillClock

theorem trail_lists_log_day :
    let t := run refundDay { engine := dayEngine }
    (t.engine.log.select none).map (fun entry => entry.result.granted) = [true, false] ∧
      ∃ d', t.engine.sink = .trail d' ∧
        ∃ files' es, Trail.Files.reopened "t" "t" 2 [("t", .database d')] = .ok files' ∧
          files'.list "t" { filter? := none } = .ok es ∧
          List.Forall₂ AuditEntry.Agrees (t.engine.log.select none) es := by
  intro t
  have hpolicy : rootPolicy.Valid := by
    intro r hr
    obtain rfl := List.mem_singleton.1 hr
    refine ⟨by decide, fun c hc => ?_⟩
    obtain rfl := List.mem_singleton.1 hc
    exact (by decide : "path" ≠ "")
  have hclock : stillClock.Portable := by
    have hzone : Time.WholeMinutes 0 := ⟨0, by decide, by decide⟩
    refine ⟨hzone, fun u hu => ?_⟩
    obtain rfl := List.mem_singleton.1 hu
    refine ⟨by decide +kernel, ?_⟩
    rintro offset ⟨⟩
    exact hzone
  have hevents : ∀ ev ∈ refundDay, ev.Portable ∧ ¬ ev.CutsLog := by
    have hpath : (Value.dict [(.str "path", .str "/etc/hosts")]).Plain :=
      plain_set plain_empty "path" (.str "/etc/hosts")
    simp only [refundDay, List.forall_mem_cons]
    exact ⟨⟨trivial, id⟩, ⟨plain_empty, id⟩, ⟨hpath, id⟩, fun ev hev => nomatch hev⟩
  obtain ⟨d', hsink, hlists⟩ := @trail_lists_log Unit { seedBuiltinPermissions := false }
    rootPolicy [refundPermission, filePermission] none stillClock (Trail.Database.prepare {})
    hpolicy hclock rfl refundDay hevents
  have hsplit : "t".splitOn "/" = ["t"] := by
    rw [String.splitOn, if_neg (by decide), String.splitOnAux, if_neg (by decide),
      if_neg (by decide), String.splitOnAux, if_pos (by decide)]
    decide
  have hhold : Trail.Files.canHold "t" [("t", .database d')] = true := by
    have hprefix : "t/".isPrefixOf "t" = false := by decide
    rw [Trail.Files.canHold, Trail.directoryOf, hsplit]
    simp [Trail.Files.isDirectory, hprefix]
  have hdecided : (t.engine.log.select none).map (fun entry => entry.result.granted) =
      [true, false] := by
    decide +kernel
  exact ⟨hdecided, d', hsink, hlists [("t", .database d')] "t" "t" 2 none hhold rfl⟩

/-- The expiries that the trail of an engine lists from its file. -/
def listedExpiries (e : Engine Work) : Option (List (Option Timestamp)) :=
  match e.sink with
  | .trail d =>
      (Trail.Files.list "t" { filter? := none } [("t", .database d)]).toOption.map
        (List.map fun entry => entry.result.expiresAt)
  | _ => none

/-- The start of the year 2030 in a zone that is half a minute ahead. -/
def halfMinuteExpiry : Timestamp :=
  { wall := 64029052800000000, offset := some 30000000 }

/-- The offset of an expiry loses its seconds in the trail, and so the expiry is another instant. -/
theorem trail_drops_offset_seconds :
    let t := run [.manage (.grantUntil "payments.refund" (.instant halfMinuteExpiry)), .start refund]
      { engine := dayEngine }
    (t.engine.log.select none).map (fun entry => entry.result.expiresAt) = [some halfMinuteExpiry] ∧
      listedExpiries t.engine = some [some { halfMinuteExpiry with offset := some 0 }] ∧
      halfMinuteExpiry.instant ≠ ({ halfMinuteExpiry with offset := some 0 } : Timestamp).instant := by
  decide +kernel

end Traffic

end Engine

end Clearance
