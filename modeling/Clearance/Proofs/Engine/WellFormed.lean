import Clearance.Proofs.Engine.Linearization
import Clearance.Proofs.Engine.Readings
import Clearance.Proofs.Engine.Recording
import Clearance.Proofs.Grants.Lookup
import Clearance.Proofs.Policy.FirstRule

/-!
# Entries are well formed

The parts of a decision fit together, whichever branch made it: a reason goes with a denial, an
expiry with a temporary grant, uses left with a limited grant, and a rule with what it decided.  The
log of a run holds nothing but such entries, and on a clock that never goes back they are in the
order of their times.
-/

namespace Clearance

theorem append_ne_empty {s : String} (h : s ≠ "") (t : String) : s ++ t ≠ "" := by
  intro hempty
  have hlist := congrArg String.toList hempty
  rw [String.toList_append] at hlist
  exact h (String.toList_inj.1 (List.append_eq_nil_iff.1 hlist).1)

/-- A rule that denies gives a reason. -/
theorem Rule.denialReason_ne_empty (r : Rule) : r.denialReason ≠ "" := by
  unfold denialReason
  split
  · decide
  · cases hreason : r.reason.filter (· != "") with
    | none => decide
    | some reason => simpa using (Option.filter_eq_some_iff.1 hreason).2

/-- A limited grant is not used beyond its uses. -/
theorem Grants.remaining_nonneg_of_consume {name : String} {now : Timestamp} {g g' : Grants}
    {m : GrantMatch} (h : g.consume name now = (some m, g')) :
    ∀ n, m.remaining? = some n -> 0 ≤ n := by
  intro n hn
  obtain ⟨expiry, -, hcase⟩ | ⟨uses, -, -, hcase⟩ | ⟨-, -, hcase⟩ := consume_cases name now g <;>
    have hmatch := congrArg Prod.fst (hcase.symm.trans h)
  · cases hmatch
    cases hn
  · cases hmatch
    cases hn
    exact Int.natCast_nonneg uses
  · obtain ⟨granted, -, rfl⟩ := Option.map_eq_some_iff.1 hmatch
    cases hn

namespace Engine

open Confirmation (Outcome Reply)

/-! ## Findings -/

/-- The parts of a finding on a name fit together. -/
structure Finding.Sound (name : String) (f : Finding) : Prop where
  granted : f.granted = true -> f.reason = none
  denied : f.granted = false -> ∃ reason, f.reason = some reason ∧ reason ≠ ""
  denials : f.source = .unknownPermission ∨ f.source = .confirmation ∨ f.source = .error ->
    f.granted = false
  approvals : f.source = .temporaryGrant ∨ f.source = .limitedGrant ∨ f.source = .grant ->
    f.granted = true
  expiresAt : f.expiresAt.isSome ↔ f.source = .temporaryGrant
  remainingUses : f.remainingUses.isSome ↔ f.source = .limitedGrant
  uses_nonneg : ∀ n, f.remainingUses = some n -> 0 ≤ n
  rule : f.rule.isSome ↔ f.source = .rule
  rule_decides : ∀ rule, f.rule = some rule ->
    rule.allow = f.granted ∧ Pattern.RuleCovers rule.pattern name

namespace Finding

variable {name : String}

/-- A denial that is made neither by a rule nor by default. -/
theorem sound_denial {source : Source} {reason : String} (hreason : reason ≠ "")
    (hsource : source = .unknownPermission ∨ source = .confirmation ∨ source = .error) :
    (denial source reason).Sound name where
  granted := fun h => nomatch h
  denied := fun _ => ⟨reason, rfl, hreason⟩
  denials := fun _ => rfl
  approvals := by rcases hsource with rfl | rfl | rfl <;> simp [denial]
  expiresAt := by rcases hsource with rfl | rfl | rfl <;> simp [denial]
  remainingUses := by rcases hsource with rfl | rfl | rfl <;> simp [denial]
  uses_nonneg := fun _ h => nomatch h
  rule := by rcases hsource with rfl | rfl | rfl <;> simp [denial]
  rule_decides := fun _ h => nomatch h

theorem sound_unknown (registered : String) : (unknown registered).Sound name :=
  sound_denial (append_ne_empty (by decide) _) (.inl rfl)

theorem sound_rejected (message : String) : (rejected message).Sound name :=
  sound_denial (append_ne_empty (by decide) _) (.inr (.inr rfl))

theorem sound_failed (message : String) : (failed message).Sound name :=
  sound_denial (append_ne_empty (by decide) _) (.inr (.inr rfl))

theorem sound_cancelled : cancelled.Sound name :=
  sound_denial (by decide) (.inr (.inl rfl))

theorem sound_ofOutcome {o : Outcome} (h : ∀ reason, o = .refused reason -> reason ≠ "") :
    (ofOutcome o).Sound name := by
  cases o with
  | refused reason => exact sound_denial (h reason rfl) (.inr (.inl rfl))
  | approved => constructor <;> simp [ofOutcome]

/-- Every reply of a handler that refuses comes with a reason. -/
theorem sound_ofReply (reply : Reply) : (ofOutcome (.ofReply reply)).Sound name := by
  refine sound_ofOutcome fun reason hreason => ?_
  rcases reply with (_ | _) | _ | _ | message <;> cases hreason
  · decide
  · decide
  · decide
  · exact append_ne_empty (by decide) _

theorem sound_ofUnhandled (u : Unhandled) : (ofOutcome (.ofUnhandled u)).Sound name := by
  refine sound_ofOutcome fun reason hreason => ?_
  cases u <;> cases hreason
  decide

theorem sound_ofGrant {m : GrantMatch} (h : ∀ n, m.remaining? = some n -> 0 ≤ n) :
    (ofGrant m).Sound name := by
  cases m with
  | limited remaining =>
      have hremaining : 0 ≤ remaining := h remaining rfl
      constructor <;>
        simp [ofGrant, GrantMatch.source, GrantMatch.expiresAt?, GrantMatch.remaining?, hremaining]
  | _ =>
      constructor <;>
        simp [ofGrant, GrantMatch.source, GrantMatch.expiresAt?, GrantMatch.remaining?]

theorem sound_ofRule {m : RuleMatch} (h : Pattern.RuleCovers m.rule.pattern name) :
    (ofRule m).Sound name := by
  have hreason := m.rule.denialReason_ne_empty
  cases hallow : m.rule.allow <;> constructor <;>
    simp [ofRule, RuleMatch.allowed, RuleMatch.reason, hallow, hreason, h]

theorem sound_ofDefault (p : Policy) : (ofDefault p).Sound name := by
  have hreason : Policy.defaultDenialReason ≠ "" := by decide
  cases hallow : p.defaultAllow <;> constructor <;> simp [ofDefault, hallow, hreason]

theorem sound_of_ofPolicy {p : Policy} {r : Request} {now : Timestamp} {f : Finding}
    (h : ofPolicy p r now = .ok f) : f.Sound r.permission := by
  revert h
  simp only [ofPolicy]
  cases hfound : p.findMatch r.permission { context := r.context, now } with
  | error fault => rintro ⟨⟩
  | ok m? =>
      cases m? with
      | none =>
          rintro ⟨⟩
          exact sound_ofDefault p
      | some m =>
          rintro ⟨⟩
          exact sound_ofRule (Policy.applies_of_firstMatch hfound).1

end Finding

theorem sound_of_lookup {p : Permission} {policy : Policy} {r : Request} {now : Timestamp}
    {g g' : Grants} {f : Finding} (h : lookup p policy r now g = (.ok (.found f), g')) :
    f.Sound r.permission := by
  revert h
  unfold lookup
  rcases hconsume : g.consume r.permission now with ⟨_ | m, g₁⟩
  · cases hpolicy : Finding.ofPolicy policy r now with
    | error fault => rintro ⟨⟩
    | ok f' =>
        rintro ⟨⟩
        exact Finding.sound_of_ofPolicy hpolicy
  · dsimp only
    split
    · rintro ⟨⟩
    · rintro ⟨⟩
      exact Finding.sound_ofGrant (Grants.remaining_nonneg_of_consume hconsume)

end Engine

/-- An entry repeats its result, and the parts of that fit together. -/
structure AuditEntry.WellFormed (entry : AuditEntry) : Prop extends entry.Faithful where
  sound : entry.result.finding.Sound entry.permission

namespace Engine

variable {Work : Type}

/-! ## Decisions -/

theorem wellFormed_stamp {r : Request} {f : Finding} (h : f.Sound r.permission)
    (e : Engine Work) : ∀ entry ∈ entriesOf (e.stamp r f).1, entry.WellFormed := by
  intro entry hmem
  revert hmem
  simp only [stamp, now]
  rcases e.clock.read with ⟨fault | t, clock⟩ <;> intro hmem
  · cases hmem
  · obtain rfl := List.mem_singleton.1 hmem
    exact ⟨Decision.faithful_entry _, h⟩

theorem wellFormed_conclude {r : Request} {f : Finding} (h : f.Sound r.permission)
    (e : Engine Work) : ∀ entry ∈ entriesOf (e.conclude r f).1, entry.WellFormed := by
  have hstamp := wellFormed_stamp h e
  revert hstamp
  simp only [conclude]
  rcases e.stamp r f with ⟨fault | d, e₁⟩ <;> intro hstamp
  · exact wellFormed_stamp (Finding.sound_failed fault.message) e₁
  · exact hstamp

theorem wellFormed_start (r : Request) (e : Engine Work) :
    ∀ entry ∈ (e.start r).1.entries, entry.WellFormed := by
  have hstarted := e.started r
  generalize e.start r = x at hstarted ⊢
  cases hstarted with
  | unknown => exact wellFormed_conclude (Finding.sound_unknown r.permission) e
  | unread => exact wellFormed_stamp (Finding.sound_failed _) _
  | failed => exact wellFormed_stamp (Finding.sound_failed _) _
  | found registered read lookup => exact wellFormed_conclude (sound_of_lookup lookup) _
  | waiting => exact fun _ hmem => absurd hmem List.not_mem_nil
  | unhandled => exact wellFormed_conclude (Finding.sound_ofUnhandled _) _

/-- An event in which a check that waits learns a reply, not any other outcome. -/
def Event.Answered : Event Work -> Prop
  | .finish _ o => ∃ reply, o = .ofReply reply
  | _ => True

theorem wellFormed_appended (tr : Transition Work) (h : tr.event.Answered) :
    ∀ entry ∈ tr.appended, entry.WellFormed := by
  obtain ⟨t, ev⟩ := tr
  have hact := (Transition.mk t ev).act
  generalize (Transition.mk t ev).appended = entries at hact ⊢
  generalize (Transition.mk t ev).after.engine = e at hact
  cases hact with
  | started => exact wellFormed_start _ t.engine
  | rejected => exact wellFormed_stamp (Finding.sound_rejected _) t.engine
  | finished =>
      obtain ⟨reply, rfl⟩ := h
      exact wellFormed_conclude (Finding.sound_ofReply reply) t.engine
  | cancelled => exact wellFormed_stamp Finding.sound_cancelled t.engine
  | _ => exact fun _ hmem => absurd hmem List.not_mem_nil

namespace Traffic

/-! ## Runs -/

theorem wellFormed_run {events : List (Event Work)} (h : ∀ ev ∈ events, ev.Answered)
    (t : Traffic Work) : ∀ entry ∈ appended events t, entry.WellFormed := by
  induction events generalizing t with
  | nil => exact fun _ hmem => absurd hmem List.not_mem_nil
  | cons ev rest ih =>
      obtain ⟨hev, hrest⟩ := List.forall_mem_cons.1 h
      have hstep : ∀ entry ∈ (Transition.mk t ev).appended, entry.WellFormed :=
        wellFormed_appended ⟨t, ev⟩ hev
      rw [appended_cons]
      exact List.forall_mem_append.2 ⟨hstep, ih hrest (t.step ev).2⟩

/--
However checks interleave with each other and with what else is done to an engine whose log was
empty, every entry of its log is well formed; and if no reading of the clock in the run is before an
earlier one, no entry is before an earlier one.
-/
theorem log_wellFormed {events : List (Event Work)} {e : Engine Work}
    (hempty : e.log.entries = []) (hanswered : ∀ ev ∈ events, ev.Answered) :
    let t : Traffic Work := { engine := e }
    let log := (t.run events).engine.log.entries
    (∀ entry ∈ log, entry.WellFormed) ∧
      (∀ tr ∈ transitions events t, ¬ tr.event.SetsClock ->
        tr.before.engine.clock.Gives tr.readings tr.after.engine.clock) ∧
      ((readings events t).Pairwise (fun first second => first.instant ≤ second.instant) ->
        log.Pairwise fun first second => first.timestamp.instant ≤ second.timestamp.instant) := by
  intro t log
  have hlog : log <:+ appended events t := by
    have hsuffix := suffix_run events t
    rwa [hempty, List.nil_append] at hsuffix
  refine ⟨?_, fun tr _ hset => gives_readings hset, fun hreadings => ?_⟩
  · exact fun entry hmem => wellFormed_run hanswered t entry (hlog.subset hmem)
  · have htimes := hreadings.sublist ((hlog.sublist.map AuditEntry.timestamp).trans
      (timestamps_run events t))
    rwa [List.pairwise_map] at htimes

/-- So many seconds after the time of the clock that stands still. -/
def secondsLater (n : Nat) : Timestamp :=
  { stillClock.now with wall := stillClock.now.wall + n * 1000000 }

/-- Two refunds overlap with a check of what is no request; the second is completed first. -/
def overlapping : List (Event Unit) :=
  [.start refund, .start refund, .submit (.int 5) .null, .finish 1 (.ofReply .timedOut),
    .finish 0 (.ofReply (.answered true))]

/-- An engine on a clock that moves on by a second with every reading. -/
def movingEngine : Engine Unit :=
  { refundEngine .silent with
    clock := { now := secondsLater 4, ahead := [0, 1, 2, 3].map secondsLater } }

theorem log_wellFormed_overlapping :
    let t : Traffic Unit := { engine := movingEngine }
    let log := (t.run overlapping).engine.log.entries
    movingEngine.log.entries = [] ∧ (∀ ev ∈ overlapping, ev.Answered) ∧
      (∀ entry ∈ log, entry.WellFormed) ∧
      log.map AuditEntry.timestamp = [2, 3, 4].map secondsLater ∧
      log.map (fun entry => entry.result.source) = [.error, .confirmation, .grant] ∧
      readings overlapping t = [0, 1, 2, 3, 4].map secondsLater ∧
      log.Pairwise fun first second => first.timestamp.instant ≤ second.timestamp.instant := by
  have hempty : movingEngine.log.entries = [] := rfl
  have hanswered : ∀ ev ∈ overlapping, ev.Answered := by
    simp only [overlapping, List.forall_mem_cons, Event.Answered]
    exact ⟨trivial, trivial, trivial, ⟨.timedOut, rfl⟩, ⟨.answered true, rfl⟩, nofun⟩
  have hreadings : readings overlapping { engine := movingEngine } =
      [0, 1, 2, 3, 4].map secondsLater := by decide +kernel
  have hlater : ([0, 1, 2, 3, 4].map secondsLater).Pairwise
      fun first second => first.instant ≤ second.instant := by decide
  obtain ⟨hwell, -, hordered⟩ := log_wellFormed hempty hanswered
  exact ⟨hempty, hanswered, hwell, by decide +kernel, by decide +kernel, hreadings,
    hordered (hreadings ▸ hlater)⟩

end Traffic

end Engine

end Clearance
