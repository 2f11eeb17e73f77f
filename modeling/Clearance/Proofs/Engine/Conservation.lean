import Clearance.Proofs.Engine.Interleaving
import Clearance.Proofs.Engine.Management
import Clearance.Proofs.Engine.Verdict

/-!
# Limited grants are conserved

A limited grant gives as many uses as it was made for, however the checks interleave that seek
them.  A use is taken where a check is looked up, and the check ends there, granted and recorded;
nothing else takes a use, as long as the grant is not made anew, revoked or cleared.
-/

namespace Clearance

/-- It is granted by a use of the limited grant for a name. -/
def Decision.spends (name : String) (d : Decision) : Bool :=
  d.granted && decide (d.source = .limitedGrant) && d.permission == name

namespace Engine

variable {Work : Type}

/-! ## Renewals -/

/-- What gives a name other uses than it had. -/
def Event.Renews (name : String) : Event Work -> Prop
  | .manage (.grantUses other _) => other = name
  | .manage (.revoke other) => other = name
  | .clearGrants => True
  | _ => False

theorem usesLeft_manage {name : String} {m : Management Work}
    (h : ¬ (Event.manage m).Renews name) (e : Engine Work) :
    (e.manage m).2.grants.usesLeft name = e.grants.usesLeft name := by
  unfold Grants.usesLeft
  rw [(manage_frame m e).1]
  cases m with
  | grantUses other uses =>
      have hne : name ≠ other := fun heq => h heq.symm
      simp only [Table.get?_set, if_neg hne]
  | revoke other =>
      have hne : name ≠ other := fun heq => h heq.symm
      simp only [Table.get?_erase, if_neg hne]
  | _ => rfl

/-! ## Lookups -/

/-- A request is of a name that is registered and has no temporary grant in force. -/
def seeks (name : String) (now : Timestamp) (r : Request) (e : Engine Work) : Bool :=
  r.permission == name && (e.catalog.get? name).isSome && (e.grants.expiry? name now).isNone

theorem seeks_iff {name : String} {now : Timestamp} {r : Request} {e : Engine Work} :
    e.seeks name now r = true ↔
      r.permission = name ∧ (∃ p, e.Registered r p) ∧ e.grants.expiry? name now = none := by
  simp only [seeks, Bool.and_eq_true, beq_iff_eq, Option.isSome_iff_exists,
    Option.isNone_iff_eq_none, and_assoc]
  refine and_congr_right fun hname => and_congr_left' ?_
  subst hname
  exact exists_congr fun p => Catalog.get?_eq_some_iff

theorem snd_lookup (p : Permission) (policy : Policy) (r : Request) (now : Timestamp) (g : Grants) :
    (lookup p policy r now g).2 = (g.consume r.permission now).2 := by
  unfold lookup
  rcases g.consume r.permission now with ⟨_ | m, g'⟩
  · rfl
  · dsimp only
    split <;> rfl

theorem weigh_grants (r : Request) (now : Timestamp) (e : Engine Work) :
    (e.weigh r now).2 =
      if (e.catalog.get? r.permission).isSome then (e.grants.consume r.permission now).2
      else e.grants := by
  unfold weigh
  cases e.catalog.get? r.permission with
  | none => rfl
  | some p =>
      dsimp only [Option.isSome_some]
      rw [if_pos rfl, ← snd_lookup p e.policy]
      rcases lookup p e.policy r now e.grants with ⟨fault | (f | i), g⟩
      · rfl
      · rfl
      · dsimp only
        cases e.handler? <;> rfl

/-- A lookup takes a use of the name that it seeks, if there is one left. -/
theorem usesLeft_weigh (name : String) (now : Timestamp) (r : Request) (e : Engine Work) :
    (e.weigh r now).2.usesLeft name =
      if e.seeks name now r then e.grants.usesLeft name - 1 else e.grants.usesLeft name := by
  rw [weigh_grants]
  unfold seeks
  by_cases hname : r.permission = name
  · subst hname
    cases hget : e.catalog.get? r.permission with
    | none => simp
    | some p =>
        dsimp only [Option.isSome_some]
        rw [if_pos rfl, Grants.usesLeft_consume]
        cases e.grants.expiry? r.permission now <;> simp
  · have hother : ¬ (name = r.permission ∧ e.grants.expiry? r.permission now = none) :=
      fun h => hname h.1.symm
    have hfalse : (r.permission == name) = false := by simpa using hname
    rw [hfalse, Bool.false_and, Bool.false_and, if_neg Bool.false_ne_true]
    split
    · rw [Grants.usesLeft_consume, if_neg hother]
    · rfl

/-- What seeks a use while one is left finds it. -/
theorem weigh_of_seeks {name : String} {now : Timestamp} {r : Request} {e : Engine Work} {n : Nat}
    (hseeks : e.seeks name now r = true) (huses : e.grants.usesLeft name = n + 1) :
    (e.weigh r now).1 = .found (.ofGrant (.limited n)) := by
  obtain ⟨rfl, ⟨p, hp⟩, hexpiry⟩ := seeks_iff.1 hseeks
  simp only [weigh, hp.get?, lookup_of_usesLeft _ _ hexpiry huses]

/-- Nothing else finds a use. -/
theorem seeks_of_limitedGrant {now : Timestamp} {r : Request} {e : Engine Work} {f : Finding}
    (hfound : (e.weigh r now).1 = .found f) (hsource : f.source = .limitedGrant) :
    e.seeks r.permission now r = true ∧ e.grants.usesLeft r.permission ≠ 0 := by
  have hf : e.found r now = f := by
    rw [found, hfound]
    rfl
  obtain ⟨granted, hgranted⟩ : ∃ granted, f.granted = granted := ⟨_, rfl⟩
  have hverdict : Verdict e r now granted .limitedGrant := by
    rw [verdict_iff, hf]
    exact ⟨hgranted, hsource⟩
  cases hverdict with
  | limited registered inactive uses =>
      constructor
      · exact seeks_iff.2 ⟨rfl, ⟨_, registered⟩, Grants.expiry?_eq_none_iff.2 inactive⟩
      · exact fun hzero => Grants.usesLeft_eq_zero_iff.1 hzero uses

/-! ## Single events -/

/-- An event looks a request up that seeks a name. -/
def Event.seeks (name : String) (e : Engine Work) (ev : Event Work) : Bool :=
  ev.request?.any fun r => e.seeks name e.clock.time r

/--
The account of the uses of a name over one event: one use is taken, for a decision that is granted,
says what is left, and is the one entry that is recorded; or all uses are kept, and no decision or
entry is about one.
-/
inductive Account (name : String) (e : Engine Work) (ev : Event Work)
    (decided? : Option Decision) (e' : Engine Work) : Prop where
  | spent (d : Decision) (rest : Nat) (sought : ev.seeks name e = true)
      (decided : decided? = some d) (spends : d.spends name = true)
      (remaining : d.remainingUses = some (rest : Int))
      (before : e.grants.usesLeft name = rest + 1) (after : e'.grants.usesLeft name = rest)
      (recorded : e'.log.entries = e.log.entries ++ [d.entry])
  | kept (sought : ev.seeks name e = true -> e.grants.usesLeft name = 0)
      (decided : ∀ d, decided? = some d -> d.spends name = false)
      (after : e'.grants.usesLeft name = e.grants.usesLeft name)
      (recorded : (e'.log.entries.filter fun entry => entry.result.spends name).Sublist
        (e.log.entries.filter fun entry => entry.result.spends name))

section

variable {name : String}

theorem filter_recorded {entries : List AuditEntry} {d : Decision} (h : d.spends name = false) :
    ((entries ++ [d.entry]).filter fun entry => entry.result.spends name) =
      entries.filter fun entry => entry.result.spends name := by
  have hentry : d.entry.result.spends name = false := h
  rw [List.filter_append, List.filter_cons_of_neg (by simp [hentry]), List.filter_nil,
    List.append_nil]

theorem spends_eq_false {r : Request} {f : Finding} {e : Engine Work}
    (h : f.source = .limitedGrant -> r.permission ≠ name) :
    (e.stamped r f).spends name = false := by
  cases hspends : (e.stamped r f).spends name with
  | false => rfl
  | true =>
      simp only [Decision.spends, Bool.and_eq_true, decide_eq_true_eq, beq_iff_eq] at hspends
      exact absurd hspends.2 (h hspends.1.2)

/-- A check that ends without being looked up takes no use. -/
theorem account_stamped {ev : Event Work} {r : Request} {f : Finding} {e : Engine Work}
    (hrequest : ev.request? = none) (hsource : f.source ≠ .limitedGrant) :
    Account name e ev (some (e.stamped r f)) (e.settled (e.stamped r f)) := by
  have hunspent : (e.stamped r f).spends name = false :=
    spends_eq_false fun h => absurd h hsource
  refine .kept ?_ ?_ rfl ?_
  · intro hseeks
    simp [Event.seeks, hrequest] at hseeks
  · rintro d ⟨⟩
    exact hunspent
  · rw [entries_settled, filter_recorded hunspent]

theorem account_found {ev : Event Work} {r : Request} {f : Finding} {e : Engine Work}
    (hrequest : ev.request? = some r) (hfound : (e.weigh r e.clock.time).1 = .found f) :
    Account name e ev (some ((e.weighed r).stamped r f))
      ((e.weighed r).settled ((e.weighed r).stamped r f)) := by
  have hev : ev.seeks name e = e.seeks name e.clock.time r := by
    simp [Event.seeks, hrequest]
  have huses : (e.weigh r e.clock.time).2.usesLeft name = _ := usesLeft_weigh name _ r e
  -- A use is taken just when one is sought and left; then the finding is known.
  by_cases h : e.seeks name e.clock.time r = true ∧ e.grants.usesLeft name ≠ 0
  · obtain ⟨hseeks, hne⟩ := h
    obtain ⟨n, hn⟩ := Nat.exists_eq_add_one_of_ne_zero hne
    rw [weigh_of_seeks hseeks hn] at hfound
    cases hfound
    rw [if_pos hseeks, hn, Nat.add_sub_cancel] at huses
    refine .spent _ n (hev.trans hseeks) rfl ?_ rfl hn huses rfl
    have hname : r.permission = name := (seeks_iff.1 hseeks).1
    simp [Decision.spends, stamped, Finding.decision, Finding.ofGrant, GrantMatch.source, hname]
  · have hunspent : ((e.weighed r).stamped r f).spends name = false := by
      refine spends_eq_false ?_
      rintro hsource rfl
      exact h (seeks_of_limitedGrant hfound hsource)
    refine .kept ?_ ?_ ?_ ?_
    · intro hseeks
      exact Decidable.byContradiction fun hne => h ⟨hev ▸ hseeks, hne⟩
    · rintro d ⟨⟩
      exact hunspent
    · refine huses.trans ?_
      split
      · rename_i hseeks
        have hzero : ¬ e.grants.usesLeft name ≠ 0 := fun hne => h ⟨hseeks, hne⟩
        omega
      · rfl
    · rw [entries_settled, filter_recorded hunspent]
      exact List.Sublist.refl _

/-- A check that waits has taken no use. -/
theorem account_due {ev : Event Work} {r : Request} {i : Inquiry} {e : Engine Work}
    (hrequest : ev.request? = some r) (hdue : (e.weigh r e.clock.time).1 = .due i) :
    Account name e ev none (e.weighed r) := by
  have hev : ev.seeks name e = e.seeks name e.clock.time r := by
    simp [Event.seeks, hrequest]
  have hzero : e.seeks name e.clock.time r = true -> e.grants.usesLeft name = 0 := by
    intro hseeks
    cases hn : e.grants.usesLeft name with
    | zero => rfl
    | succ n =>
        rw [weigh_of_seeks hseeks hn] at hdue
        cases hdue
  refine .kept (hev ▸ hzero) (by rintro d ⟨⟩) ?_ (List.Sublist.refl _)
  refine (usesLeft_weigh name _ r e).trans ?_
  split
  · rename_i hseeks
    rw [hzero hseeks]
  · rfl

/-- Every event that does not renew a name has an account of its uses. -/
theorem Move.account {t : Traffic Work} {ev : Event Work} {decided? : Option Decision}
    {e' : Engine Work} (hmove : Move t ev decided? e') (hkeep : ¬ ev.Renews name) :
    Account name t.engine ev decided? e' := by
  cases hmove with
  | found request finding => exact account_found request finding
  | due request inquiry => exact account_due request inquiry
  | rejected unreadable told =>
      exact account_stamped (Transition.request?_submit_of_error unreadable) (by rintro ⟨⟩)
  | @finished place o p waiting =>
      refine account_stamped rfl ?_
      cases o <;> rintro ⟨⟩
  | cancelled waiting => exact account_stamped rfl (by rintro ⟨⟩)
  | idle request =>
      refine .kept ?_ (by rintro d ⟨⟩) rfl (List.Sublist.refl _)
      intro hseeks
      simp [Event.seeks, request] at hseeks
  | managed m =>
      refine .kept ?_ (by rintro d ⟨⟩) (usesLeft_manage hkeep _) ((entries_manage m _).filter _)
      intro hseeks
      cases hseeks
  | cleared => exact absurd trivial hkeep

end

/-! ## Runs -/

namespace Transition

/-- A request is looked up that seeks a name. -/
def seeks (name : String) (tr : Transition Work) : Bool :=
  tr.event.seeks name tr.before.engine

/-- The decision that takes a use of a name, if there is one. -/
def use? (name : String) (tr : Transition Work) : Option Decision :=
  tr.decided?.filter fun d => d.spends name

/-- The uses of a name are accounted for. -/
def Accounted (name : String) (tr : Transition Work) : Prop :=
  Account name tr.before.engine tr.event tr.decided? tr.after.engine

/-- A transition that is accounted for takes one use, which it sought, or none. -/
theorem Accounted.use? {name : String} {tr : Transition Work} (h : tr.Accounted name) :
    (∃ d, ∃ rest : Nat, tr.use? name = some d ∧ tr.seeks name = true ∧
      d.remainingUses = some (rest : Int) ∧
      tr.before.engine.grants.usesLeft name = rest + 1 ∧
      tr.after.engine.grants.usesLeft name = rest) ∨
    (tr.use? name = none ∧
      (tr.seeks name = true -> tr.before.engine.grants.usesLeft name = 0) ∧
      tr.after.engine.grants.usesLeft name = tr.before.engine.grants.usesLeft name) := by
  cases h with
  | spent d rest sought decided spends remaining before after recorded =>
      have huse : tr.use? name = some d := by
        simp only [Transition.use?, decided, Option.filter, spends, if_true]
      exact .inl ⟨d, rest, huse, sought, remaining, before, after⟩
  | kept sought decided after recorded =>
      have huse : tr.use? name = none := by
        refine Option.filter_eq_none_iff.2 fun d hd => ?_
        rw [decided d hd]
        exact Bool.false_ne_true
      exact .inr ⟨huse, sought, after⟩

end Transition

namespace Traffic

theorem event_mem_of_mem_transitions {events : List (Event Work)} {t : Traffic Work}
    {tr : Transition Work} (h : tr ∈ transitions events t) : tr.event ∈ events := by
  induction events generalizing t with
  | nil => cases h
  | cons ev rest ih =>
      rcases List.mem_cons.1 h with rfl | h
      · exact List.mem_cons_self
      · exact List.mem_cons_of_mem _ (ih h)

/-- The decisions of a run that take uses of a name, in order. -/
def uses (name : String) (trs : List (Transition Work)) : List Decision :=
  trs.filterMap (Transition.use? name)

/-- The numbers that are left behind when so many uses are taken of what there is. -/
def countdown (left : Int) (taken : Nat) : List (Option Int) :=
  (List.range taken).map fun i : Nat => some (left - 1 - i)

theorem countdown_succ (rest taken : Nat) :
    countdown ((rest + 1 : Nat) : Int) (taken + 1) =
      some (rest : Int) :: countdown rest taken := by
  have hfirst : ((rest + 1 : Nat) : Int) - 1 - ((0 : Nat) : Int) = rest := by omega
  simp only [countdown, List.range_succ_eq_map, List.map_cons, List.map_map, hfirst]
  refine congrArg (some (rest : Int) :: ·) (List.map_congr_left fun i _ => congrArg some ?_)
  show ((rest + 1 : Nat) : Int) - 1 - ((i + 1 : Nat) : Int) = (rest : Int) - 1 - i
  omega

/-- A run whose uses are accounted for takes as many as are sought, as far as there are any. -/
theorem uses_of_accounted {name : String} {events : List (Event Work)} {t : Traffic Work}
    (h : ∀ tr ∈ transitions events t, tr.Accounted name) :
    (uses name (transitions events t)).length =
        min (t.engine.grants.usesLeft name)
          ((transitions events t).countP (Transition.seeks name)) ∧
      (uses name (transitions events t)).map Decision.remainingUses =
        countdown (t.engine.grants.usesLeft name)
          (uses name (transitions events t)).length := by
  induction events generalizing t with
  | nil => simp [transitions, uses, countdown]
  | cons ev rest ih =>
      have htail := ih (t := (t.step ev).2) fun tr htr => h tr (List.mem_cons_of_mem _ htr)
      have hhead : (Transition.mk t ev).Accounted name := h _ List.mem_cons_self
      obtain ⟨hcount, hleft⟩ := htail
      simp only [transitions, uses, List.filterMap_cons, List.countP_cons] at hcount hleft ⊢
      rcases hhead.use? with ⟨d, n, huse, hseeks, hremaining, hbefore, hspent⟩ |
        ⟨huse, hseeks, hkept⟩
      · have hrest : (t.step ev).2.engine.grants.usesLeft name = n := hspent
        rw [hrest] at hcount hleft
        have hstart : t.engine.grants.usesLeft name = n + 1 := hbefore
        rw [huse, hseeks, hstart]
        simp only [List.length_cons, List.map_cons, if_true]
        constructor
        · omega
        · rw [countdown_succ, hremaining, hleft]
      · have hsame : (t.step ev).2.engine.grants.usesLeft name =
            t.engine.grants.usesLeft name := hkept
        rw [hsame] at hcount hleft
        rw [huse]
        refine ⟨?_, hleft⟩
        by_cases hsought : (Transition.mk t ev).seeks name = true
        · have hzero : t.engine.grants.usesLeft name = 0 := hseeks hsought
          rw [if_pos hsought]
          dsimp only
          omega
        · rw [if_neg hsought]
          exact hcount

theorem countdown_toNat {k : Int} {taken : Nat} (h : taken ≤ k.toNat) :
    countdown (k.toNat : Int) taken = countdown k taken := by
  rcases Int.le_total 0 k with hk | hk
  · rw [Int.toNat_of_nonneg hk]
  · have hnone : taken = 0 := by omega
    rw [hnone]
    rfl

/-- The decision that takes a use says how many are left, and that is no negative number. -/
theorem remaining_of_use? {name : String} {tr : Transition Work} {d : Decision}
    (haccounted : tr.Accounted name) (huse : tr.use? name = some d) :
    ∃ rest : Nat, d.remainingUses = some (rest : Int) := by
  rcases haccounted.use? with ⟨d', rest, huse', -, hremaining, -, -⟩ | ⟨hnone, -, -⟩
  · rw [huse] at huse'
    cases huse'
    exact ⟨rest, hremaining⟩
  · rw [huse] at hnone
    cases hnone

/-- The transitions of a run that begins with a limited grant. -/
def stretch (name : String) (uses : Int) (events : List (Event Work)) (t : Traffic Work) :
    List (Transition Work) :=
  transitions events (t.step (.manage (.grantUses name uses))).2

/-- Refunds that are sought before and after another check, and after the uses are spent. -/
def refundRun : List (Event Unit) :=
  [.start refund, .start { permission := "payments.list" }, .start refund, .start refund,
    .finish 3 .approved, .start refund]

/-- What happens in those checks once two refunds are granted. -/
def refundStretch : List (Transition Unit) :=
  stretch "payments.refund" 2 refundRun { engine := refundEngine .silent }

end Traffic

end Engine

end Clearance
