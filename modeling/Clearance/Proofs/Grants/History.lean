import Clearance.Engine.Management
import Clearance.Proofs.Grants.Lookup

/-!
# Grants by their history

What a lookup answers, told from the operations before it alone.  The grants themselves forget:
every lookup drops what has run out by then, and a limited grant without uses.  As long as lookups
do not go back in time, this cannot be told from the answers.
-/

namespace Clearance.Grants

open Engine (Expiry)

/-- What is done to grants.  A time is read on the local clock, in the zone that it has then. -/
inductive Operation where
  | grant (name : String)
  | revoke (name : String)
  | grantUntil (name : String) (x : Expiry) (now : Timestamp) (zone : Int)
  | grantUses (name : String) (uses : Int)
  | clear
  | lookup (name : String) (now : Timestamp) (zone : Int)

namespace Operation

/-- The grants after an operation; if its time cannot be read, they stay as they are. -/
def after (op : Operation) (g : Grants) : Grants :=
  match op with
  | .grant name => g.grant name
  | .revoke name => g.revoke name
  | .grantUntil name x now zone =>
      match x.resolve zone now with
      | .ok expiry => g.grantUntil name expiry
      | .error _ => g
  | .grantUses name uses => g.grantUses name uses
  | .clear => .empty
  | .lookup name now zone =>
      match now.localize zone with
      | .ok t => (g.consume name t).2
      | .error _ => g

/-- What a lookup answers. -/
def reply (op : Operation) (g : Grants) : Option GrantMatch :=
  match op with
  | .lookup name now zone =>
      match now.localize zone with
      | .ok t => (g.consume name t).1
      | .error _ => none
  | _ => none

def isLookup : Operation -> Bool
  | .lookup .. => true
  | _ => false

/-- The instant at which a lookup is made. -/
def instant? : Operation -> Option Int
  | .lookup _ now zone => (now.localize zone).toOption.map Timestamp.instant
  | _ => none

end Operation

/-- The operations so far, the newest first. -/
abbrev History := List Operation

/-- The grants that a history leaves. -/
def replay : History -> Grants
  | [] => .empty
  | op :: past => op.after (replay past)

namespace History

/-- The lookups of a history do not go back in time. -/
def InOrder (past : History) : Prop :=
  (past.filterMap Operation.instant?).Pairwise fun later earlier => earlier ≤ later

/-! ## What a history grants -/

/-- When the last temporary grant for a name runs out, unless it was revoked or cleared since. -/
def expiryOf? (name : String) : History -> Option Timestamp
  | [] => none
  | .grantUntil other x now zone :: past =>
      match x.resolve zone now with
      | .ok expiry => if other = name then some expiry else expiryOf? name past
      | .error _ => expiryOf? name past
  | .revoke other :: past => if other = name then none else expiryOf? name past
  | .clear :: _ => none
  | _ :: past => expiryOf? name past

/-- The same, if it has not run out at an instant. -/
def activeExpiry? (name : String) (t : Timestamp) (past : History) : Option Timestamp :=
  (expiryOf? name past).filter fun expiry => decide (t.instant < expiry.instant)

/-- A lookup is of a name and finds no temporary grant in force. -/
def seeks (name other : String) (now : Timestamp) (zone : Int) (past : History) : Bool :=
  other == name &&
    (now.localize zone).toOption.any fun t => (activeExpiry? name t past).isNone

/-- A limited grant after a lookup, which it approves if there is a use left. -/
def takeUse : Int × Nat -> Int × Nat
  | (uses, taken) => if taken < uses then (uses, taken + 1) else (uses, taken)

/--
The uses of the last limited grant for a name, unless it was revoked or cleared since, and how many
lookups it has approved since.
-/
def limitOf? (name : String) : History -> Option (Int × Nat)
  | [] => none
  | .grantUses other uses :: past => if other = name then some (uses, 0) else limitOf? name past
  | .revoke other :: past => if other = name then none else limitOf? name past
  | .clear :: _ => none
  | .lookup other now zone :: past =>
      if seeks name other now zone past then (limitOf? name past).map takeUse
      else limitOf? name past
  | _ :: past => limitOf? name past

/-- A name was granted, and neither revoked nor cleared since. -/
def Granted (name : String) : History -> Prop
  | [] => False
  | .grant other :: past => other = name ∨ Granted name past
  | .revoke other :: past => other ≠ name ∧ Granted name past
  | .clear :: _ => False
  | _ :: past => Granted name past

/-- The grant that speaks for a name: the name itself, or the least that covers it. -/
def SpeaksFor (granted name : String) (past : History) : Prop :=
  Granted granted past ∧ Pattern.GrantCovers granted name ∧
    (granted = name ∨ ¬ Granted name past ∧
      ∀ other, Granted other past -> Pattern.GrantCovers other name -> granted ≤ other)

/-- A limited grant for a name has approved fewer lookups than it was made for. -/
def Unspent (name : String) (past : History) : Prop :=
  ∃ uses taken, limitOf? name past = some (uses, taken) ∧ taken < uses

/-- What a lookup of a name at an instant is to answer. -/
inductive Answer (name : String) (t : Timestamp) (past : History) : Option GrantMatch -> Prop where
  | temporary {expiry : Timestamp} (granted : expiryOf? name past = some expiry)
      (active : t.instant < expiry.instant) : Answer name t past (some (.temporary expiry))
  | limited {uses : Int} {taken : Nat} (inactive : activeExpiry? name t past = none)
      (granted : limitOf? name past = some (uses, taken)) (unspent : taken < uses) :
      Answer name t past (some (.limited (uses - taken - 1)))
  | standing {granted : String} (inactive : activeExpiry? name t past = none)
      (spent : ¬ Unspent name past) (speaks : SpeaksFor granted name past) :
      Answer name t past (some (.standing granted))
  | none (inactive : activeExpiry? name t past = none) (spent : ¬ Unspent name past)
      (uncovered : ∀ granted, Granted granted past -> ¬ Pattern.GrantCovers granted name) :
      Answer name t past none

/-! ## What a history leaves -/

/-- All lookups of a history are made at an instant or before. -/
def Until (t : Timestamp) (past : History) : Prop :=
  ∀ i ∈ past.filterMap Operation.instant?, i ≤ t.instant

theorem Until.tail {t : Timestamp} {op : Operation} {past : History} (h : Until t (op :: past)) :
    Until t past := by
  intro i hi
  refine h i ?_
  rw [List.filterMap_cons]
  cases op.instant? with
  | none => exact hi
  | some j => exact List.mem_cons_of_mem _ hi

theorem Until.le {t u : Timestamp} {name : String} {now : Timestamp} {zone : Int}
    {past : History} (h : Until t (.lookup name now zone :: past))
    (hnow : now.localize zone = .ok u) : u.instant ≤ t.instant := by
  refine h u.instant ?_
  simp [Operation.instant?, hnow, Except.toOption]

theorem InOrder.sublist {past past' : History} (h : InOrder past') (hsub : past.Sublist past') :
    InOrder past :=
  List.Pairwise.sublist (hsub.filterMap _) h

theorem InOrder.tail {op : Operation} {past : History} (h : InOrder (op :: past)) :
    InOrder past :=
  h.sublist (List.sublist_cons_self op past)

theorem InOrder.until {name : String} {now t : Timestamp} {zone : Int} {past : History}
    (h : InOrder (.lookup name now zone :: past)) (hnow : now.localize zone = .ok t) :
    Until t past := by
  have hinstant : (Operation.lookup name now zone).instant? = some t.instant := by
    simp [Operation.instant?, hnow, Except.toOption]
  unfold InOrder at h
  rw [List.filterMap_cons, hinstant] at h
  exact (List.pairwise_cons.1 h).1

/-- A temporary grant is there as long as it can matter. -/
theorem expiry?_replay {t : Timestamp} {past : History} (h : Until t past) (name : String) :
    (replay past).expiry? name t = activeExpiry? name t past := by
  induction past with
  | nil => rfl
  | cons op past ih =>
      have hpast := ih h.tail
      cases op with
      | grant other => exact hpast
      | grantUses other uses => exact hpast
      | clear => rfl
      | revoke other =>
          simp only [replay, Operation.after, activeExpiry?, expiryOf?, expiry?, revoke,
            Table.get?_erase]
          by_cases hname : name = other
          · rw [if_pos hname, if_pos hname.symm]
          · rw [if_neg hname, if_neg (Ne.symm hname)]
            exact hpast
      | grantUntil other x now zone =>
          simp only [replay, Operation.after, activeExpiry?, expiryOf?]
          cases x.resolve zone now with
          | error f => exact hpast
          | ok expiry =>
              simp only [expiry?, grantUntil, Table.get?_set]
              by_cases hname : name = other
              · rw [if_pos hname, if_pos hname.symm]
              · rw [if_neg hname, if_neg (Ne.symm hname)]
                exact hpast
      | lookup other now zone =>
          simp only [replay, Operation.after]
          cases hnow : now.localize zone with
          | error f => exact hpast
          | ok u =>
              dsimp only
              rw [expiry?_consume (h.le hnow)]
              exact hpast

/-- The uses that a limited grant has left. -/
def left : Int × Nat -> Nat
  | (uses, taken) => (uses - taken).toNat

theorem left_takeUse (limit : Int × Nat) : left (takeUse limit) = left limit - 1 := by
  obtain ⟨uses, taken⟩ := limit
  by_cases h : (taken : Int) < uses
  · simp only [takeUse, if_pos h, left]
    omega
  · simp only [takeUse, if_neg h, left]
    omega

/-- The uses that are left of the last limited grant for a name. -/
def usesOf (name : String) (past : History) : Nat :=
  ((limitOf? name past).map left).getD 0

theorem usesOf_lookup (name other : String) (now : Timestamp) (zone : Int) (past : History) :
    usesOf name (.lookup other now zone :: past) =
      if seeks name other now zone past then usesOf name past - 1 else usesOf name past := by
  unfold usesOf
  rw [limitOf?]
  split
  · cases limitOf? name past with
    | none => rfl
    | some limit => exact left_takeUse limit
  · rfl

theorem seeks_eq_false {now : Timestamp} {zone : Int} {f : Timestamp.RangeFault}
    (h : now.localize zone = .error f) (name other : String) (past : History) :
    seeks name other now zone past = false := by
  simp [seeks, h, Except.toOption]

theorem seeks_iff {now t : Timestamp} {zone : Int} (h : now.localize zone = .ok t)
    (name other : String) (past : History) :
    seeks name other now zone past = true ↔ other = name ∧ activeExpiry? name t past = none := by
  simp [seeks, h, Except.toOption]

/-- A limited grant has the uses left that it has not given. -/
theorem usesLeft_replay {past : History} (h : InOrder past) (name : String) :
    (replay past).usesLeft name = usesOf name past := by
  induction past with
  | nil => rfl
  | cons op past ih =>
      have hpast := ih h.tail
      cases op with
      | grant other => exact hpast
      | clear => rfl
      | grantUntil other x now zone =>
          simp only [replay, Operation.after]
          cases x.resolve zone now <;> exact hpast
      | grantUses other uses =>
          simp only [replay, Operation.after, usesLeft_grantUses, usesOf, limitOf?]
          by_cases hname : name = other
          · rw [if_pos hname, if_pos hname.symm]
            simp [left]
          · rw [if_neg hname, if_neg (Ne.symm hname)]
            exact hpast
      | revoke other =>
          simp only [replay, Operation.after, usesLeft_revoke, usesOf, limitOf?]
          by_cases hname : name = other
          · rw [if_pos hname, if_pos hname.symm]
            rfl
          · rw [if_neg hname, if_neg (Ne.symm hname)]
            exact hpast
      | lookup other now zone =>
          rw [usesOf_lookup]
          simp only [replay, Operation.after]
          cases hnow : now.localize zone with
          | error f =>
              rw [seeks_eq_false hnow]
              exact hpast
          | ok t =>
              -- Only here the order counts: a grant dropped before would have run out by now.
              dsimp only
              rw [usesLeft_consume, expiry?_replay (h.until hnow), hpast]
              by_cases hseeks : seeks name other now zone past = true
              · obtain ⟨rfl, hinactive⟩ := (seeks_iff hnow _ _ _).1 hseeks
                rw [if_pos ⟨rfl, hinactive⟩, if_pos hseeks]
              · rw [if_neg hseeks, if_neg]
                rintro ⟨rfl, hinactive⟩
                exact hseeks ((seeks_iff hnow _ _ _).2 ⟨rfl, hinactive⟩)

theorem mem_standing_replay {past : History} {name : String} :
    name ∈ (replay past).standing ↔ Granted name past := by
  induction past with
  | nil => exact List.mem_nil_iff name
  | cons op past ih =>
      cases op with
      | grant other =>
          simp only [replay, Operation.after, Grants.grant, Granted, mem_insertName, ih,
            eq_comm (a := name)]
      | revoke other =>
          simp only [replay, Operation.after, Grants.revoke, Granted, List.mem_filter, ih,
            bne_iff_ne, ne_eq, eq_comm (a := name), and_comm]
      | clear => exact List.mem_nil_iff name
      | grantUses other uses => exact ih
      | grantUntil other x now zone =>
          simp only [replay, Operation.after, Granted]
          cases x.resolve zone now <;> exact ih
      | lookup other now zone =>
          simp only [replay, Operation.after, Granted]
          cases now.localize zone with
          | error f => exact ih
          | ok t =>
              rw [standing_consume]
              exact ih

theorem speaksFor_replay {past : History} {granted name : String} :
    (replay past).SpeaksFor granted name ↔ SpeaksFor granted name past := by
  simp only [Grants.SpeaksFor, SpeaksFor, mem_standing_replay]

theorem usesOf_eq_zero_iff {name : String} {past : History} :
    usesOf name past = 0 ↔ ¬ Unspent name past := by
  unfold usesOf Unspent
  cases limitOf? name past with
  | none => simp
  | some limit =>
      obtain ⟨uses, taken⟩ := limit
      simp only [Option.map_some, Option.getD_some, left, Option.some.injEq, Prod.mk.injEq]
      constructor
      · rintro h ⟨_, _, ⟨rfl, rfl⟩, hleft⟩
        omega
      · intro h
        have hleft : ¬ (taken : Int) < uses := fun hlt => h ⟨uses, taken, ⟨rfl, rfl⟩, hlt⟩
        omega

/-! ## Answers -/

theorem activeExpiry?_eq_some_iff {name : String} {t expiry : Timestamp} {past : History} :
    activeExpiry? name t past = some expiry ↔
      expiryOf? name past = some expiry ∧ t.instant < expiry.instant := by
  simp [activeExpiry?, Option.filter_eq_some_iff]

section

variable {t : Timestamp} {past : History} (horder : InOrder past) (hpast : Until t past)

include horder hpast

/-- A lookup answers what its history is to answer. -/
theorem answer_consume (name : String) :
    Answer name t past ((replay past).consume name t).1 := by
  have hexpiry := expiry?_replay hpast name
  have huses := usesLeft_replay horder name
  rcases consume_cases name t (replay past) with ⟨expiry, hactive, hconsume⟩ |
    ⟨n, hinactive, hleft, hconsume⟩ | ⟨hinactive, hspent, hconsume⟩
  · rw [hexpiry] at hactive
    obtain ⟨hgranted, hlater⟩ := activeExpiry?_eq_some_iff.1 hactive
    rw [hconsume]
    exact .temporary hgranted hlater
  · rw [hexpiry] at hinactive
    rw [huses, usesOf] at hleft
    cases hlimit : limitOf? name past with
    | none => simp [hlimit] at hleft
    | some limit =>
        obtain ⟨uses, taken⟩ := limit
        simp only [hlimit, Option.map_some, Option.getD_some, left] at hleft
        have hrest : (n : Int) = uses - taken - 1 := by omega
        rw [hconsume, hrest]
        exact .limited hinactive hlimit (by omega)
  · rw [hexpiry] at hinactive
    rw [huses, usesOf_eq_zero_iff] at hspent
    rw [hconsume, standingMatch?]
    cases hcover : (replay past).standingCover? name with
    | some granted =>
        exact .standing hinactive hspent
          (speaksFor_replay.1 (standingCover?_eq_some_iff.1 hcover))
    | none =>
        refine .none hinactive hspent fun granted hgranted hcovers => ?_
        exact standingCover?_eq_none_iff.1 hcover
          ⟨granted, mem_standing_replay.2 hgranted, hcovers⟩

/-- There is one answer that a history is to give. -/
theorem consume_of_answer {name : String} {m : Option GrantMatch} (h : Answer name t past m) :
    ((replay past).consume name t).1 = m := by
  have hexpiry := expiry?_replay hpast name
  have huses := usesLeft_replay horder name
  cases h with
  | temporary granted active =>
      rw [consume_of_expiry (hexpiry.trans (activeExpiry?_eq_some_iff.2 ⟨granted, active⟩))]
  | @limited uses taken inactive granted unspent =>
      obtain ⟨n, hn⟩ : ∃ n : Nat, uses - taken - 1 = n := Int.eq_ofNat_of_zero_le (by omega)
      have hleft : (replay past).usesLeft name = n + 1 := by
        rw [huses, usesOf, granted, Option.map_some, Option.getD_some, left]
        omega
      rw [consume_of_usesLeft (hexpiry.trans inactive) hleft, hn]
  | standing inactive spent speaks =>
      have hspent := huses.trans (usesOf_eq_zero_iff.2 spent)
      have hcover := standingCover?_eq_some_iff.2 (speaksFor_replay.2 speaks)
      rw [consume_of_no_uses (hexpiry.trans inactive) hspent, standingMatch?, hcover]
      rfl
  | none inactive spent uncovered =>
      have hspent := huses.trans (usesOf_eq_zero_iff.2 spent)
      have hcover : (replay past).standingCover? name = none := by
        refine standingCover?_eq_none_iff.2 ?_
        rintro ⟨granted, hmem, hcovers⟩
        exact uncovered granted (mem_standing_replay.1 hmem) hcovers
      rw [consume_of_no_uses (hexpiry.trans inactive) hspent, standingMatch?, hcover]
      rfl

theorem consume_eq_iff (name : String) (m : Option GrantMatch) :
    ((replay past).consume name t).1 = m ↔ Answer name t past m := by
  constructor
  · rintro rfl
    exact answer_consume horder hpast name
  · exact consume_of_answer horder hpast

end

/-! ## Lookups that leave no trace -/

/-- Two histories grant the same. -/
structure Alike (past past' : History) : Prop where
  expiry : ∀ name, expiryOf? name past = expiryOf? name past'
  limit : ∀ name, limitOf? name past = limitOf? name past'
  granted : ∀ name, Granted name past ↔ Granted name past'

theorem Alike.activeExpiry? {past past' : History} (h : Alike past past') (name : String)
    (t : Timestamp) : activeExpiry? name t past = activeExpiry? name t past' := by
  rw [History.activeExpiry?, h.expiry name, ← History.activeExpiry?]

theorem Alike.seeks {past past' : History} (h : Alike past past') (name other : String)
    (now : Timestamp) (zone : Int) :
    seeks name other now zone past = seeks name other now zone past' := by
  simp only [History.seeks, h.activeExpiry?]

/-- Histories that grant the same go on to do so. -/
theorem Alike.cons {past past' : History} (h : Alike past past') (op : Operation) :
    Alike (op :: past) (op :: past') := by
  constructor
  · intro name
    cases op <;> simp only [expiryOf?, h.expiry]
  · intro name
    cases op <;> simp only [limitOf?, h.limit, h.seeks]
  · intro name
    cases op <;> simp only [Granted, h.granted]

theorem Alike.append {past past' : History} (h : Alike past past') (newer : History) :
    Alike (newer ++ past) (newer ++ past') := by
  induction newer with
  | nil => exact h
  | cons op newer ih => exact ih.cons op

theorem Alike.answer {past past' : History} (h : Alike past past') {name : String}
    {t : Timestamp} {m : Option GrantMatch} (hanswer : Answer name t past m) :
    Answer name t past' m := by
  have hactive := h.activeExpiry? name t
  have hunspent : Unspent name past ↔ Unspent name past' := by
    simp only [Unspent, h.limit name]
  cases hanswer with
  | temporary granted active => exact .temporary (h.expiry name ▸ granted) active
  | limited inactive granted unspent =>
      exact .limited (hactive ▸ inactive) (h.limit name ▸ granted) unspent
  | standing inactive spent speaks =>
      refine .standing (hactive ▸ inactive) (fun hleft => spent (hunspent.2 hleft)) ?_
      simpa only [SpeaksFor, h.granted] using speaks
  | none inactive spent uncovered =>
      refine .none (hactive ▸ inactive) (fun hleft => spent (hunspent.2 hleft)) ?_
      intro granted hgranted
      exact uncovered granted ((h.granted granted).2 hgranted)

/-- A lookup that no limited grant approves leaves what its history grants. -/
theorem alike_of_not_limited {other : String} {now : Timestamp} {zone : Int} {older : History}
    (horder : InOrder (.lookup other now zone :: older))
    (hreply : ∀ rest, (Operation.lookup other now zone).reply (replay older) ≠
      some (.limited rest)) :
    Alike (.lookup other now zone :: older) older := by
  refine ⟨fun name => rfl, fun name => ?_, fun name => Iff.rfl⟩
  rw [limitOf?]
  split
  · rename_i hseeks
    cases hlimit : limitOf? name older with
    | none => rfl
    | some limit =>
        obtain ⟨uses, taken⟩ := limit
        rw [Option.map_some, takeUse, if_neg]
        intro hleft
        cases hnow : now.localize zone with
        | error f =>
            rw [seeks_eq_false hnow] at hseeks
            cases hseeks
        | ok t =>
            obtain ⟨rfl, hinactive⟩ := (seeks_iff hnow _ _ _).1 hseeks
            have hanswer : Answer other t older (some (.limited (uses - taken - 1))) :=
              .limited hinactive hlimit hleft
            refine hreply (uses - taken - 1) ?_
            simp only [Operation.reply, hnow]
            exact (consume_eq_iff horder.tail (horder.until hnow) other _).2 hanswer
  · rfl

/-- A number of seconds after the start of the calendar. -/
def second (n : Nat) : Timestamp :=
  { wall := n * 1000000, offset := some 0 }

/-- One call, calls for a second, and calls of anything below. -/
def callHistory : History :=
  [.grantUses "api.call" 1, .grantUntil "api.call" (.after 1000000) (second 0) 0, .grant "api"]

end History

end Clearance.Grants
