import Clearance.AuditLog

/-!
# What a log keeps

A log and the operations that are made on it.  Whatever is trimmed or cleared, the entries that are
there are the newest of those that came in since the last clearing, and those that are not there any
more were counted when they were dropped.
-/

namespace Clearance.AuditLog

/-- What is done to a log. -/
inductive Operation where
  | append (d : Decision)
  | trim (keep : Int)
  | clear

namespace Operation

/-- The log after an operation. -/
def after (op : Operation) (l : AuditLog) : AuditLog :=
  match op with
  | .append d => l.append d.entry
  | .trim keep => l.trim keep
  | .clear => {}

/-- How many entries an operation drops. -/
def drops (op : Operation) (l : AuditLog) : Nat :=
  match op with
  | .append _ => 0
  | .trim keep => l.excess keep
  | .clear => l.size

end Operation

/-- The operations so far, the newest first. -/
abbrev History := List Operation

/-- The log that a history leaves. -/
def replay : History -> AuditLog
  | [] => {}
  | op :: past => op.after (replay past)

namespace History

/-- The decisions that came in since the last clearing, the oldest first. -/
def recent : History -> List Decision
  | [] => []
  | .append d :: past => recent past ++ [d]
  | .trim _ :: past => recent past
  | .clear :: _ => []

/-- How many decisions ever came in. -/
def appended : History -> Nat
  | [] => 0
  | .append _ :: past => appended past + 1
  | _ :: past => appended past

/-- How many entries were ever dropped. -/
def dropped : History -> Nat
  | [] => 0
  | op :: past => dropped past + op.drops (replay past)

end History

open History (recent appended dropped)

/-! ## A trim -/

theorem size_trim_add_excess (keep : Int) (l : AuditLog) :
    (l.trim keep).size + l.excess keep = l.size := by
  rw [size_trim, excess]
  omega

theorem trim_suffix (keep : Int) (l : AuditLog) : (l.trim keep).entries <:+ l.entries :=
  List.drop_suffix _ _

/-- What a trim drops and keeps. -/
structure Trimmed (keep : Int) (l : AuditLog) : Prop where
  dropped : (l.excess keep : Int) = max (l.size - max keep 0) 0
  newest : (l.trim keep).entries <:+ l.entries
  size : ((l.trim keep).size : Int) = min (l.size : Int) (max keep 0)

theorem trimmed (keep : Int) (l : AuditLog) : Trimmed keep l where
  dropped := by
    rw [excess]
    omega
  newest := trim_suffix keep l
  size := by
    rw [size_trim]
    omega

/-- Two trims drop as many entries as the one that keeps fewer. -/
theorem excess_add_excess_trim (a b : Int) (l : AuditLog) :
    l.excess a + (l.trim a).excess b = l.excess (min a b) := by
  rw [excess, excess, excess, size_trim]
  omega

theorem trim_trim (a b : Int) (l : AuditLog) : (l.trim a).trim b = l.trim (min a b) := by
  have hdrop : (l.entries.drop (l.excess a)).drop ((l.trim a).excess b) =
      l.entries.drop (l.excess (min a b)) := by
    rw [List.drop_drop, excess_add_excess_trim]
  exact congrArg AuditLog.mk hdrop

/-! ## The outcomes -/

/-- The granted and the denied entries are parts of a log, in its order, and make it up. -/
structure Parted (l : AuditLog) : Prop where
  ordered : ∀ f, (l.select (some f)).Sublist (l.select none)
  outcome : ∀ f, ∀ e ∈ l.select (some f), e.result.granted = (f == .granted)
  whole : (l.select (some .granted) ++ l.select (some .denied)).Perm (l.select none)

theorem accepts_denied (e : AuditEntry) :
    AuditFilter.denied.accepts e = !AuditFilter.granted.accepts e := by
  unfold AuditFilter.accepts
  cases e.result.granted <;> rfl

theorem parted (l : AuditLog) : Parted l where
  ordered := fun _ => List.filter_sublist
  outcome := fun _ _ he => eq_of_beq (List.mem_filter.1 he).2
  whole := by
    have hdenied : l.select (some .denied) =
        l.entries.filter fun e => !AuditFilter.granted.accepts e :=
      List.filter_congr fun e _ => accepts_denied e
    rw [hdenied]
    exact List.filter_append_perm _ l.entries

/-! ## Runs -/

/-- What is true of the log that a history leaves. -/
structure Kept (past : History) (l : AuditLog) : Prop where
  /-- The entries are the newest since the last clearing. -/
  newest : l.select none <:+ past.recent.map Decision.entry
  /-- Whatever came in is there or was dropped. -/
  balance : past.appended = l.size + past.dropped

/-- An operation keeps what is true of a log. -/
theorem Kept.after {past : History} (h : Kept past (replay past)) (op : Operation) :
    Kept (op :: past) (op.after (replay past)) := by
  have hbalance := h.balance
  cases op with
  | append d =>
      constructor
      case newest =>
        obtain ⟨older, hrecent⟩ := h.newest
        refine ⟨older, ?_⟩
        rw [recent, List.map_append, ← hrecent, List.append_assoc]
        rfl
      case balance =>
        simp only [appended, dropped, Operation.after, Operation.drops, size_append]
        omega
  | trim keep =>
      constructor
      case newest => exact (trim_suffix keep (replay past)).trans h.newest
      case balance =>
        have hsplit := size_trim_add_excess keep (replay past)
        simp only [appended, dropped, Operation.after, Operation.drops]
        omega
  | clear =>
      constructor
      case newest => exact List.suffix_refl _
      case balance =>
        have hempty : size {} = 0 := rfl
        simp only [appended, dropped, Operation.after, Operation.drops, hempty]
        omega

theorem kept_replay (past : History) : Kept past (replay past) := by
  induction past with
  | nil => exact ⟨List.suffix_refl _, rfl⟩
  | cons op past ih => exact ih.after op

/--
The log that a history leaves holds the newest entries since the last clearing, and no entry is lost
uncounted.  A trim keeps the newest entries and tells how many it drops, two trims are one, and the
granted and the denied entries make up the log.
-/
theorem replay_keeps_newest (past : History) :
    Kept past (replay past) ∧ (∀ keep, Trimmed keep (replay past)) ∧
      (∀ a b, ((replay past).trim a).trim b = (replay past).trim (min a b) ∧
        (replay past).excess a + ((replay past).trim a).excess b =
          (replay past).excess (min a b)) ∧
      Parted (replay past) :=
  ⟨kept_replay past, fun keep => trimmed keep _,
    fun a b => ⟨trim_trim a b _, excess_add_excess_trim a b _⟩, parted _⟩

end Clearance.AuditLog
