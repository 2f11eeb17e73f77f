import Clearance.Proofs.Policy.Reads
import Clearance.Proofs.Time.Minute

/-!
# Time windows

A condition on the time compares texts.  Between two times that are written with two digits each it
holds in the minutes from the first to the second, around midnight if the first is the later one.
Any other pair of texts is a window too: it is open in the minutes whose texts lie between them in
the order of texts.  A value that is no pair is a window that is never open.
-/

namespace Clearance

open Time

/-- A minute lies in the closed interval from one minute of the day to another, around midnight. -/
def Time.Within (start stop minute : Nat) : Prop :=
  (start ≤ stop -> start ≤ minute ∧ minute ≤ stop) ∧
    (stop < start -> start ≤ minute ∨ minute ≤ stop)

/-- A pair of times of day, each written with two digits for the hour and two for the minute. -/
def Operand.IsPeriod (operand : Operand) : Prop :=
  ∃ start stop, start < minutesPerDay ∧ stop < minutesPerDay ∧
    operand = .anyOf [minuteText start, minuteText stop]

/-- The minutes that two texts have between them, or outside them if the first is the later. -/
inductive Operand.Spans : Operand -> Nat -> Prop where
  | between {start stop : String} {minute : Nat} (start_le : start ≤ minuteText minute)
      (le_stop : minuteText minute ≤ stop) : Spans (.anyOf [start, stop]) minute
  | since {start stop : String} {minute : Nat} (wraps : stop < start)
      (start_le : start ≤ minuteText minute) : Spans (.anyOf [start, stop]) minute
  | till {start stop : String} {minute : Nat} (wraps : stop < start)
      (le_stop : minuteText minute ≤ stop) : Spans (.anyOf [start, stop]) minute

theorem Operand.Spans.exists_pair {operand : Operand} {minute : Nat} (h : operand.Spans minute) :
    ∃ start stop, operand = .anyOf [start, stop] := by
  cases h <;> exact ⟨_, _, rfl⟩

namespace Operator

theorem atMost_iff {s t : String} : atMost s t = true ↔ s ≤ t := by
  rw [atMost, Bool.not_eq_true', decide_eq_false_iff_not, String.not_lt]

theorem inWindow_iff {start stop : String} {minute : Nat} :
    inWindow start stop (minuteText minute) = true ↔
      (Operand.anyOf [start, stop]).Spans minute := by
  unfold inWindow
  split
  · rename_i hwraps
    rw [Bool.or_eq_true, atMost_iff, atMost_iff]
    constructor
    · rintro (hstart | hstop)
      · exact .since hwraps hstart
      · exact .till hwraps hstop
    · intro h
      cases h with
      | between hstart hstop => exact .inl hstart
      | since _ hstart => exact .inl hstart
      | till _ hstop => exact .inr hstop
  · rename_i hforward
    rw [Bool.and_eq_true, atMost_iff, atMost_iff]
    constructor
    · rintro ⟨hstart, hstop⟩
      exact .between hstart hstop
    · intro h
      cases h with
      | between hstart hstop => exact ⟨hstart, hstop⟩
      | since hwraps => exact absurd hwraps hforward
      | till hwraps => exact absurd hwraps hforward

end Operator

theorem Operand.spans_minuteText_iff {start stop minute : Nat} (hstart : start < minutesPerDay)
    (hstop : stop < minutesPerDay) (hminute : minute < minutesPerDay) :
    (anyOf [minuteText start, minuteText stop]).Spans minute ↔ Within start stop minute := by
  unfold Within
  constructor
  · intro h
    cases h with
    | between hafter hbefore =>
        rw [minuteText_le_iff hstart hminute] at hafter
        rw [minuteText_le_iff hminute hstop] at hbefore
        omega
    | since hwraps hafter =>
        rw [minuteText_lt_iff hstop hstart] at hwraps
        rw [minuteText_le_iff hstart hminute] at hafter
        omega
    | till hwraps hbefore =>
        rw [minuteText_lt_iff hstop hstart] at hwraps
        rw [minuteText_le_iff hminute hstop] at hbefore
        omega
  · rintro ⟨hforward, hwrapped⟩
    rcases Nat.lt_or_ge stop start with hwraps | hle
    · have hwraps' := (minuteText_lt_iff hstop hstart).2 hwraps
      rcases hwrapped hwraps with hafter | hbefore
      · exact .since hwraps' ((minuteText_le_iff hstart hminute).2 hafter)
      · exact .till hwraps' ((minuteText_le_iff hminute hstop).2 hbefore)
    · obtain ⟨hafter, hbefore⟩ := hforward hle
      exact .between ((minuteText_le_iff hstart hminute).2 hafter)
        ((minuteText_le_iff hminute hstop).2 hbefore)

namespace Condition

variable {c : Circumstances} {condition : Condition}

/-- A condition that compares the time of day with the ends of a window. -/
structure IsWindow (condition : Condition) : Prop where
  clock : condition.ReadsClock
  operator : condition.operator = .between

theorem resolve_of_readsClock (h : condition.ReadsClock) :
    c.resolve condition = .ok c.now.timeOfDay := by
  obtain ⟨hunkeyed, hkind⟩ := h
  have hkey : condition.contextKey.filter (· != "") = none :=
    Option.filter_eq_none_iff.2 fun key hgiven => by simpa using hunkeyed key hgiven
  simp [Circumstances.resolve, hkey, hkind, resourceKinds, timeKind]

/-- A window is open in the minutes that it spans. -/
theorem holds_iff_spans (h : condition.IsWindow) (c : Circumstances) :
    ∃ answer, condition.holds c = .ok answer ∧
      (answer = true ↔ condition.operand.Spans c.now.minuteOfDay) := by
  unfold holds
  rw [resolve_of_readsClock h.clock]
  dsimp only
  rw [Operator.compare, h.operator]
  dsimp only
  split
  · rename_i start stop hoperand
    rw [Timestamp.take_timeOfDay, h.clock.2, hoperand]
    exact ⟨_, rfl, Operator.inWindow_iff⟩
  · rename_i hother
    refine ⟨false, rfl, ?_⟩
    constructor
    · intro hfalse
      cases hfalse
    · intro hspans
      obtain ⟨start, stop, hoperand⟩ := hspans.exists_pair
      exact absurd hoperand (hother start stop)

theorem holds_eq_true_iff (h : condition.IsWindow) (c : Circumstances) :
    condition.holds c = .ok true ↔ condition.operand.Spans c.now.minuteOfDay := by
  obtain ⟨answer, hanswer, hspans⟩ := holds_iff_spans h c
  rw [hanswer, ← hspans, Except.ok.injEq]

theorem holds_eq_false_iff (h : condition.IsWindow) (c : Circumstances) :
    condition.holds c = .ok false ↔ ¬ condition.operand.Spans c.now.minuteOfDay := by
  obtain ⟨answer, hanswer, hspans⟩ := holds_iff_spans h c
  rw [hanswer, ← hspans, Except.ok.injEq, Bool.not_eq_true]

/--
A window between two well-formed times holds in the minutes of the closed interval from the first
to the second, around midnight if the first is later.  Nothing of a timestamp matters but its
minute, and a window from a time to itself is open for that minute alone.
-/
theorem period_holds_iff_within {start stop : Nat} (hstart : start < minutesPerDay)
    (hstop : stop < minutesPerDay) (h : condition.IsWindow)
    (hperiod : condition.operand = .anyOf [minuteText start, minuteText stop])
    (c : Circumstances) :
    (∃ answer, condition.holds c = .ok answer ∧
      (answer = true ↔ Within start stop c.now.minuteOfDay)) ∧
    (∀ c' : Circumstances, c'.now.minuteOfDay = c.now.minuteOfDay ->
      condition.holds c' = condition.holds c) ∧
    (start = stop -> (condition.holds c = .ok true ↔ c.now.minuteOfDay = start)) := by
  have hwithin := Operand.spans_minuteText_iff hstart hstop c.now.minuteOfDay_lt
  rw [← hperiod] at hwithin
  obtain ⟨answer, hanswer, hspans⟩ := holds_iff_spans h c
  refine ⟨⟨answer, hanswer, hspans.trans hwithin⟩, ?_, ?_⟩
  · intro c' hminute
    obtain ⟨answer', hanswer', hspans'⟩ := holds_iff_spans h c'
    rw [hminute, ← hspans] at hspans'
    rw [hanswer, hanswer', Bool.eq_iff_iff.2 hspans']
  · rintro rfl
    rw [holds_eq_true_iff h, hwithin]
    unfold Within
    omega

/-- A night from ten to six is still open in the last second before midnight. -/
theorem period_holds_iff_within_night :
    let night : Condition :=
      { kind := "time", operator := .between, operand := .anyOf ["22:00", "06:00"] }
    let c : Circumstances := { context := [], now := { wall := 86399999999, offset := none } }
    night.IsWindow ∧ night.operand = .anyOf [minuteText 1320, minuteText 360] ∧
      Within 1320 360 c.now.minuteOfDay ∧ night.holds c = .ok true := by
  intro night c
  have hwindow : night.IsWindow := ⟨⟨nofun, rfl⟩, rfl⟩
  have hperiod : night.operand = .anyOf [minuteText 1320, minuteText 360] := by decide
  have hwithin : Within 1320 360 c.now.minuteOfDay := by
    unfold Within
    decide
  obtain ⟨⟨answer, hanswer, hiff⟩, -, -⟩ :=
    period_holds_iff_within (by decide) (by decide) hwindow hperiod c
  rw [hiff.2 hwithin] at hanswer
  exact ⟨hwindow, hperiod, hwithin, hanswer⟩

/-- Some timestamp shows each minute of the day. -/
theorem exists_circumstances {minute : Nat} (h : minute < minutesPerDay) :
    ∃ c : Circumstances, c.now.minuteOfDay = minute := by
  refine ⟨{ context := [], now := { wall := minute * (60 * microsPerSecond), offset := none } }, ?_⟩
  unfold minutesPerDay at h
  simp only [Timestamp.minuteOfDay, microsPerDay, microsPerSecond]
  omega

/--
A window never holds if and only if it is not a pair of well-formed times and no minute of the day
lies between its texts.  So it never holds if it is no pair at all.
-/
theorem window_never_holds_iff (h : condition.IsWindow) :
    ((∀ c, condition.holds c = .ok false) ↔
      ¬ condition.operand.IsPeriod ∧
        ∀ minute < minutesPerDay, ¬ condition.operand.Spans minute) ∧
    ((∀ start stop, condition.operand ≠ .anyOf [start, stop]) ->
      ∀ c, condition.holds c = .ok false) := by
  refine ⟨⟨fun hnever => ?_, ?_⟩, fun hsingle c => ?_⟩
  · have hclosed : ∀ minute < minutesPerDay, ¬ condition.operand.Spans minute := by
      intro minute hminute
      obtain ⟨c, rfl⟩ := exists_circumstances hminute
      exact (holds_eq_false_iff h c).1 (hnever c)
    refine ⟨?_, hclosed⟩
    rintro ⟨start, stop, hstart, hstop, hoperand⟩
    apply hclosed start hstart
    rw [hoperand, Operand.spans_minuteText_iff hstart hstop hstart]
    unfold Within
    omega
  · rintro ⟨-, hclosed⟩ c
    exact (holds_eq_false_iff h c).2 (hclosed _ c.now.minuteOfDay_lt)
  · rw [holds_eq_false_iff h]
    intro hspans
    obtain ⟨start, stop, hoperand⟩ := hspans.exists_pair
    exact hsingle start stop hoperand

theorem length_minuteText (minute : Nat) : (minuteText minute).toList.length = 5 := by
  rw [minuteText, String.toList_ofList]
  rfl

/-- A pair whose first text is not as long as a time of day is none of times. -/
theorem not_isPeriod_of_length {start stop : String} (h : start.toList.length ≠ 5) :
    ¬ (Operand.anyOf [start, stop]).IsPeriod := by
  rintro ⟨first, last, -, -, hoperand⟩
  have hstart : start = minuteText first := by
    simp only [Operand.anyOf.injEq, List.cons.injEq] at hoperand
    exact hoperand.1
  rw [hstart, length_minuteText] at h
  exact h rfl

/-- Hours of one digit sort behind all times of day. -/
theorem window_never_holds_iff_late :
    let late : Condition :=
      { kind := "time", operator := .between, operand := .anyOf ["9:00", "9:30"] }
    late.IsWindow ∧ ¬ late.operand.IsPeriod ∧ ∀ c, late.holds c = .ok false := by
  intro late
  have hwindow : late.IsWindow := ⟨⟨nofun, rfl⟩, rfl⟩
  have hirregular : ¬ late.operand.IsPeriod := not_isPeriod_of_length (by decide)
  have hclosed : ∀ minute < minutesPerDay, ¬ late.operand.Spans minute := by
    intro minute hminute hspans
    have hlast : minuteText minute ≤ "23:59" :=
      (@minuteText_le_iff minute 1439 hminute (by decide)).2 (Nat.le_of_lt_succ hminute)
    cases hspans with
    | between hafter => exact absurd (String.le_trans hafter hlast) (by decide)
    | since hwraps => exact absurd hwraps (by decide)
    | till hwraps => exact absurd hwraps (by decide)
  exact ⟨hwindow, hirregular, (window_never_holds_iff hwindow).1.2 ⟨hirregular, hclosed⟩⟩

/-- A window from nine to five with hours of one digit is open at three in the night. -/
theorem malformed_window_holds :
    let office : Condition :=
      { kind := "time", operator := .between, operand := .anyOf ["9:00", "17:00"] }
    let c : Circumstances := { context := [], now := { wall := 10800000000, offset := none } }
    office.IsWindow ∧ ¬ office.operand.IsPeriod ∧ office.holds c = .ok true := by
  intro office c
  have hwindow : office.IsWindow := ⟨⟨nofun, rfl⟩, rfl⟩
  refine ⟨hwindow, not_isPeriod_of_length (by decide), (holds_eq_true_iff hwindow c).2 ?_⟩
  exact .till (by decide) (by decide)

end Condition

end Clearance
