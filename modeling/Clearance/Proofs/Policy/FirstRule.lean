import Clearance.Policy.Match
import Clearance.Proofs.Policy.Coverage

/-!
# The first rule that applies

A rule applies, is skipped, or fails.  It applies when it covers the name and all its conditions
hold; it is skipped when it does not cover the name, or one condition does not hold and those
before it do; it fails when one condition has no answer and those before it hold.  A policy is
decided by its first rule that is not skipped.
-/

namespace Clearance

/-- Answers can be compared without their faults. -/
theorem ConditionFault.eq_ok_of_toOption {α : Type} {answer : Except ConditionFault α} {a : α}
    (h : answer.toOption = some a) : answer = .ok a := by
  cases answer with
  | ok b => exact congrArg Except.ok (Option.some.inj h)
  | error fault => cases h

namespace Condition

theorem allHold_eq_true_iff {c : Circumstances} {conditions : List Condition} :
    allHold c conditions = .ok true ↔ ∀ condition ∈ conditions, condition.holds c = .ok true := by
  induction conditions with
  | nil => simp [allHold]
  | cons condition rest ih =>
      unfold allHold
      rcases hholds : condition.holds c with fault | (_ | _) <;> simp [hholds, ih]

/-- Conditions in order, of which one gives an answer and those before it hold. -/
def Stops (c : Circumstances) (answer : Except ConditionFault Bool)
    (conditions : List Condition) : Prop :=
  ∃ before condition after, conditions = before ++ condition :: after ∧
    (∀ earlier ∈ before, earlier.holds c = .ok true) ∧ condition.holds c = answer

theorem stops_cons_of_holds {c : Circumstances} {answer : Except ConditionFault Bool}
    {condition : Condition} {rest : List Condition} (hholds : condition.holds c = .ok true)
    (hanswer : answer ≠ .ok true) : Stops c answer (condition :: rest) ↔ Stops c answer rest := by
  constructor
  · rintro ⟨before, stopping, after, hsplit, hbefore, hstop⟩
    cases before with
    | nil =>
        obtain ⟨rfl, -⟩ := List.cons.inj hsplit
        exact absurd (hstop.symm.trans hholds) hanswer
    | cons first before =>
        obtain ⟨-, hrest⟩ := List.cons.inj hsplit
        exact ⟨before, stopping, after, hrest,
          fun earlier hmem => hbefore earlier (List.mem_cons_of_mem _ hmem), hstop⟩
  · rintro ⟨before, stopping, after, rfl, hbefore, hstop⟩
    refine ⟨condition :: before, stopping, after, rfl, ?_, hstop⟩
    intro earlier hmem
    rcases List.mem_cons.1 hmem with rfl | hmem
    · exact hholds
    · exact hbefore earlier hmem

theorem stops_cons_of_not_holds {c : Circumstances} {answer : Except ConditionFault Bool}
    {condition : Condition} {rest : List Condition} (hholds : condition.holds c ≠ .ok true) :
    Stops c answer (condition :: rest) ↔ condition.holds c = answer := by
  constructor
  · rintro ⟨before, stopping, after, hsplit, hbefore, hstop⟩
    cases before with
    | nil =>
        obtain ⟨rfl, -⟩ := List.cons.inj hsplit
        exact hstop
    | cons first before =>
        obtain ⟨rfl, -⟩ := List.cons.inj hsplit
        exact absurd (hbefore _ List.mem_cons_self) hholds
  · exact fun h => ⟨[], condition, rest, rfl, fun _ hmem => absurd hmem List.not_mem_nil, h⟩

/-- Conditions that do not all hold give the answer of the first that does not. -/
theorem allHold_eq_iff_stops {c : Circumstances} {answer : Except ConditionFault Bool}
    {conditions : List Condition} (hanswer : answer ≠ .ok true) :
    allHold c conditions = answer ↔ Stops c answer conditions := by
  induction conditions with
  | nil => simp [allHold, Stops, Ne.symm hanswer]
  | cons condition rest ih =>
      unfold allHold
      rcases hholds : condition.holds c with fault | (_ | _)
      · rw [stops_cons_of_not_holds (by simp [hholds]), hholds]
      · rw [stops_cons_of_not_holds (by simp [hholds]), hholds]
      · rw [stops_cons_of_holds hholds hanswer]
        exact ih

end Condition

namespace Rule

/-- A rule covers the name and all its conditions hold. -/
def Applies (c : Circumstances) (name : String) (r : Rule) : Prop :=
  Pattern.RuleCovers r.pattern name ∧ ∀ condition ∈ r.conditions, condition.holds c = .ok true

/-- A rule does not cover the name, or its conditions come to one that does not hold. -/
def Skipped (c : Circumstances) (name : String) (r : Rule) : Prop :=
  ¬ Pattern.RuleCovers r.pattern name ∨ Condition.Stops c (.ok false) r.conditions

/-- A rule covers the name and its conditions come to one without an answer. -/
def Fails (c : Circumstances) (name : String) (fault : ConditionFault) (r : Rule) : Prop :=
  Pattern.RuleCovers r.pattern name ∧ Condition.Stops c (.error fault) r.conditions

variable {c : Circumstances} {name : String} {r : Rule}

theorem applies_eq_true_iff : r.applies c name = .ok true ↔ r.Applies c name := by
  unfold applies Applies
  rw [← Pattern.covers_iff, ← Condition.allHold_eq_true_iff]
  split <;> simp [*]

theorem applies_eq_false_iff : r.applies c name = .ok false ↔ r.Skipped c name := by
  unfold applies Skipped
  rw [← Pattern.covers_iff, ← Condition.allHold_eq_iff_stops (by simp)]
  split <;> simp [*]

theorem applies_eq_error_iff {fault : ConditionFault} :
    r.applies c name = .error fault ↔ r.Fails c name fault := by
  unfold applies Fails
  rw [← Pattern.covers_iff, ← Condition.allHold_eq_iff_stops (by simp)]
  split <;> simp [*]

end Rule

namespace Policy

variable {c : Circumstances} {name : String}

/-- A rule is the first in a list that is not skipped, and has so many before it. -/
def Reaches (c : Circumstances) (name : String) (rules : List Rule) (index : Nat)
    (rule : Rule) : Prop :=
  rules[index]? = some rule ∧
    ∀ (j : Nat) (earlier : Rule), j < index -> rules[j]? = some earlier -> earlier.Skipped c name

theorem reaches_zero {rule first : Rule} {rest : List Rule} :
    Reaches c name (first :: rest) 0 rule ↔ first = rule := by
  simp [Reaches]

theorem reaches_succ {rule first : Rule} {rest : List Rule} {index : Nat} :
    Reaches c name (first :: rest) (index + 1) rule ↔
      first.Skipped c name ∧ Reaches c name rest index rule := by
  unfold Reaches
  constructor
  · rintro ⟨hget, hearlier⟩
    refine ⟨hearlier 0 first (by omega) rfl, by simpa using hget, ?_⟩
    intro j earlier hj hjget
    exact hearlier (j + 1) earlier (by omega) (by simpa using hjget)
  · rintro ⟨hfirst, hget, hearlier⟩
    refine ⟨by simpa using hget, ?_⟩
    intro j earlier hj hjget
    cases j with
    | zero =>
        cases hjget
        exact hfirst
    | succ j => exact hearlier j earlier (by omega) (by simpa using hjget)

theorem firstMatch_cons (index : Nat) (rule : Rule) (rest : List Rule) :
    firstMatch c name index (rule :: rest) =
      match rule.applies c name with
      | .error fault => .error fault
      | .ok true => .ok (some { rule, index })
      | .ok false => firstMatch c name (index + 1) rest := rfl

theorem firstMatch_of_skipped {rules : List Rule} (h : ∀ rule ∈ rules, rule.Skipped c name)
    (index : Nat) : firstMatch c name index rules = .ok none := by
  induction rules generalizing index with
  | nil => rfl
  | cons rule rest ih =>
      obtain ⟨hrule, hrest⟩ := List.forall_mem_cons.1 h
      rw [firstMatch_cons, Rule.applies_eq_false_iff.2 hrule]
      exact ih hrest (index + 1)

theorem firstMatch_of_applies {rules : List Rule} {i : Nat} {rule : Rule}
    (hreach : Reaches c name rules i rule) (h : rule.Applies c name) (index : Nat) :
    firstMatch c name index rules = .ok (some { rule, index := index + i }) := by
  induction rules generalizing index i with
  | nil => simp [Reaches] at hreach
  | cons first rest ih =>
      cases i with
      | zero =>
          obtain rfl := reaches_zero.1 hreach
          rw [firstMatch_cons, Rule.applies_eq_true_iff.2 h]
          rfl
      | succ i =>
          obtain ⟨hfirst, hrest⟩ := reaches_succ.1 hreach
          rw [firstMatch_cons, Rule.applies_eq_false_iff.2 hfirst]
          have hindex : index + 1 + i = index + (i + 1) := by omega
          rw [← hindex]
          exact ih hrest (index + 1)

theorem firstMatch_of_fails {rules : List Rule} {i : Nat} {rule : Rule} {fault : ConditionFault}
    (hreach : Reaches c name rules i rule) (h : rule.Fails c name fault) (index : Nat) :
    firstMatch c name index rules = .error fault := by
  induction rules generalizing index i with
  | nil => simp [Reaches] at hreach
  | cons first rest ih =>
      cases i with
      | zero =>
          obtain rfl := reaches_zero.1 hreach
          rw [firstMatch_cons, Rule.applies_eq_error_iff.2 h]
      | succ i =>
          obtain ⟨hfirst, hrest⟩ := reaches_succ.1 hreach
          rw [firstMatch_cons, Rule.applies_eq_false_iff.2 hfirst]
          exact ih hrest (index + 1)

/-- The rule that is found applies. -/
theorem applies_of_firstMatch {index : Nat} {rules : List Rule} {m : RuleMatch}
    (h : firstMatch c name index rules = .ok (some m)) : m.rule.Applies c name := by
  induction rules generalizing index with
  | nil => cases h
  | cons rule rest ih =>
      rw [firstMatch_cons] at h
      rcases happlies : rule.applies c name with fault | (_ | _) <;> rw [happlies] at h
      · cases h
      · exact ih h
      · cases h
        exact Rule.applies_eq_true_iff.1 happlies

/-- All rules are skipped, or one that applies or fails is the first that is not. -/
theorem skipped_or_reaches (c : Circumstances) (name : String) (rules : List Rule) :
    (∀ rule ∈ rules, rule.Skipped c name) ∨
    ∃ i rule, Reaches c name rules i rule ∧
      (rule.Applies c name ∨ ∃ fault, rule.Fails c name fault) := by
  induction rules with
  | nil => exact .inl fun _ hmem => absurd hmem List.not_mem_nil
  | cons first rest ih =>
      rcases happlies : first.applies c name with fault | (_ | _)
      · exact .inr ⟨0, first, reaches_zero.2 rfl,
          .inr ⟨fault, Rule.applies_eq_error_iff.1 happlies⟩⟩
      · have hfirst := Rule.applies_eq_false_iff.1 happlies
        rcases ih with hrest | ⟨i, rule, hreach, hrule⟩
        · exact .inl (List.forall_mem_cons.2 ⟨hfirst, hrest⟩)
        · exact .inr ⟨i + 1, rule, reaches_succ.2 ⟨hfirst, hreach⟩, hrule⟩
      · exact .inr ⟨0, first, reaches_zero.2 rfl, .inl (Rule.applies_eq_true_iff.1 happlies)⟩

end Policy

end Clearance
