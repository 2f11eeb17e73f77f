import Clearance.Proofs.Policy.FirstRule
import Clearance.Proofs.Regex.Joined

/-!
# Conditions with several options

A condition that is given several options holds where it holds with one of them.  Beginnings, ends
and parts of a text are tried one by one.  Patterns are joined by bars and searched for as one, so
for them there must be options, and unless there is only one they must be patterns that keep apart.
-/

namespace Clearance

namespace Operator

/-- The operators that take any of several options. -/
def choosing : List Operator := [.startsWith, .endsWith, .contains, .regex]

theorem searches_eq_true_iff {options : List String} {actual : String} :
    searches options actual = .ok true ↔
      ∃ p, Regex.parse ("|".intercalate options) = .ok p ∧ p.search actual = true := by
  unfold searches
  cases Regex.parse ("|".intercalate options) with
  | ok p => simp
  | error fault => cases fault <;> simp

/-- One pattern is searched for as it is. -/
theorem searches_one_iff {v actual : String} :
    searches [v] actual = .ok true ↔ ∃ p, Regex.parse v = .ok p ∧ p.search actual = true := by
  rw [searches_eq_true_iff, String.intercalate_singleton]

/-- Options that are searched for as one pattern are searched for one by one. -/
def Apart (options : List String) : Prop :=
  options.length = 1 ∨ options ≠ [] ∧ Regex.Separate options

theorem searches_iff_exists {options : List String} (h : Apart options) (actual : String) :
    searches options actual = .ok true ↔ ∃ v ∈ options, searches [v] actual = .ok true := by
  rcases h with hone | ⟨hsome, hseparate⟩
  · obtain ⟨v, rfl⟩ := List.length_eq_one_iff.1 hone
    simp only [List.mem_singleton, exists_eq_left]
  · obtain ⟨p, hparse, hsearch⟩ := Regex.exists_parse_joined hsome hseparate
    rw [searches_eq_true_iff]
    simp only [searches_one_iff, ← hsearch]
    constructor
    · rintro ⟨q, hq, hfound⟩
      cases hparse.symm.trans hq
      exact hfound
    · exact fun hfound => ⟨p, hparse, hfound⟩

theorem tries_iff_exists (test : String -> Bool) (options : List String) :
    (.ok (options.any test) : Except Regex.Fault Bool) = .ok true ↔
      ∃ v ∈ options, (.ok ([v].any test) : Except Regex.Fault Bool) = .ok true := by
  simp only [Except.ok.injEq, List.any_eq_true, List.any_cons, List.any_nil, Bool.or_false]

end Operator

namespace Condition

variable {c : Circumstances} {condition : Condition} {actual : String}

theorem holds_iff_compare (hresolve : c.resolve condition = .ok actual) :
    condition.holds c = .ok true ↔ Operator.compare actual condition = .ok true := by
  have hholds : condition.holds c = (Operator.compare actual condition).mapError .pattern := by
    rw [holds, hresolve]
  rw [hholds]
  cases Operator.compare actual condition with
  | ok answer =>
      change Except.ok answer = .ok true ↔ _
      rw [Except.ok.injEq, Except.ok.injEq]
  | error fault =>
      change Except.error (ConditionFault.pattern fault) = .ok true ↔ _
      exact ⟨nofun, nofun⟩

/-- A condition with several options holds if and only if it holds with one of them. -/
theorem holds_anyOf_iff {options : List String} (hresolve : c.resolve condition = .ok actual)
    (hoperator : condition.operator ∈ Operator.choosing)
    (hapart : condition.operator = .regex -> Operator.Apart options) :
    holds c { condition with operand := .anyOf options } = .ok true ↔
      ∃ v ∈ options, holds c { condition with operand := .one v } = .ok true := by
  have hcompare (operand : Operand) :
      holds c { condition with operand } = .ok true ↔
        Operator.compare actual { condition with operand } = .ok true :=
    holds_iff_compare hresolve
  simp only [hcompare]
  obtain ⟨kind, operator, operand, contextKey⟩ := condition
  cases operator with
  | startsWith => exact Operator.tries_iff_exists _ options
  | endsWith => exact Operator.tries_iff_exists _ options
  | contains => exact Operator.tries_iff_exists _ options
  | regex => exact Operator.searches_iff_exists (hapart rfl) actual
  | equals => exact absurd hoperator (by simp [Operator.choosing])
  | between => exact absurd hoperator (by simp [Operator.choosing])

/-- A command is searched for a doubled letter, for another group or for itself. -/
theorem holds_anyOf_iff_doubled :
    let options := ["(a|b)\\1", "(c)+d", "^ls$"]
    let condition : Condition := { kind := "command", operator := .regex, operand := .one "" }
    let c : Circumstances :=
      { context := [("command", .str "ls")], now := { wall := 0, offset := none } }
    c.resolve condition = .ok "ls" ∧ condition.operator ∈ Operator.choosing ∧
      Operator.Apart options ∧ holds c { condition with operand := .anyOf options } = .ok true := by
  intro options condition c
  have hapart : Operator.Apart options :=
    .inr ⟨nofun, .of_plain (by decide +kernel) (by decide +kernel) (by decide +kernel)⟩
  have hresolve : c.resolve condition = .ok "ls" := rfl
  have hoperator : condition.operator ∈ Operator.choosing := by decide
  refine ⟨hresolve, hoperator, hapart, ?_⟩
  refine (holds_anyOf_iff hresolve hoperator fun _ => hapart).2 ⟨"^ls$", ?_, ?_⟩
  · exact List.mem_cons_of_mem _ (List.mem_cons_of_mem _ List.mem_cons_self)
  · exact ConditionFault.eq_ok_of_toOption (by decide +kernel)

/--
No options at all are searched for as the empty pattern, which is found everywhere; options are no
pattern if one of them is none; and a group that is spoken of by its number is one of the first
option.
-/
theorem regex_options_differ :
    let one (v : String) : Condition := { kind := "command", operator := .regex, operand := .one v }
    let any (options : List String) : Condition := { one "" with operand := .anyOf options }
    let c : Circumstances :=
      { context := [("command", .str "bb")], now := { wall := 0, offset := none } }
    (any []).holds c = .ok true ∧
      ((any ["(", "b"]).holds c = .ok false ∧ (one "b").holds c = .ok true) ∧
      ((any ["(a)", "(b)\\1"]).holds c = .ok false ∧ (one "(b)\\1").holds c = .ok true) := by
  intro one any c
  refine ⟨?_, ⟨?_, ?_⟩, ?_, ?_⟩
  all_goals exact ConditionFault.eq_ok_of_toOption (by decide +kernel)

end Condition

end Clearance
