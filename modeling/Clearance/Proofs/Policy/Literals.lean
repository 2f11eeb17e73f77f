import Clearance.Proofs.Policy.Options
import Clearance.Proofs.Regex.Literal

/-!
# Conditions with literal patterns

A condition whose patterns have no special characters asks whether the text holds one of them, as
one that looks for parts of the text does.
-/

namespace Clearance

namespace Operator

variable {options : List String} {actual : String}

theorem any_holds_iff :
    options.any (Text.holds actual) = true ↔ ∃ v ∈ options, v.toList <:+: actual.toList := by
  simp only [List.any_eq_true, Text.holds, Text.occursIn_iff]

/-- Options without special characters are searched for as parts of the text. -/
theorem searches_literals (hsome : options ≠ [])
    (hliteral : ∀ v ∈ options, Regex.Literal v.toList) :
    searches options actual = .ok (options.any (Text.holds actual)) := by
  obtain ⟨p, hparse, hsearch⟩ := Regex.exists_parse_literals hsome hliteral
  rw [searches, hparse]
  refine congrArg Except.ok (Bool.eq_iff_iff.2 ?_)
  rw [hsearch, any_holds_iff]

end Operator

namespace Condition

variable {c : Circumstances} {condition : Condition} {actual : String}

/-- With options, none of which has a special character, patterns and parts are the same. -/
theorem literal_regex_holds_iff_contains (hresolve : c.resolve condition = .ok actual)
    (hsome : condition.operand.options ≠ [])
    (hliteral : ∀ v ∈ condition.operand.options, ∀ char ∈ v.toList, char ∉ Regex.specialChars) :
    ∃ answer,
      holds c { condition with operator := .regex } = .ok answer ∧
      holds c { condition with operator := .contains } = .ok answer ∧
      (answer = true ↔ ∃ v ∈ condition.operand.options, v.toList <:+: actual.toList) := by
  have hholds (operator : Operator) : holds c { condition with operator } =
      (Operator.compare actual { condition with operator }).mapError .pattern := by
    have hsame : c.resolve { condition with operator } = .ok actual := hresolve
    rw [holds, hsame]
  refine ⟨condition.operand.options.any (Text.holds actual), ?_, ?_, Operator.any_holds_iff⟩
  · rw [hholds, Operator.compare, Operator.searches_literals hsome hliteral]
    rfl
  · rw [hholds]
    rfl

/-- One option is empty, one begins as another one does, and two overlap in the command. -/
theorem literal_regex_holds_iff_contains_overlapping :
    let condition : Condition :=
      { kind := "command", operator := .regex, operand := .anyOf ["rm -rf", "rm", "m -r", ""] }
    let c : Circumstances :=
      { context := [("command", .str "sudo rm -r tmp")], now := { wall := 0, offset := none } }
    c.resolve condition = .ok "sudo rm -r tmp" ∧ condition.operand.options ≠ [] ∧
      (∀ v ∈ condition.operand.options, ∀ char ∈ v.toList, char ∉ Regex.specialChars) ∧
      holds c condition = .ok true ∧ holds c { condition with operator := .contains } = .ok true := by
  intro condition c
  have hresolve : c.resolve condition = .ok "sudo rm -r tmp" := rfl
  have hliteral : (["rm -rf", "rm", "m -r", ""].all fun v =>
      v.toList.all fun char => decide (char ∉ Regex.specialChars)) = true := by
    decide +kernel
  simp only [List.all_eq_true, decide_eq_true_iff] at hliteral
  obtain ⟨answer, hregex, hcontains, hanswer⟩ :=
    literal_regex_holds_iff_contains hresolve (List.cons_ne_nil _ _) hliteral
  have hheld : answer = true := hanswer.2 ⟨"rm", by decide, "sudo ".toList, " -r tmp".toList, rfl⟩
  subst hheld
  exact ⟨hresolve, List.cons_ne_nil _ _, hliteral, hregex, hcontains⟩

end Condition

end Clearance
