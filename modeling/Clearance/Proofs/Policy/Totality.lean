import Clearance.Proofs.Policy.Reads
import Clearance.Proofs.Regex.Faults
import Clearance.Proofs.Value.Plain

/-!
# Conditions have answers

A condition fails only if the value that it compares refuses its text, or if its pattern shows a
count that is too large, or asks for both coverages of scripts.  Any other condition holds or does
not hold, whatever its kind, its operator and its operand, and a policy of such conditions finds a
rule or finds none.
-/

namespace Clearance

namespace Regex

/-- No count of a pattern is too large or too long, and it does not ask for both coverages. -/
structure Moderate (pattern : String) : Prop where
  counts : ∀ digits, Counts (tokenize pattern.toList) digits ->
    digits.length ≤ 4300 ∧ Reading.number 10 digits < Reading.countLimit
  scripts : ¬ (Sets (tokenize pattern.toList) 'a' ∧ Sets (tokenize pattern.toList) 'u')

/-- If a moderate pattern is not read, it is malformed. -/
theorem Moderate.eq_malformed {pattern : String} (h : Moderate pattern) {f : Fault}
    (hparse : parse pattern = .error f) : f = .malformed := by
  cases excuse_of_parse hparse with
  | malformed => rfl
  | tooLarge hshown hlarge => exact absurd hlarge (Nat.not_le.2 (h.counts _ hshown).2)
  | tooLong hshown hlong => exact absurd hlong (Nat.not_lt.2 (h.counts _ hshown).1)
  | clash hascii hunicode => exact absurd ⟨hascii, hunicode⟩ h.scripts

/-- A pattern without opening braces and without question marks is moderate. -/
theorem moderate_of_notMem {pattern : String}
    (hbrace : .plain '\x7b' ∉ tokenize pattern.toList)
    (hquestion : .plain '?' ∉ tokenize pattern.toList) : Moderate pattern where
  counts := by
    intro digits hcounts
    refine absurd ?_ hbrace
    cases hcounts with
    | only _ hshown => exact hshown.subset List.mem_cons_self
    | least _ hshown => exact hshown.subset List.mem_cons_self
    | most _ hshown => exact hshown.subset List.mem_cons_self
  scripts := by
    rintro ⟨⟨letters, -, -, hshown⟩, -⟩
    exact hquestion (hshown.subset (List.mem_cons_of_mem _ List.mem_cons_self))

end Regex

/-- The value of the context that a condition compares, unless it compares the time. -/
def Circumstances.compared? (c : Circumstances) (condition : Condition) : Option Value :=
  match condition.contextKey.filter (· != "") with
  | some key => some (c.context.value key)
  | none =>
      if Condition.resourceKinds.contains condition.kind then
        match c.context.value "resource" with
        | .null => some (c.context.value "path")
        | v => some v
      else if condition.kind == Condition.timeKind then none
      else some (c.context.value condition.kind)

theorem Circumstances.resolve_eq (c : Circumstances) (condition : Condition) :
    c.resolve condition =
      match c.compared? condition with
      | some v => comparedText v
      | none => .ok c.now.timeOfDay := by
  unfold resolve compared?
  cases condition.contextKey.filter (· != "") with
  | some key => rfl
  | none =>
      dsimp only
      split
      · unfold resource
        change (match c.context.value "resource" with
          | .null => c.field "path"
          | v => comparedText v) = _
        split <;> rfl
      · split <;> rfl

theorem comparedText_eq_error_iff {v : Value} {f : Value.NoText} :
    comparedText v = .error f ↔ v = .mute f.message := by
  cases v
  case mute message =>
      constructor
      · rintro ⟨⟩
        rfl
      · rintro ⟨⟩
        rfl
  all_goals exact ⟨nofun, nofun⟩

theorem Operator.searches_eq_error_iff {options : List String} {actual : String}
    {f : Regex.Fault} :
    searches options actual = .error f ↔
      Regex.parse ("|".intercalate options) = .error f ∧ f ≠ .malformed := by
  unfold searches
  cases Regex.parse ("|".intercalate options) with
  | ok pattern => exact ⟨nofun, nofun⟩
  | error fault =>
      cases fault
      case malformed =>
          constructor
          · rintro ⟨⟩
          · rintro ⟨⟨⟩, hserious⟩
            exact absurd rfl hserious
      all_goals
        constructor
        · rintro ⟨⟩
          exact ⟨rfl, nofun⟩
        · rintro ⟨⟨⟩, -⟩
          rfl

/-- Of the operators only the search for a pattern fails. -/
theorem Operator.compare_eq_error_iff {actual : String} {condition : Condition}
    {f : Regex.Fault} :
    compare actual condition = .error f ↔
      condition.operator = .regex ∧
        Regex.parse ("|".intercalate condition.operand.options) = .error f ∧ f ≠ .malformed := by
  unfold compare
  cases condition.operator with
  | regex =>
      refine searches_eq_error_iff.trans ⟨fun h => ⟨rfl, h⟩, And.right⟩
  | between =>
      dsimp only
      split <;> exact ⟨nofun, nofun⟩
  | equals => exact ⟨nofun, nofun⟩
  | startsWith => exact ⟨nofun, nofun⟩
  | endsWith => exact ⟨nofun, nofun⟩
  | contains => exact ⟨nofun, nofun⟩

namespace Condition

/-- The two ways in which a condition fails. -/
inductive Fails (c : Circumstances) (condition : Condition) : ConditionFault -> Prop where
  | mute {message : String} (compared : c.compared? condition = some (.mute message)) :
      Fails c condition (.noText { message })
  | unread {f : Regex.Fault} (told : ∀ message, c.compared? condition ≠ some (.mute message))
      (operator : condition.operator = .regex)
      (parse : Regex.parse ("|".intercalate condition.operand.options) = .error f)
      (serious : f ≠ .malformed) : Fails c condition (.pattern f)

/--
The value that a condition compares does not refuse its text, and its pattern, if it has one, is
moderate.
-/
structure Answerable (c : Circumstances) (condition : Condition) : Prop where
  told : ∀ message, c.compared? condition ≠ some (.mute message)
  moderate : condition.operator = .regex ->
    Regex.Moderate ("|".intercalate condition.operand.options)

variable {c : Circumstances}

theorem Answerable.not_fails {condition : Condition} (h : condition.Answerable c)
    {fault : ConditionFault} : ¬ condition.Fails c fault := by
  intro hfails
  cases hfails with
  | mute hcompared => exact h.told _ hcompared
  | unread _ hoperator hparse hserious =>
      exact hserious ((h.moderate hoperator).eq_malformed hparse)

/-- A condition fails in these two ways and in no other. -/
theorem holds_eq_error_iff {condition : Condition} {fault : ConditionFault} :
    condition.holds c = .error fault ↔ condition.Fails c fault := by
  have hcompare (actual : String)
      (htold : ∀ message, c.compared? condition ≠ some (.mute message)) :
      (Operator.compare actual condition).mapError .pattern = .error fault ↔
        condition.Fails c fault := by
    cases hanswer : Operator.compare actual condition with
    | ok answer =>
        refine ⟨nofun, fun hfails => ?_⟩
        cases hfails with
        | mute hcompared => exact absurd hcompared (htold _)
        | unread _ hoperator hparse hserious =>
            rw [Operator.compare_eq_error_iff.2 ⟨hoperator, hparse, hserious⟩] at hanswer
            cases hanswer
    | error f =>
        obtain ⟨hoperator, hparse, hserious⟩ := Operator.compare_eq_error_iff.1 hanswer
        constructor
        · rintro ⟨⟩
          exact .unread htold hoperator hparse hserious
        · intro hfails
          cases hfails with
          | mute hcompared => exact absurd hcompared (htold _)
          | unread _ _ hparse' _ =>
              obtain ⟨⟩ := hparse.symm.trans hparse'
              rfl
  unfold holds
  rw [c.resolve_eq]
  cases hcompared : c.compared? condition with
  | none => exact hcompare _ fun message h => nomatch hcompared.symm.trans h
  | some v =>
      dsimp only
      cases htext : comparedText v with
      | error f =>
          obtain rfl := comparedText_eq_error_iff.1 htext
          constructor
          · rintro ⟨⟩
            exact .mute hcompared
          · intro hfails
            cases hfails with
            | mute hmute =>
                obtain ⟨⟩ := hcompared.symm.trans hmute
                rfl
            | unread htold => exact absurd hcompared (htold _)
      | ok actual =>
          refine hcompare actual fun message h => ?_
          obtain ⟨⟩ := hcompared.symm.trans h
          cases htext

theorem exists_holds {condition : Condition} (h : condition.Answerable c) :
    ∃ answer, condition.holds c = .ok answer := by
  cases hholds : condition.holds c with
  | ok answer => exact ⟨answer, rfl⟩
  | error fault => exact absurd (holds_eq_error_iff.1 hholds) h.not_fails

theorem exists_allHold {conditions : List Condition}
    (h : ∀ condition ∈ conditions, condition.Answerable c) :
    ∃ answer, allHold c conditions = .ok answer := by
  induction conditions with
  | nil => exact ⟨true, rfl⟩
  | cons condition rest ih =>
      obtain ⟨hcondition, hrest⟩ := List.forall_mem_cons.1 h
      obtain ⟨answer, hanswer⟩ := exists_holds hcondition
      rw [allHold, hanswer]
      cases answer with
      | false => exact ⟨false, rfl⟩
      | true => exact ih hrest

end Condition

/-- All conditions of a rule have answers. -/
def Rule.Answerable (c : Circumstances) (rule : Rule) : Prop :=
  ∀ condition ∈ rule.conditions, condition.Answerable c

namespace Policy

variable {c : Circumstances}

theorem exists_firstMatch {rules : List Rule} (h : ∀ rule ∈ rules, rule.Answerable c)
    (name : String) (index : Nat) : ∃ found?, firstMatch c name index rules = .ok found? := by
  induction rules generalizing index with
  | nil => exact ⟨none, rfl⟩
  | cons rule rest ih =>
      obtain ⟨hrule, hrest⟩ := List.forall_mem_cons.1 h
      have happlies : ∃ answer, rule.applies c name = .ok answer := by
        unfold Rule.applies
        split
        · exact Condition.exists_allHold hrule
        · exact ⟨false, rfl⟩
      obtain ⟨answer, hanswer⟩ := happlies
      rw [firstMatch, hanswer]
      cases answer with
      | true => exact ⟨_, rfl⟩
      | false => exact ih hrest (index + 1)

/-- A file at noon. -/
def noon : Circumstances :=
  { context := [("path", .str "x")], now := { wall := 63908136000000000, offset := some 0 } }

end Policy

end Clearance
