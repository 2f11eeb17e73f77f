import Clearance.Proofs.Schema.Validity

/-!
# What decides how a decision is read

Of the fields of a decision, all but its moments and its rule are read as they were written,
whatever the decision is.  So a decision is read as soon as these three fields are, and it differs
from the one that was written in nothing else.
-/

namespace Clearance.Schema

open Checked (app app_eq_ok under)

/-! ## Fields that are all there -/

namespace Fields

variable {fields : Fields} {α : Type} {key : Key} {v : Value}

theorem find?_entries_true (h : Distinct fields.keys) (hfield : (key, v) ∈ fields) :
    key.find? (fields.entries true) = some (key.name, v) := by
  have hkept : isKept true v = true := by cases v <;> rfl
  rw [find?_entries h hfield, if_pos hkept]

theorem required_entries (h : Distinct fields.keys) (hfield : (key, v) ∈ fields)
    (read : Value -> Checked α) :
    required key read (fields.entries true) = under (.name key.name) (read v) := by
  rw [required, find?_entries_true h hfield]

theorem defaulted_entries (h : Distinct fields.keys) (hfield : (key, v) ∈ fields)
    (read : Value -> Checked α) (default : α) :
    defaulted key read default (fields.entries true) = under (.name key.name) (read v) := by
  rw [defaulted, find?_entries_true h hfield]

end Fields

theorem refusing_nil {α : Type} (c : Checked α) : c.refusing [] = c := by
  cases c with
  | ok x => rfl
  | error issues => exact congrArg Except.error (List.append_nil issues)

/-- A decision is read if its moments and its rule are, and then with all its other fields. -/
theorem decision_fields_iff {d d' : Decision} :
    decision ((decisionFields true d).value true) = .ok d' ↔
      ∃ t expires? rule?, timestamp (.str d.timestamp.zuluText) = .ok t ∧
        optional timestamp (optionalValue (fun t => .str t.zuluText) d.expiresAt) = .ok expires? ∧
        optional rule (optionalValue (ruleValue true) d.rule) = .ok rule? ∧
        d' = { d with timestamp := t, expiresAt := expires?, rule := rule? } := by
  have hd : Distinct (decisionFields true d).keys := (by decide : Distinct DecisionKey.all)
  have hstrays := @Fields.strays_eq_nil true _ hd
  change decisionOf ((decisionFields true d).entries true) = .ok d' ↔ _
  generalize he : (decisionFields true d).entries true = entries at hstrays
  have hgranted : required DecisionKey.granted flag entries = .ok d.granted :=
    he ▸ Fields.required_eq hd (by simp [decisionFields]) Value.noConfusion (flag_eq _)
  have hreason : defaulted DecisionKey.reason (optional text) none entries = .ok d.reason :=
    he ▸ Fields.optional_field hd (by simp [decisionFields]) (fun _ => Value.noConfusion)
      fun s _ => text_eq s
  have hpermission : required DecisionKey.permission text entries = .ok d.permission :=
    he ▸ Fields.required_eq hd (by simp [decisionFields]) Value.noConfusion (text_eq _)
  have hcontext : defaulted DecisionKey.context textDict [] entries = .ok d.context :=
    he ▸ Fields.defaulted_eq hd (by simp [decisionFields]) Value.noConfusion
      (textDict_toValue d.context)
  have htimestamp : required DecisionKey.timestamp timestamp entries =
      under (.name DecisionKey.timestamp.name) (timestamp (.str d.timestamp.zuluText)) :=
    he ▸ Fields.required_entries hd (by simp [decisionFields]) timestamp
  have hsource : required DecisionKey.source source entries = .ok d.source :=
    he ▸ Fields.required_eq hd (by simp [decisionFields]) Value.noConfusion (source_eq _)
  have hexpires : defaulted DecisionKey.expiresAt (optional timestamp) none entries =
      under (.name DecisionKey.expiresAt.name)
        (optional timestamp (optionalValue (fun t => .str t.zuluText) d.expiresAt)) :=
    he ▸ Fields.defaulted_entries hd (by simp [decisionFields]) (optional timestamp) none
  have huses : defaulted DecisionKey.remainingUses (optional whole) none entries
      = .ok d.remainingUses :=
    he ▸ Fields.optional_field hd (by simp [decisionFields]) (fun _ => Value.noConfusion)
      fun n _ => whole_eq n
  have hrule : defaulted DecisionKey.rule (optional rule) none entries =
      under (.name DecisionKey.rule.name)
        (optional rule (optionalValue (ruleValue true) d.rule)) :=
    he ▸ Fields.defaulted_entries hd (by simp [decisionFields]) (optional rule) none
  have hkeys : strays DecisionKey.all entries = [] := hstrays
  -- only the readings of the two moments and of the rule are still open
  rw [decisionOf, hkeys, refusing_nil]
  simp only [hgranted, hreason, hpermission, hcontext, htimestamp, hsource, hexpires, huses, hrule,
    Except.map, Checked.app_ok]
  constructor
  · intro h
    obtain ⟨withUses, rule?, hwithUses, hrule, rfl⟩ := app_eq_ok.1 h
    obtain ⟨withExpires, uses?, hwithExpires, huses, rfl⟩ := app_eq_ok.1 hwithUses
    obtain ⟨withSource, expires?, hwithSource, hexpires, rfl⟩ := app_eq_ok.1 hwithExpires
    obtain ⟨withTimestamp, source, hwithTimestamp, hsource, rfl⟩ := app_eq_ok.1 hwithSource
    obtain ⟨withContext, t, hwithContext, ht, rfl⟩ := app_eq_ok.1 hwithTimestamp
    cases hwithContext
    cases hsource
    cases huses
    exact ⟨t, expires?, rule?, under_eq_ok.1 ht, under_eq_ok.1 hexpires, under_eq_ok.1 hrule, rfl⟩
  · rintro ⟨t, expires?, rule?, ht, hexpires, hrule, rfl⟩
    rw [ht, hexpires, hrule]
    rfl

end Clearance.Schema
