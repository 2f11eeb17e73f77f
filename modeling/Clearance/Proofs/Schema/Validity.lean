import Clearance.Config
import Clearance.Proofs.Schema.RoundTrip

/-!
# What the readers accept

A record that was read meets what its reader demands: a rule has a pattern, a condition has a kind,
a permission has a name.
-/

namespace Clearance.Schema

open Checked (app app_eq_ok)

variable {α : Type}

theorem under_eq_ok {step : Step} {c : Checked α} {x : α} :
    Checked.under step c = .ok x ↔ c = .ok x := by
  cases c with
  | error issues => constructor <;> (intro h; cases h)
  | ok y => exact Iff.rfl

theorem map_eq_ok {β : Type} {c : Checked α} {f : α -> β} {y : β} :
    c.map f = .ok y ↔ ∃ x, c = .ok x ∧ f x = y := by
  cases c with
  | error issues =>
      constructor
      · intro h
        cases h
      · rintro ⟨x, h, -⟩
        cases h
  | ok x =>
      constructor
      · rintro ⟨⟩
        exact ⟨x, rfl, rfl⟩
      · rintro ⟨x, ⟨⟩, rfl⟩
        rfl

theorem refusing_eq_ok {c : Checked α} {issues : List Issue} {x : α}
    (h : c.refusing issues = .ok x) : c = .ok x := by
  cases c with
  | error before => cases issues <;> cases h
  | ok y =>
      cases issues with
      | nil => exact h
      | cons issue rest => cases h

/-- What a field that must be there is read as, some value is read as. -/
theorem exists_of_required {key : Key} {read : Value -> Checked α}
    {entries : List (Value × Value)} {x : α} (h : required key read entries = .ok x) :
    ∃ v, read v = .ok x := by
  unfold required at h
  split at h
  · exact ⟨_, under_eq_ok.1 h⟩
  · cases h

theorem exists_of_defaulted {key : Key} {read : Value -> Checked α} {default : α}
    {entries : List (Value × Value)} {x : α} (h : defaulted key read default entries = .ok x) :
    (∃ v, read v = .ok x) ∨ x = default := by
  unfold defaulted at h
  split at h
  · exact .inl ⟨_, under_eq_ok.1 h⟩
  · cases h
    exact .inr rfl

theorem ne_empty_of_nonemptyText {v : Value} {s : String} (h : nonemptyText v = .ok s) :
    s ≠ "" := by
  rintro rfl
  unfold nonemptyText at h
  cases htext : text v with
  | error issues => rw [htext] at h; cases h
  | ok t =>
      rw [htext] at h
      simp only [bind, Except.bind] at h
      split at h
      · cases h
      · rename_i hempty
        cases h
        exact hempty rfl

theorem forall_of_items {read : Value -> Checked α} {P : α -> Prop}
    (h : ∀ v x, read v = .ok x -> P x) {n : Nat} {items : List Value} {xs : List α}
    (hitems : Checked.items read n items = .ok xs) : ∀ x ∈ xs, P x := by
  induction items generalizing n xs with
  | nil =>
      cases hitems
      simp
  | cons v rest ih =>
      obtain ⟨g, tail, hhead, htail, rfl⟩ := app_eq_ok.1 hitems
      obtain ⟨x, hx, rfl⟩ := map_eq_ok.1 hhead
      exact List.forall_mem_cons.2 ⟨h v x (under_eq_ok.1 hx), ih htail⟩

theorem forall_of_listOf {read : Value -> Checked α} {P : α -> Prop}
    (h : ∀ v x, read v = .ok x -> P x) {v : Value} {xs : List α}
    (hlist : listOf read v = .ok xs) : ∀ x ∈ xs, P x := by
  unfold listOf at hlist
  cases hitems : listItems v with
  | error issues => rw [hitems] at hlist; cases hlist
  | ok items =>
      rw [hitems] at hlist
      exact forall_of_items h hlist

theorem exists_entries {title : String} {v : Value} {read : List (Value × Value) -> Checked α}
    {x : α} (h : (recordEntries title v).bind read = .ok x) : ∃ entries, read entries = .ok x := by
  cases hentries : recordEntries title v with
  | error issues =>
      rw [hentries] at h
      cases h
  | ok entries =>
      rw [hentries] at h
      exact ⟨entries, h⟩

theorem valid_of_condition {v : Value} {c : Condition} (h : condition v = .ok c) : c.Valid := by
  obtain ⟨entries, hread⟩ := exists_entries h
  obtain ⟨withKey, contextKey, hwithKey, -, rfl⟩ := app_eq_ok.1 (refusing_eq_ok hread)
  obtain ⟨withOperand, operand, hwithOperand, -, rfl⟩ := app_eq_ok.1 hwithKey
  obtain ⟨withOperator, operator, hwithOperator, -, rfl⟩ := app_eq_ok.1 hwithOperand
  obtain ⟨kind, hkind, rfl⟩ := map_eq_ok.1 hwithOperator
  obtain ⟨w, hw⟩ := exists_of_required hkind
  exact ne_empty_of_nonemptyText hw

theorem valid_of_rule {v : Value} {r : Rule} (h : rule v = .ok r) : r.Valid := by
  obtain ⟨entries, hread⟩ := exists_entries h
  obtain ⟨withReason, reason, hwithReason, -, rfl⟩ := app_eq_ok.1 (refusing_eq_ok hread)
  obtain ⟨withConditions, conditions, hwithConditions, hconditions, rfl⟩ :=
    app_eq_ok.1 hwithReason
  obtain ⟨withAllow, allow, hwithAllow, -, rfl⟩ := app_eq_ok.1 hwithConditions
  obtain ⟨pattern, hpattern, rfl⟩ := map_eq_ok.1 hwithAllow
  obtain ⟨w, hw⟩ := exists_of_required hpattern
  refine ⟨ne_empty_of_nonemptyText hw, ?_⟩
  obtain ⟨w, hw⟩ | rfl := exists_of_defaulted hconditions
  · exact forall_of_listOf (fun v c => valid_of_condition) hw
  · exact fun c hc => nomatch hc

theorem valid_of_policy {v : Value} {p : Policy} (h : policy v = .ok p) : p.Valid := by
  obtain ⟨entries, hread⟩ := exists_entries h
  obtain ⟨withRules, rules, hwithRules, hrules, rfl⟩ := app_eq_ok.1 (refusing_eq_ok hread)
  obtain ⟨defaultAllow, -, rfl⟩ := map_eq_ok.1 hwithRules
  obtain ⟨w, hw⟩ | rfl := exists_of_defaulted hrules
  · exact forall_of_listOf (fun v r => valid_of_rule) hw
  · exact fun r hr => nomatch hr

theorem forall_of_optional {read : Value -> Checked α} {P : α -> Prop}
    (h : ∀ v x, read v = .ok x -> P x) {v : Value} {x? : Option α}
    (hoptional : optional read v = .ok x?) : ∀ x, x? = some x -> P x := by
  unfold optional at hoptional
  split at hoptional
  · cases hoptional
    exact fun x hx => nomatch hx
  · obtain ⟨y, hy, rfl⟩ := map_eq_ok.1 hoptional
    rintro x ⟨⟩
    exact h _ _ hy

/-- The policy of a configuration that was read can be read again. -/
theorem valid_of_config {v : Value} {c : Config} (h : config v = .ok c) {p : Policy}
    (hp : c.policy = some p) : p.Valid := by
  obtain ⟨entries, hread⟩ := exists_entries h
  obtain ⟨withPolicy, policy?, hwithPolicy, hpolicy, rfl⟩ := app_eq_ok.1 (refusing_eq_ok hread)
  obtain ⟨permissions, -, rfl⟩ := map_eq_ok.1 hwithPolicy
  obtain rfl : policy? = some p := hp
  obtain ⟨w, hw⟩ | hnone := exists_of_defaulted hpolicy
  · exact forall_of_optional (fun v p => valid_of_policy) hw p rfl
  · cases hnone

end Clearance.Schema
