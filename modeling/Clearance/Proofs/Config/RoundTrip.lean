import Clearance.Config
import Clearance.Proofs.Schema.RoundTrip
import Clearance.Proofs.Yaml.Loading
import Mathlib

/-!
# Configurations read back

A configuration that is written as a text is read back from it: its tree is one that the text
of a record is loaded from, and the value of the tree is that of the configuration.
-/

namespace Clearance

namespace Yaml

instance (name : String) : Decidable (FieldName name) :=
  decidable_of_iff
    (name.toList ≠ [] ∧ name.toList.all isFieldChar = true ∧ name.length ≤ 1024 ∧
      Tag.ofPlain name = .str)
    ⟨fun ⟨ne_nil, chars, short, tag⟩ => ⟨ne_nil, List.all_eq_true.1 chars, short, tag⟩,
      fun h => ⟨h.ne_nil, List.all_eq_true.2 h.chars, h.short, h.tag⟩⟩

namespace Tree

theorem itemValues_eq_map (items : List Tree) : itemValues items = items.map toValue := by
  induction items with
  | nil => rfl
  | cons t rest ih => rw [itemValues, ih, List.map_cons]

/-- A record whose names are among the names of a kind of record. -/
theorem regular_record {n : Nat} {names : List String} {fields : List (String × Tree)}
    (hnames : ∀ name ∈ names, FieldName name) (hnodup : names.Nodup)
    (hsublist : (fields.map Prod.fst).Sublist names) (hne : fields ≠ [])
    (hregular : ∀ f ∈ fields, Regular n f.2) : Regular (n + 1) (.record fields) :=
  .record hne (hnodup.sublist hsublist)
    (fun f hf => hnames f.1 (hsublist.subset (List.mem_map_of_mem hf))) hregular

end Tree

end Yaml

namespace Config

open Yaml (Tree FieldName)
open Yaml.Tree (Regular regular_record)

/-! ## Trees of a configuration -/

variable {n : Nat}

/-- The names of the fields of a configuration and of all that is in it. -/
def fieldNames : List String :=
  ["permissions", "policy", "name", "scope", "risk", "requires_confirmation", "description",
    "parent", "default_allow", "rules", "pattern", "allow", "conditions", "reason", "type",
    "operator", "value", "context_key"]

theorem fieldName_of_mem : ∀ name ∈ fieldNames, FieldName name := by
  decide +kernel

theorem forall_fieldName {names : List String} (h : ∀ name ∈ names, name ∈ fieldNames) :
    ∀ name ∈ names, FieldName name :=
  fun name hname => fieldName_of_mem name (h name hname)

theorem names_optionalField {α : Type} (name : String) (write : α -> Tree) (a? : Option α) :
    ((optionalField name write a?).map Prod.fst).Sublist [name] := by
  cases a? with
  | none => exact List.nil_sublist _
  | some a => exact List.Sublist.refl _

theorem regular_optionalField {α : Type} {name : String} {write : α -> Tree} {a? : Option α}
    (h : ∀ a, a? = some a -> Regular n (write a)) :
    ∀ f ∈ optionalField name write a?, Regular n f.2 := by
  cases a? with
  | none =>
      intro f hf
      cases hf
  | some a =>
      intro f hf
      rw [List.mem_singleton.1 hf]
      exact h a rfl

/-- The names of optional fields are kept in the order of all names. -/
theorem names_append {fields more : List (String × Tree)} {names others : List String}
    (h : (fields.map Prod.fst).Sublist names) (hmore : (more.map Prod.fst).Sublist others) :
    ((fields ++ more).map Prod.fst).Sublist (names ++ others) := by
  rw [List.map_append]
  exact h.append hmore

theorem regular_permissionTree (n : Nat) (p : Permission) : Regular (n + 1) (permissionTree p) := by
  refine @regular_record n
    (["name", "scope", "risk", "requires_confirmation"] ++ ["description"] ++ ["parent"]) _
    (forall_fieldName (by decide)) (by decide) ?_ (by simp) ?_
  · exact names_append
      (names_append (.refl _) (names_optionalField "description" Tree.text p.description))
      (names_optionalField "parent" Tree.text p.parent)
  · refine List.forall_mem_append.2 ⟨List.forall_mem_append.2 ⟨?_, ?_⟩, ?_⟩
    · simp [Regular.text, Regular.flag]
    · exact regular_optionalField fun s _ => .text n s
    · exact regular_optionalField fun s _ => .text n s

theorem regular_operandTree (n : Nat) (o : Operand) : Regular (n + 1) (operandTree o) := by
  cases o with
  | one s => exact .text _ s
  | anyOf options =>
      refine .list ?_ ?_
      all_goals
        intro t ht
        obtain ⟨s, -, rfl⟩ := List.mem_map.1 ht
      · rfl
      · exact .text n s

theorem regular_conditionTree (n : Nat) (c : Condition) : Regular (n + 2) (conditionTree c) := by
  refine @regular_record (n + 1) (["type", "operator", "value"] ++ ["context_key"]) _
    (forall_fieldName (by decide)) (by decide) ?_ (by simp) ?_
  · exact names_append (.refl _) (names_optionalField "context_key" Tree.text c.contextKey)
  · refine List.forall_mem_append.2 ⟨?_, ?_⟩
    · simp [Regular.text, regular_operandTree]
    · exact regular_optionalField fun s _ => .text (n + 1) s

/-- A list of records. -/
theorem regular_records {α : Type} {write : α -> Tree} (hrecord : ∀ a, (write a).isList = false)
    (h : ∀ a, Regular n (write a)) (xs : List α) : Regular (n + 1) (.list (xs.map write)) := by
  refine .list ?_ ?_
  all_goals
    intro t ht
    obtain ⟨a, -, rfl⟩ := List.mem_map.1 ht
  · exact hrecord a
  · exact h a

theorem regular_ruleTree (n : Nat) (r : Rule) : Regular (n + 4) (ruleTree r) := by
  refine @regular_record (n + 3) (["pattern", "allow", "conditions"] ++ ["reason"]) _
    (forall_fieldName (by decide)) (by decide) ?_ (by simp) ?_
  · exact names_append (.refl _) (names_optionalField "reason" Tree.text r.reason)
  · have hconditions : Regular (n + 3) (.list (r.conditions.map conditionTree)) :=
      regular_records (fun _ => rfl) (regular_conditionTree n) r.conditions
    refine List.forall_mem_append.2 ⟨?_, ?_⟩
    · simp [Regular.text, Regular.flag, hconditions]
    · exact regular_optionalField fun s _ => .text (n + 3) s

theorem regular_policyTree (n : Nat) (p : Policy) : Regular (n + 6) (policyTree p) := by
  have hrules : Regular (n + 5) (.list (p.rules.map ruleTree)) :=
    regular_records (fun _ => rfl) (regular_ruleTree n) p.rules
  refine @regular_record (n + 5) ["default_allow", "rules"] _
    (forall_fieldName (by decide)) (by decide) (.refl _) (by simp) ?_
  simp [Regular.flag, hrules]

theorem regular_fields {c : Config} (h : c.fields ≠ []) : Regular 7 (.record c.fields) := by
  refine @regular_record 6 (["permissions"] ++ ["policy"]) _
    (forall_fieldName (by decide)) (by decide) ?_ h ?_
  · exact names_append (names_optionalField "permissions" _ c.permissions)
      (names_optionalField "policy" policyTree c.policy)
  · refine List.forall_mem_append.2 ⟨?_, ?_⟩
    · exact regular_optionalField fun ps _ =>
        regular_records (fun _ => rfl) (regular_permissionTree 4) ps
    · exact regular_optionalField fun p _ => regular_policyTree 0 p

/-! ## Values of a configuration -/

theorem permissionTree_toValue (p : Permission) :
    (permissionTree p).toValue = Schema.permissionValue false p := by
  obtain ⟨name, scope, risk, confirm, description, parent⟩ := p
  cases description <;> cases parent <;> rfl

/-- Written items stand for their values. -/
theorem itemValues_map {α : Type} {write : α -> Tree} {value : α -> Value}
    (h : ∀ a, (write a).toValue = value a) (xs : List α) :
    Tree.itemValues (xs.map write) = xs.map value := by
  rw [Tree.itemValues_eq_map, List.map_map]
  exact List.map_congr_left fun a _ => h a

theorem operandTree_toValue (o : Operand) : (operandTree o).toValue = Schema.operandValue o := by
  cases o with
  | one s => rfl
  | anyOf options => exact congrArg Value.list (itemValues_map (fun _ => rfl) options)

theorem conditionTree_toValue (c : Condition) :
    (conditionTree c).toValue = Schema.conditionValue false c := by
  obtain ⟨kind, operator, operand, contextKey⟩ := c
  have hoperand := operandTree_toValue operand
  cases operand <;> cases contextKey
  all_goals
    simp only [conditionTree, Tree.toValue, Tree.fieldValues, List.cons_append, hoperand]
    rfl

theorem ruleTree_toValue (r : Rule) : (ruleTree r).toValue = Schema.ruleValue false r := by
  obtain ⟨pattern, allow, conditions, reason⟩ := r
  have hconditions := itemValues_map conditionTree_toValue conditions
  cases reason
  all_goals
    simp only [ruleTree, optionalField, Tree.toValue, Tree.fieldValues, List.cons_append,
      hconditions]
    rfl

theorem policyTree_toValue (p : Policy) : (policyTree p).toValue = Schema.policyValue false p := by
  have hrules := itemValues_map ruleTree_toValue p.rules
  simp only [policyTree, Tree.toValue, Tree.fieldValues, hrules]
  rfl

theorem record_fields_toValue (c : Config) :
    (Tree.record c.fields).toValue = (Schema.configFields false c).value false := by
  obtain ⟨permissions, policy⟩ := c
  have hpermissions := itemValues_map permissionTree_toValue
  cases permissions <;> cases policy
  all_goals
    simp only [fields, optionalField, Option.map, Option.toList, List.cons_append,
      List.nil_append, Tree.toValue, Tree.fieldValues, hpermissions, policyTree_toValue]
    rfl

/-! ## Texts -/

theorem load_toText (c : Config) : Yaml.load c.toText = .ok (Tree.record c.fields).toValue := by
  by_cases h : c.fields = []
  · rw [toText, h]
    cbv
  · exact Yaml.Tree.load_render (regular_fields h) (by unfold Tree.Fits; decide)

/-- A configuration is read back from its text. -/
theorem ofText_toText {c : Config} (h : c.Valid) : ofText c.toText = .ok c := by
  rw [ofText, load_toText, record_fields_toValue]
  have hconfig := Schema.config_value false h
  simp only [ofValue, Schema.Fields.value] at hconfig ⊢
  rw [hconfig]
  rfl

/-- A configuration whose texts look like numbers, times, blanks, marks or several lines. -/
def lookalikes : Config :=
  { permissions := some
      [ { name := "22:00", scope := .file, risk := .low, description := some " - a\n\n  b: #c ",
          parent := some "null" } ]
    policy := some
      { defaultAllow := true
        rules :=
          [ { pattern := "*", allow := false, reason := some "",
              conditions :=
                [ { kind := "~", operator := .equals, operand := .anyOf [] },
                  { kind := "2024-01-01", operator := .regex, operand := .one "\x07\u2028😀",
                    contextKey := some "yes" } ] } ] } }

theorem ofText_toText_lookalikes :
    lookalikes.Valid ∧ ofText lookalikes.toText = .ok lookalikes := by
  have hvalid : lookalikes.Valid := by
    refine ⟨?_, ?_⟩
    · rintro ps ⟨⟩ p hp
      rw [List.mem_singleton.1 hp]
      exact (by decide : "22:00" ≠ "")
    · rintro p ⟨⟩ r hr
      rw [List.mem_singleton.1 hr]
      refine ⟨by decide, ?_⟩
      simp [Condition.Valid]
  exact ⟨hvalid, ofText_toText hvalid⟩

end Config

end Clearance
