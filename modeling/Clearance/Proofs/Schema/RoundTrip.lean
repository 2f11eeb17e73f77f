import Clearance.Proofs.Json.Data
import Clearance.Proofs.Schema.Fields
import Clearance.Proofs.Time.Text

/-!
# Records read back

Permissions, policies, configurations and decisions are read back from their fields, and so from
their documents, whether null members are written or left out.
-/

namespace Clearance

/-! ## What the readers demand -/

/-- A condition says what it reads. -/
def Condition.Valid (c : Condition) : Prop :=
  c.kind ≠ ""

structure Rule.Valid (r : Rule) : Prop where
  pattern_ne : r.pattern ≠ ""
  conditions : ∀ c ∈ r.conditions, c.Valid

def Policy.Valid (p : Policy) : Prop :=
  ∀ r ∈ p.rules, r.Valid

def Permission.Valid (p : Permission) : Prop :=
  p.name ≠ ""

structure Config.Valid (c : Config) : Prop where
  permissions : ∀ ps, c.permissions = some ps -> ∀ p ∈ ps, p.Valid
  policy : ∀ p, c.policy = some p -> p.Valid

/-- A decision whose moments can be told in whole minutes, under a rule that can be read. -/
structure Decision.Valid (d : Decision) : Prop where
  timestamp : d.timestamp.Portable
  expiresAt : ∀ t, d.expiresAt = some t -> t.Portable
  rule : ∀ r, d.rule = some r -> r.Valid

namespace Schema

open Value (named)

/-! ## Records by their fields -/

/-- A field that is null if there is nothing to tell. -/
def optionalValue {α : Type} (value : α -> Value) (x? : Option α) : Value :=
  (x?.map value).getD .null

def operandValue : Operand -> Value
  | .one s => .str s
  | .anyOf options => .list (options.map Value.str)

def permissionFields (p : Permission) : Fields :=
  [ (PermissionKey.name, .str p.name), (PermissionKey.scope, .str p.scope.name),
    (PermissionKey.risk, .str p.risk.name),
    (PermissionKey.requiresConfirmation, .bool p.requiresConfirmation),
    (PermissionKey.description, optionalValue .str p.description),
    (PermissionKey.parent, optionalValue .str p.parent) ]

def conditionFields (c : Condition) : Fields :=
  [ (ConditionKey.kind, .str c.kind), (ConditionKey.operator, .str c.operator.name),
    (ConditionKey.operand, operandValue c.operand),
    (ConditionKey.contextKey, optionalValue .str c.contextKey) ]

def conditionValue (keepNull : Bool) (c : Condition) : Value :=
  (conditionFields c).value keepNull

def ruleFields (keepNull : Bool) (r : Rule) : Fields :=
  [ (RuleKey.pattern, .str r.pattern), (RuleKey.allow, .bool r.allow),
    (RuleKey.conditions, .list (r.conditions.map (conditionValue keepNull))),
    (RuleKey.reason, optionalValue .str r.reason) ]

def ruleValue (keepNull : Bool) (r : Rule) : Value :=
  (ruleFields keepNull r).value keepNull

def policyFields (keepNull : Bool) (p : Policy) : Fields :=
  [ (PolicyKey.defaultAllow, .bool p.defaultAllow),
    (PolicyKey.rules, .list (p.rules.map (ruleValue keepNull))) ]

def policyValue (keepNull : Bool) (p : Policy) : Value :=
  (policyFields keepNull p).value keepNull

def permissionValue (keepNull : Bool) (p : Permission) : Value :=
  (permissionFields p).value keepNull

def configFields (keepNull : Bool) (c : Config) : Fields :=
  [ (ConfigKey.permissions,
      optionalValue (fun ps => .list (ps.map (permissionValue keepNull))) c.permissions),
    (ConfigKey.policy, optionalValue (policyValue keepNull) c.policy) ]

def decisionFields (keepNull : Bool) (d : Decision) : Fields :=
  [ (DecisionKey.granted, .bool d.granted), (DecisionKey.reason, optionalValue .str d.reason),
    (DecisionKey.permission, .str d.permission), (DecisionKey.context, d.context.toValue),
    (DecisionKey.timestamp, .str d.timestamp.zuluText), (DecisionKey.source, .str d.source.name),
    (DecisionKey.expiresAt, optionalValue (fun t => .str t.zuluText) d.expiresAt),
    (DecisionKey.remainingUses, optionalValue .int d.remainingUses),
    (DecisionKey.rule, optionalValue (ruleValue keepNull) d.rule) ]

/-! ## Readers -/

theorem optional_eq {α : Type} {read : Value -> Checked α} {value : α -> Value} {x? : Option α}
    (hvalue : ∀ x, value x ≠ .null) (h : ∀ x, x? = some x -> read (value x) = .ok x) :
    optional read (optionalValue value x?) = .ok x? := by
  cases x? with
  | none => rfl
  | some x =>
      have hne := hvalue x
      simp only [optionalValue, Option.map_some, Option.getD_some, optional]
      rw [h x rfl]
      rfl

theorem optionalValue_eq_null {α : Type} {value : α -> Value} {x? : Option α}
    (hvalue : ∀ x, value x ≠ .null) (h : optionalValue value x? = .null) : x? = none := by
  cases x? with
  | none => rfl
  | some x => exact absurd h (hvalue x)

/-- A field that may have nothing to tell. -/
theorem Fields.optional_field {keepNull : Bool} {fields : Fields} {α : Type} {key : Key}
    {read : Value -> Checked α} {value : α -> Value} {x? : Option α} (hd : Distinct fields.keys)
    (hfield : (key, optionalValue value x?) ∈ fields) (hvalue : ∀ x, value x ≠ .null)
    (h : ∀ x, x? = some x -> read (value x) = .ok x) :
    defaulted key (optional read) none (fields.entries keepNull) = .ok x? :=
  defaulted_eq hd hfield (optionalValue_eq_null hvalue) (optional_eq hvalue h)

theorem text_eq (s : String) : text (.str s) = .ok s := rfl

theorem operand_eq (o : Operand) : operand (operandValue o) = .ok o := by
  cases o with
  | one s => rfl
  | anyOf options =>
      have hlist : listOf text (.list (options.map Value.str)) = .ok options :=
        listOf_eq fun s _ => text_eq s
      simp only [operandValue, operand, text, Checked.fail, hlist]

theorem operandValue_ne_null (o : Operand) : operandValue o ≠ .null := by
  cases o <;> exact Value.noConfusion

theorem Fields.value_ne_null (keepNull : Bool) (fields : Fields) : fields.value keepNull ≠ .null :=
  Value.noConfusion

theorem flag_eq (b : Bool) : flag (.bool b) = .ok b := rfl

theorem whole_eq (n : Int) : whole (.int n) = .ok n := rfl

theorem scope_eq (x : Scope) : scope (.str x.name) = .ok x :=
  oneOf_eq (by cases x <;> decide) _

theorem risk_eq (x : RiskLevel) : risk (.str x.name) = .ok x :=
  oneOf_eq (by cases x <;> decide) _

theorem operator_eq (x : Operator) : operator (.str x.name) = .ok x := by
  have hname : respelledOperator (.str x.name) = .str x.name := by cases x <;> rfl
  rw [operator, hname]
  exact oneOf_eq (by cases x <;> decide) _

theorem source_eq (x : Source) : source (.str x.name) = .ok x :=
  oneOf_eq (Source.ofName?_name x) _

theorem textDict_toValue (c : Context) : textDict c.toValue = .ok c :=
  textEntries_named c

theorem timestamp_eq {t : Timestamp} (h : t.Portable) : timestamp (.str t.zuluText) = .ok t := by
  have htext : textual? (.str t.zuluText) = some t.zuluText := rfl
  simp only [timestamp, htext, readMoment_zuluText h]

/-! ## Records -/

variable (keepNull : Bool)

theorem permission_value {p : Permission} (h : p.Valid) :
    permission (permissionValue keepNull p) = .ok p := by
  have hd : Distinct (permissionFields p).keys := (by decide : Distinct PermissionKey.all)
  have hstrays := @Fields.strays_eq_nil keepNull _ hd
  change permissionOf ((permissionFields p).entries keepNull) = .ok p
  generalize he : (permissionFields p).entries keepNull = entries at hstrays
  have hname : required PermissionKey.name nonemptyText entries = .ok p.name :=
    he ▸ Fields.required_eq hd (by simp [permissionFields]) Value.noConfusion (nonemptyText_eq h)
  have hscope : required PermissionKey.scope scope entries = .ok p.scope :=
    he ▸ Fields.required_eq hd (by simp [permissionFields]) Value.noConfusion (scope_eq _)
  have hrisk : required PermissionKey.risk risk entries = .ok p.risk :=
    he ▸ Fields.required_eq hd (by simp [permissionFields]) Value.noConfusion (risk_eq _)
  have hconfirm : defaulted PermissionKey.requiresConfirmation flag false entries
      = .ok p.requiresConfirmation :=
    he ▸ Fields.defaulted_eq hd (by simp [permissionFields]) Value.noConfusion (flag_eq _)
  have hdescription : defaulted PermissionKey.description (optional text) none entries
      = .ok p.description :=
    he ▸ Fields.optional_field hd (by simp [permissionFields]) (fun _ => Value.noConfusion)
      fun s _ => text_eq s
  have hparent : defaulted PermissionKey.parent (optional text) none entries = .ok p.parent :=
    he ▸ Fields.optional_field hd (by simp [permissionFields]) (fun _ => Value.noConfusion)
      fun s _ => text_eq s
  simp only [permissionOf, hname, hscope, hrisk, hconfirm, hdescription, hparent, Except.map,
    Checked.app_ok]
  exact hstrays ▸ rfl

theorem condition_value {c : Condition} (h : c.Valid) :
    condition (conditionValue keepNull c) = .ok c := by
  have hd : Distinct (conditionFields c).keys := (by decide : Distinct ConditionKey.all)
  have hstrays := @Fields.strays_eq_nil keepNull _ hd
  change conditionOf ((conditionFields c).entries keepNull) = .ok c
  generalize he : (conditionFields c).entries keepNull = entries at hstrays
  have hkind : required ConditionKey.kind nonemptyText entries = .ok c.kind :=
    he ▸ Fields.required_eq hd (by simp [conditionFields]) Value.noConfusion (nonemptyText_eq h)
  have hoperator : required ConditionKey.operator operator entries = .ok c.operator :=
    he ▸ Fields.required_eq hd (by simp [conditionFields]) Value.noConfusion (operator_eq _)
  have hoperand : required ConditionKey.operand operand entries = .ok c.operand :=
    he ▸ Fields.required_eq hd (by simp [conditionFields]) (operandValue_ne_null _) (operand_eq _)
  have hcontext : defaulted ConditionKey.contextKey (optional text) none entries
      = .ok c.contextKey :=
    he ▸ Fields.optional_field hd (by simp [conditionFields]) (fun _ => Value.noConfusion)
      fun s _ => text_eq s
  simp only [conditionOf, hkind, hoperator, hoperand, hcontext, Except.map, Checked.app_ok]
  exact hstrays ▸ rfl

theorem rule_value {r : Rule} (h : r.Valid) : rule (ruleValue keepNull r) = .ok r := by
  have hd : Distinct (ruleFields keepNull r).keys := (by decide : Distinct RuleKey.all)
  have hstrays := @Fields.strays_eq_nil keepNull _ hd
  change ruleOf ((ruleFields keepNull r).entries keepNull) = .ok r
  generalize he : (ruleFields keepNull r).entries keepNull = entries at hstrays
  have hpattern : required RuleKey.pattern nonemptyText entries = .ok r.pattern :=
    he ▸ Fields.required_eq hd (by simp [ruleFields]) Value.noConfusion
      (nonemptyText_eq h.pattern_ne)
  have hallow : required RuleKey.allow flag entries = .ok r.allow :=
    he ▸ Fields.required_eq hd (by simp [ruleFields]) Value.noConfusion (flag_eq _)
  have hconditions : defaulted RuleKey.conditions (listOf condition) [] entries
      = .ok r.conditions :=
    he ▸ Fields.defaulted_eq hd (by simp [ruleFields]) Value.noConfusion
      (listOf_eq fun c hc => condition_value keepNull (h.conditions c hc))
  have hreason : defaulted RuleKey.reason (optional text) none entries = .ok r.reason :=
    he ▸ Fields.optional_field hd (by simp [ruleFields]) (fun _ => Value.noConfusion)
      fun s _ => text_eq s
  simp only [ruleOf, hpattern, hallow, hconditions, hreason, Except.map, Checked.app_ok]
  exact hstrays ▸ rfl

theorem policy_value {p : Policy} (h : p.Valid) : policy (policyValue keepNull p) = .ok p := by
  have hd : Distinct (policyFields keepNull p).keys := (by decide : Distinct PolicyKey.all)
  have hstrays := @Fields.strays_eq_nil keepNull _ hd
  change policyOf ((policyFields keepNull p).entries keepNull) = .ok p
  generalize he : (policyFields keepNull p).entries keepNull = entries at hstrays
  have hdefault : defaulted PolicyKey.defaultAllow flag false entries = .ok p.defaultAllow :=
    he ▸ Fields.defaulted_eq hd (by simp [policyFields]) Value.noConfusion (flag_eq _)
  have hrules : defaulted PolicyKey.rules (listOf rule) [] entries = .ok p.rules :=
    he ▸ Fields.defaulted_eq hd (by simp [policyFields]) Value.noConfusion
      (listOf_eq fun r hr => rule_value keepNull (h r hr))
  simp only [policyOf, hdefault, hrules, Except.map, Checked.app_ok]
  exact hstrays ▸ rfl

theorem config_value {c : Config} (h : c.Valid) :
    config ((configFields keepNull c).value keepNull) = .ok c := by
  have hd : Distinct (configFields keepNull c).keys := (by decide : Distinct ConfigKey.all)
  have hstrays := @Fields.strays_eq_nil keepNull _ hd
  change configOf ((configFields keepNull c).entries keepNull) = .ok c
  generalize he : (configFields keepNull c).entries keepNull = entries at hstrays
  have hpermissions : defaulted ConfigKey.permissions (optional (listOf permission)) none entries
      = .ok c.permissions :=
    he ▸ Fields.optional_field hd (by simp [configFields]) (fun _ => Value.noConfusion)
      fun ps hps => listOf_eq fun p hp => permission_value keepNull (h.permissions ps hps p hp)
  have hpolicy : defaulted ConfigKey.policy (optional policy) none entries = .ok c.policy :=
    he ▸ Fields.optional_field hd (by simp [configFields]) (fun _ => Value.noConfusion)
      fun p hp => policy_value keepNull (h.policy p hp)
  simp only [configOf, hpermissions, hpolicy, Except.map, Checked.app_ok]
  exact hstrays ▸ rfl

theorem decision_value {d : Decision} (h : d.Valid) :
    decision ((decisionFields keepNull d).value keepNull) = .ok d := by
  have hd : Distinct (decisionFields keepNull d).keys := (by decide : Distinct DecisionKey.all)
  have hstrays := @Fields.strays_eq_nil keepNull _ hd
  change decisionOf ((decisionFields keepNull d).entries keepNull) = .ok d
  generalize he : (decisionFields keepNull d).entries keepNull = entries at hstrays
  have hgranted : required DecisionKey.granted flag entries = .ok d.granted :=
    he ▸ Fields.required_eq hd (by simp [decisionFields]) Value.noConfusion (flag_eq _)
  have hreason : defaulted DecisionKey.reason (optional text) none entries = .ok d.reason :=
    he ▸ Fields.optional_field hd (by simp [decisionFields]) (fun _ => Value.noConfusion)
      fun s _ => text_eq s
  have hpermission : required DecisionKey.permission text entries = .ok d.permission :=
    he ▸ Fields.required_eq hd (by simp [decisionFields]) Value.noConfusion (text_eq _)
  have hcontext : defaulted DecisionKey.context textDict [] entries = .ok d.context :=
    he ▸ Fields.defaulted_eq hd (by simp [decisionFields]) Value.noConfusion
      (textDict_toValue d.context)
  have htimestamp : required DecisionKey.timestamp timestamp entries = .ok d.timestamp :=
    he ▸ Fields.required_eq hd (by simp [decisionFields]) Value.noConfusion
      (timestamp_eq h.timestamp)
  have hsource : required DecisionKey.source source entries = .ok d.source :=
    he ▸ Fields.required_eq hd (by simp [decisionFields]) Value.noConfusion (source_eq _)
  have hexpires : defaulted DecisionKey.expiresAt (optional timestamp) none entries
      = .ok d.expiresAt :=
    he ▸ Fields.optional_field hd (by simp [decisionFields]) (fun _ => Value.noConfusion)
      fun t ht => timestamp_eq (h.expiresAt t ht)
  have huses : defaulted DecisionKey.remainingUses (optional whole) none entries
      = .ok d.remainingUses :=
    he ▸ Fields.optional_field hd (by simp [decisionFields]) (fun _ => Value.noConfusion)
      fun n _ => whole_eq n
  have hrule : defaulted DecisionKey.rule (optional rule) none entries = .ok d.rule :=
    he ▸ Fields.optional_field hd (by simp [decisionFields]) (fun _ => Value.noConfusion)
      fun r hr => rule_value keepNull (h.rule r hr)
  simp only [decisionOf, hgranted, hreason, hpermission, hcontext, htimestamp, hsource, hexpires,
    huses, hrule, Except.map, Checked.app_ok]
  exact hstrays ▸ rfl

/-! ## Documents -/

/-- The members that are written are those that denote a field that is there. -/
theorem members_eq (ms : List (String × Json)) :
    members keepNull ms = .object (ms.filter fun member => isKept keepNull member.2.toValue) := by
  refine congrArg Json.object (List.filter_congr fun member _ => ?_)
  obtain ⟨name, j⟩ := member
  cases j
  case object members => rw [Json.toValue]; rfl
  all_goals rfl

/-- The document of a record denotes the record. -/
theorem toValue_members {ms : List (String × Json)} {fields : Fields}
    (hd : Distinct fields.keys)
    (h : Json.fieldsOf ms = fields.map fun field => (field.1.name, field.2)) :
    (members keepNull ms).toValue = fields.value keepNull := by
  have hfields : Json.fieldsOf (ms.filter fun member => isKept keepNull member.2.toValue)
      = fields.table keepNull := by
    have hfilter : Json.fieldsOf (ms.filter fun member => isKept keepNull member.2.toValue)
        = (Json.fieldsOf ms).filter fun field => isKept keepNull field.2 := by
      rw [Json.fieldsOf, Json.fieldsOf, List.filter_map]
      rfl
    rw [hfilter, h, List.filter_map]
    rfl
  have hnames := @Fields.nodup_names_table keepNull fields hd
  rw [← hfields, Json.names_fieldsOf] at hnames
  rw [members_eq, Json.toValue_object hnames, hfields]
  rfl

theorem optional_toValue {α : Type} {document : α -> Json} {value : α -> Value}
    (h : ∀ x, (document x).toValue = value x) (x? : Option α) :
    ((x?.map document).getD .null).toValue = optionalValue value x? := by
  cases x? with
  | none => rfl
  | some x => exact h x

theorem optionalText_toValue (s? : Option String) :
    (optionalText s?).toValue = optionalValue .str s? :=
  optional_toValue (fun _ => rfl) s?

theorem toValue_array {α : Type} {document : α -> Json} {value : α -> Value}
    (h : ∀ x, (document x).toValue = value x) (xs : List α) :
    (Json.array (xs.map document)).toValue = .list (xs.map value) := by
  rw [Json.toValue, Json.toValues_eq_map, List.map_map]
  exact congrArg Value.list (List.map_congr_left fun x _ => h x)

theorem operandDocument_toValue (o : Operand) : (operandDocument o).toValue = operandValue o := by
  cases o with
  | one s => rfl
  | anyOf options => exact toValue_array (fun _ => rfl) options

theorem conditionDocument_toValue (c : Condition) :
    (conditionDocument keepNull c).toValue = conditionValue keepNull c := by
  have hd : Distinct (conditionFields c).keys := (by decide : Distinct ConditionKey.all)
  refine toValue_members keepNull hd ?_
  simp only [Json.fieldsOf, List.map, operandDocument_toValue, optionalText_toValue]
  rfl

theorem ruleDocument_toValue (r : Rule) :
    (ruleDocument keepNull r).toValue = ruleValue keepNull r := by
  have hd : Distinct (ruleFields keepNull r).keys := (by decide : Distinct RuleKey.all)
  refine toValue_members keepNull hd ?_
  simp only [Json.fieldsOf, List.map, optionalText_toValue,
    toValue_array (conditionDocument_toValue keepNull)]
  rfl

/-! Documents of records have no numbers but those of the context. -/

theorem isFinite_members {ms : List (String × Json)} (h : Json.haveFinite ms = true) :
    (members keepNull ms).isFinite = true := by
  rw [members_eq]
  exact Json.haveFinite_iff.2 fun member hmember =>
    Json.haveFinite_iff.1 h member (List.mem_filter.1 hmember).1

theorem areFinite_map {α : Type} {document : α -> Json} (h : ∀ x, (document x).isFinite = true)
    (xs : List α) : Json.areFinite (xs.map document) = true := by
  induction xs with
  | nil => rfl
  | cons x rest ih => rw [List.map_cons, Json.areFinite, h x, ih]; rfl

theorem isFinite_optional {α : Type} {document : α -> Json} (h : ∀ x, (document x).isFinite = true)
    (x? : Option α) : ((x?.map document).getD .null).isFinite = true := by
  cases x? with
  | none => rfl
  | some x => exact h x

theorem isFinite_conditionDocument (c : Condition) :
    (conditionDocument keepNull c).isFinite = true := by
  refine isFinite_members keepNull ?_
  have hoperand : (operandDocument c.operand).isFinite = true := by
    cases c.operand with
    | one s => rfl
    | anyOf options => exact areFinite_map (fun s => rfl) options
  have hkey : (optionalText c.contextKey).isFinite = true := isFinite_optional (fun s => rfl) _
  simp only [Json.haveFinite, Json.isFinite, hoperand, hkey, Bool.and_self]

theorem isFinite_ruleDocument (r : Rule) : (ruleDocument keepNull r).isFinite = true := by
  refine isFinite_members keepNull ?_
  have hconditions := areFinite_map (isFinite_conditionDocument keepNull) r.conditions
  have hreason : (optionalText r.reason).isFinite = true := isFinite_optional (fun s => rfl) _
  simp only [Json.haveFinite, Json.isFinite, hconditions, hreason, Bool.and_self]

/-- The document of a decision denotes its fields, with the context that its document denotes. -/
theorem decisionDocument_of_context {d : Decision} {context : Json} {c : Context}
    (hcontext : valueDocument keepNull d.context.toValue = .ok context)
    (hfinite : context.isFinite = true) (hvalue : context.toValue = c.toValue) :
    ∃ j, decisionDocument keepNull d = .ok j ∧ j.isFinite = true ∧
      j.toValue = (decisionFields keepNull { d with context := c }).value keepNull := by
  have hd : Distinct (decisionFields keepNull { d with context := c }).keys :=
    (by decide : Distinct DecisionKey.all)
  refine ⟨_, by rw [decisionDocument, contextDocument, hcontext]; rfl, ?_, ?_⟩
  · refine isFinite_members keepNull ?_
    have htext : ∀ s? : Option String, (optionalText s?).isFinite = true :=
      isFinite_optional fun s => rfl
    have huses := @isFinite_optional _ Json.int (fun n => rfl) d.remainingUses
    have hrule := isFinite_optional (isFinite_ruleDocument keepNull) d.rule
    simp only [Json.haveFinite, Json.isFinite, htext, huses, hrule, hfinite, Bool.and_self]
  · refine toValue_members keepNull hd ?_
    have huses := @optional_toValue _ Json.int Value.int (fun n => rfl) d.remainingUses
    have hrule := optional_toValue (ruleDocument_toValue keepNull) d.rule
    have hexpires : optionalValue Value.str (d.expiresAt.map Timestamp.zuluText)
        = optionalValue (fun t => .str t.zuluText) d.expiresAt := by
      cases d.expiresAt <;> rfl
    simp only [Json.fieldsOf, List.map, optionalText_toValue, hvalue, huses, hrule, hexpires]
    rfl

/-- The document of a decision in plain data denotes its fields. -/
theorem decisionDocument_eq {d : Decision} (h : d.context.toValue.Plain) :
    ∃ j, decisionDocument keepNull d = .ok j ∧ j.isFinite = true ∧
      j.toValue = (decisionFields keepNull d).value keepNull := by
  obtain ⟨context, hcontext, hfinite, hvalue⟩ := Json.valueDocument_eq keepNull h
  exact decisionDocument_of_context keepNull hcontext hfinite hvalue

end Schema

end Clearance
