import Clearance.Decision
import Clearance.Schema.Scalar

/-!
# Reading records

Each record is read from a dictionary.  A field goes by its name, or by an alias that comes first
when both are there; whatever is no field is refused.
-/

namespace Clearance.Schema

open Checked (app fail under)

/-- The key of a field, and the other key that is asked for first. -/
structure Key where
  name : String
  alias? : Option String := none

/-- Drops low lines; what follows one starts with a capital. -/
def joinedChars : (raised : Bool) -> List Char -> List Char
  | _, [] => []
  | raised, c :: rest =>
      if c = '_' then joinedChars true rest
      else (if raised then c.toUpper else c) :: joinedChars false rest

/-- The joined spelling of a name: each part after the first starts with a capital. -/
def joinedName (s : String) : String :=
  String.ofList (joinedChars false s.toList)

/-- A key that may also be spelled joined. -/
def spelled (name : String) : Key :=
  let joined := joinedName name
  { name, alias? := if joined = name then none else some joined }

/-- The key under which a field is given, with its value. -/
def Key.find? (key : Key) (entries : List (Value × Value)) : Option (String × Value) :=
  let named (s : String) := (Value.lookup s entries).map fun v => (s, v)
  ((key.alias?).bind named).orElse fun _ => named key.name

/-- A field that must be there. -/
def required {α : Type} (key : Key) (read : Value -> Checked α) (entries : List (Value × Value)) :
    Checked α :=
  match key.find? entries with
  | some (used, v) => under (.name used) (read v)
  | none =>
      .error
        [{ path := [.name (key.alias?.getD key.name)], kind := .missing, input := .dict entries }]

/-- A field with a value of its own when it is left out. -/
def defaulted {α : Type} (key : Key) (read : Value -> Checked α) (default : α)
    (entries : List (Value × Value)) : Checked α :=
  match key.find? entries with
  | some (used, v) => under (.name used) (read v)
  | none => .ok default

/-- The issues of entries that are no fields. -/
def strays (keys : List Key) (entries : List (Value × Value)) : List Issue :=
  let used := keys.filterMap fun key => (key.find? entries).map Prod.fst
  entries.filterMap fun (k, v) =>
    match k with
    | .str s =>
        if used.contains s then none
        else some { path := [.name s], kind := .extraForbidden, input := v }
    | k => some { path := [keyStep k], kind := .invalidKey, input := k }

/-- The entries of a record. -/
def recordEntries (title : String) (v : Value) : Checked (List (Value × Value)) :=
  match v with
  | .dict entries => .ok entries
  | _ => fail (.recordType title) v

/-! ## Permissions -/

def scope : Value -> Checked Scope :=
  oneOf (Scope.all.map Scope.name) Scope.ofName?

def risk : Value -> Checked RiskLevel :=
  oneOf (RiskLevel.all.map RiskLevel.name) RiskLevel.ofName?

namespace PermissionKey

def name : Key := spelled "name"
def scope : Key := spelled "scope"
def risk : Key := spelled "risk"
def requiresConfirmation : Key := spelled "requires_confirmation"
def description : Key := spelled "description"
def parent : Key := spelled "parent"

def all : List Key := [name, scope, risk, requiresConfirmation, description, parent]

end PermissionKey

def permissionOf (entries : List (Value × Value)) : Checked Permission :=
  let build := (Checked.app
      ((required PermissionKey.name nonemptyText entries).map
        fun name scope risk confirm description parent =>
          ({ name, scope, risk, requiresConfirmation := confirm, description, parent } : Permission))
      (required PermissionKey.scope scope entries))
  let build := app build (required PermissionKey.risk risk entries)
  let build := app build (defaulted PermissionKey.requiresConfirmation flag false entries)
  let build := app build (defaulted PermissionKey.description (optional text) none entries)
  let build := app build (defaulted PermissionKey.parent (optional text) none entries)
  build.refusing (strays PermissionKey.all entries)

/-- A permission, from its fields or as it is. -/
def permission (v : Value) : Checked Permission :=
  match v with
  | .permission p => .ok p
  | v => (recordEntries "Permission" v).bind permissionOf

/-! ## Policies -/

/-- One text or a list of texts; if neither fits, the issues of both readings are told. -/
def operand (v : Value) : Checked Operand :=
  match text v with
  | .ok s => .ok (.one s)
  | .error issues =>
      match listOf text v with
      | .ok options => .ok (.anyOf options)
      | .error more =>
          .error (issues.map (Issue.under (.name "str"))
            ++ more.map (Issue.under (.name "list[str]")))

namespace ConditionKey

def kind : Key := spelled "type"
def operator : Key := spelled "operator"
def operand : Key := spelled "value"
def contextKey : Key := spelled "context_key"

def all : List Key := [kind, operator, operand, contextKey]

end ConditionKey

/-- A joined spelling as the name of its operator; only a text is one, its encoding is not. -/
def respelledOperator : Value -> Value
  | .str s => .str (((Operator.ofSpelling? s).map Operator.name).getD s)
  | v => v

def operator (v : Value) : Checked Operator :=
  oneOf (Operator.all.map Operator.name) Operator.ofName? (respelledOperator v)

def conditionOf (entries : List (Value × Value)) : Checked Condition :=
  let build := (required ConditionKey.kind nonemptyText entries).map
    fun kind operator operand contextKey => ({ kind, operator, operand, contextKey } : Condition)
  let build := app build (required ConditionKey.operator operator entries)
  let build := app build (required ConditionKey.operand operand entries)
  let build := app build (defaulted ConditionKey.contextKey (optional text) none entries)
  build.refusing (strays ConditionKey.all entries)

def condition (v : Value) : Checked Condition :=
  (recordEntries "Condition" v).bind conditionOf

namespace RuleKey

def pattern : Key := { name := "pattern", alias? := some "permission" }
def allow : Key := { name := "allow" }
def conditions : Key := { name := "conditions" }
def reason : Key := { name := "reason" }

def all : List Key := [pattern, allow, conditions, reason]

end RuleKey

def ruleOf (entries : List (Value × Value)) : Checked Rule :=
  let build := (required RuleKey.pattern nonemptyText entries).map
    fun pattern allow conditions reason => ({ pattern, allow, conditions, reason } : Rule)
  let build := app build (required RuleKey.allow flag entries)
  let build := app build (defaulted RuleKey.conditions (listOf condition) [] entries)
  let build := app build (defaulted RuleKey.reason (optional text) none entries)
  build.refusing (strays RuleKey.all entries)

def rule (v : Value) : Checked Rule :=
  (recordEntries "PermissionRule" v).bind ruleOf

namespace PolicyKey

def defaultAllow : Key := spelled "default_allow"
def rules : Key := spelled "rules"

def all : List Key := [defaultAllow, rules]

end PolicyKey

def policyOf (entries : List (Value × Value)) : Checked Policy :=
  let build := (defaulted PolicyKey.defaultAllow flag false entries).map
    fun defaultAllow rules => ({ defaultAllow, rules } : Policy)
  let build := app build (defaulted PolicyKey.rules (listOf rule) [] entries)
  build.refusing (strays PolicyKey.all entries)

def policy (v : Value) : Checked Policy :=
  (recordEntries "PermissionPolicy" v).bind policyOf

/-! ## Requests and decisions -/

namespace RequestKey

def permission : Key := { name := "permission" }
def context : Key := { name := "context" }

def all : List Key := [permission, context]

end RequestKey

def requestOf (entries : List (Value × Value)) : Checked Request :=
  let build := (required RequestKey.permission text entries).map
    fun permission context => ({ permission, context } : Request)
  let build := app build (defaulted RequestKey.context textDict [] entries)
  build.refusing (strays RequestKey.all entries)

def request (v : Value) : Checked Request :=
  (recordEntries "PermissionCheck" v).bind requestOf

def source : Value -> Checked Source :=
  oneOf (Source.all.map Source.name) Source.ofName?

namespace DecisionKey

def granted : Key := spelled "granted"
def reason : Key := spelled "reason"
def permission : Key := spelled "permission"
def context : Key := spelled "context"
def timestamp : Key := spelled "timestamp"
def source : Key := spelled "source"
def expiresAt : Key := spelled "expires_at"
def remainingUses : Key := spelled "remaining_uses"
def rule : Key := spelled "rule"

def all : List Key :=
  [ granted, reason, permission, context, timestamp, source, expiresAt, remainingUses, rule ]

end DecisionKey

def decisionOf (entries : List (Value × Value)) : Checked Decision :=
  let build := (required DecisionKey.granted flag entries).map
    fun granted reason permission context timestamp source expiresAt remainingUses rule =>
      ({ granted, reason, permission, context, timestamp, source, expiresAt, remainingUses, rule }
        : Decision)
  let build := app build (defaulted DecisionKey.reason (optional text) none entries)
  let build := app build (required DecisionKey.permission text entries)
  let build := app build (defaulted DecisionKey.context textDict [] entries)
  let build := app build (required DecisionKey.timestamp timestamp entries)
  let build := app build (required DecisionKey.source source entries)
  let build := app build (defaulted DecisionKey.expiresAt (optional timestamp) none entries)
  let build := app build (defaulted DecisionKey.remainingUses (optional whole) none entries)
  let build := app build (defaulted DecisionKey.rule (optional rule) none entries)
  build.refusing (strays DecisionKey.all entries)

def decision (v : Value) : Checked Decision :=
  (recordEntries "PermissionResult" v).bind decisionOf

namespace EntryKey

def timestamp : Key := { name := "timestamp" }
def permission : Key := { name := "permission" }
def context : Key := { name := "context" }
def result : Key := { name := "result" }

def all : List Key := [timestamp, permission, context, result]

end EntryKey

def entryOf (entries : List (Value × Value)) : Checked AuditEntry :=
  let build := (required EntryKey.timestamp timestamp entries).map
    fun timestamp permission context result =>
      ({ timestamp, permission, context, result } : AuditEntry)
  let build := app build (required EntryKey.permission text entries)
  let build := app build (defaulted EntryKey.context textDict [] entries)
  let build := app build (required EntryKey.result decision entries)
  build.refusing (strays EntryKey.all entries)

/-- An entry of a decision, from the entries that say when, what and in which context. -/
def entryWith (result : Decision) (entries : List (Value × Value)) : Checked AuditEntry :=
  let build := (required EntryKey.timestamp timestamp entries).map
    fun timestamp permission context =>
      ({ timestamp, permission, context, result } : AuditEntry)
  let build := app build (required EntryKey.permission text entries)
  app build (defaulted EntryKey.context textDict [] entries)

def auditEntry (v : Value) : Checked AuditEntry :=
  (recordEntries "AuditLogEntry" v).bind entryOf

namespace InquiryKey

def permission : Key := { name := "permission" }
def risk : Key := { name := "risk" }
def context : Key := { name := "context" }

def all : List Key := [permission, risk, context]

end InquiryKey

def inquiryOf (entries : List (Value × Value)) : Checked Inquiry :=
  let build := (required InquiryKey.permission text entries).map
    fun permission risk context => ({ permission, risk, context } : Inquiry)
  let build := app build (required InquiryKey.risk risk entries)
  let build := app build (defaulted InquiryKey.context textDict [] entries)
  build.refusing (strays InquiryKey.all entries)

def inquiry (v : Value) : Checked Inquiry :=
  (recordEntries "ConfirmationRequest" v).bind inquiryOf

/-! ## Configurations and settings -/

namespace ConfigKey

def permissions : Key := { name := "permissions" }
def policy : Key := { name := "policy" }

def all : List Key := [permissions, policy]

end ConfigKey

def configOf (entries : List (Value × Value)) : Checked Config :=
  let build := (defaulted ConfigKey.permissions (optional (listOf permission)) none entries).map
    fun permissions policy => ({ permissions, policy } : Config)
  let build := app build (defaulted ConfigKey.policy (optional policy) none entries)
  build.refusing (strays ConfigKey.all entries)

def config (v : Value) : Checked Config :=
  (recordEntries "PermissionConfig" v).bind configOf

namespace SettingsKey

def timeout : Key := { name := "confirmation_timeout_seconds" }
def unhandled : Key := { name := "unhandled_confirmation" }
def seed : Key := { name := "seed_builtin_permissions" }

def all : List Key := [timeout, unhandled, seed]

end SettingsKey

def unhandled : Value -> Checked Unhandled :=
  oneOf ["deny", "allow"] Unhandled.ofName?

def settingsOf (entries : List (Value × Value)) : Checked Settings :=
  let standard : Settings := {}
  let build :=
    (defaulted SettingsKey.timeout positive standard.confirmationTimeoutSeconds entries).map
      fun timeout unhandled seed =>
        ({ confirmationTimeoutSeconds := timeout, unhandledConfirmation := unhandled
           seedBuiltinPermissions := seed } : Settings)
  let build :=
    app build (defaulted SettingsKey.unhandled unhandled standard.unhandledConfirmation entries)
  let build := app build (defaulted SettingsKey.seed flag standard.seedBuiltinPermissions entries)
  build.refusing (strays SettingsKey.all entries)

def settings (v : Value) : Checked Settings :=
  (recordEntries "EngineSettings" v).bind settingsOf

/-- Names the record whose issues are told. -/
def titled {α : Type} (title : String) (c : Checked α) : Except Invalid α :=
  c.mapError fun issues => { title, issues }

end Clearance.Schema
