import Clearance.Decision
import Clearance.Json.Writer

/-!
# Writing records

Records as documents, field by field in the order they are declared.  Data without a written
form makes the whole record unwritable.
-/

namespace Clearance.Schema

/-- The value has no written form. -/
structure Unwritable where
  deriving DecidableEq, Repr

/-- The text of a key. -/
def keyText : Value -> Except Unwritable String
  | .null => .ok "None"
  | .bool b => .ok (if b then "true" else "false")
  | .int n => .ok (Decimal.intText n)
  | .real x => .ok (Decimal.general.text x)
  | .str s => .ok s
  | .timestamp t => .ok t.zuluText
  | .date d => .ok (Timestamp.dateText d)
  | .bytes b =>
      match String.fromUTF8? ⟨b.toArray⟩ with
      | some s => .ok s
      | none => .error {}
  | _ => .error {}

/-- Leaves null members out, if they are not wanted. -/
def members (keepNull : Bool) (ms : List (String × Json)) : Json :=
  .object (ms.filter fun (_, j) =>
    match j with
    | .null => keepNull
    | _ => true)

def optionalText (s : Option String) : Json :=
  (s.map Json.string).getD .null

def permissionDocument (keepNull : Bool) (p : Permission) : Json :=
  members keepNull
    [ ("name", .string p.name), ("scope", .string p.scope.name), ("risk", .string p.risk.name),
      ("requires_confirmation", .bool p.requiresConfirmation),
      ("description", optionalText p.description), ("parent", optionalText p.parent) ]

mutual

/-- A value as a document. -/
def valueDocument (keepNull : Bool) : Value -> Except Unwritable Json
  | .null => .ok .null
  | .bool b => .ok (.bool b)
  | .int n => .ok (.int n)
  | .real x => .ok (if x.isFinite then .real x else .null)
  | .str s => .ok (.string s)
  | .bytes b =>
      match String.fromUTF8? ⟨b.toArray⟩ with
      | some s => .ok (.string s)
      | none => .error {}
  | .list items => (itemDocuments keepNull items).map .array
  | .tuple items => (itemDocuments keepNull items).map .array
  | .set items => (itemDocuments keepNull items).map .array
  | .dict entries => (entryDocuments keepNull entries).map .object
  | .timestamp t => .ok (.string t.zuluText)
  | .date d => .ok (.string (Timestamp.dateText d))
  | .permission p => .ok (permissionDocument keepNull p)
  | .mute _ => .error {}

def itemDocuments (keepNull : Bool) : List Value -> Except Unwritable (List Json)
  | [] => .ok []
  | v :: rest => do
      let j <- valueDocument keepNull v
      let js <- itemDocuments keepNull rest
      return j :: js

def entryDocuments (keepNull : Bool) :
    List (Value × Value) -> Except Unwritable (List (String × Json))
  | [] => .ok []
  | (k, v) :: rest => do
      let name <- keyText k
      let j <- valueDocument keepNull v
      let ms <- entryDocuments keepNull rest
      return (name, j) :: ms

end

def contextDocument (keepNull : Bool) (c : Context) : Except Unwritable Json :=
  valueDocument keepNull c.toValue

def operandDocument : Operand -> Json
  | .one s => .string s
  | .anyOf options => .array (options.map Json.string)

def conditionDocument (keepNull : Bool) (c : Condition) : Json :=
  members keepNull
    [ ("type", .string c.kind), ("operator", .string c.operator.name),
      ("value", operandDocument c.operand), ("context_key", optionalText c.contextKey) ]

def ruleDocument (keepNull : Bool) (r : Rule) : Json :=
  members keepNull
    [ ("pattern", .string r.pattern), ("allow", .bool r.allow),
      ("conditions", .array (r.conditions.map (conditionDocument keepNull))),
      ("reason", optionalText r.reason) ]

def policyDocument (keepNull : Bool) (p : Policy) : Json :=
  members keepNull
    [ ("default_allow", .bool p.defaultAllow),
      ("rules", .array (p.rules.map (ruleDocument keepNull))) ]

def configDocument (keepNull : Bool) (c : Config) : Json :=
  members keepNull
    [ ("permissions",
        (c.permissions.map fun ps => .array (ps.map (permissionDocument keepNull))).getD .null),
      ("policy", (c.policy.map (policyDocument keepNull)).getD .null) ]

def settingsDocument (s : Settings) : Json :=
  .object
    [ ("confirmation_timeout_seconds",
        if s.confirmationTimeoutSeconds.isFinite then .real s.confirmationTimeoutSeconds else .null),
      ("unhandled_confirmation", .string s.unhandledConfirmation.name),
      ("seed_builtin_permissions", .bool s.seedBuiltinPermissions) ]

def requestDocument (keepNull : Bool) (r : Request) : Except Unwritable Json := do
  let context <- contextDocument keepNull r.context
  return .object [("permission", .string r.permission), ("context", context)]

def decisionDocument (keepNull : Bool) (d : Decision) : Except Unwritable Json := do
  let context <- contextDocument keepNull d.context
  return members keepNull
    [ ("granted", .bool d.granted), ("reason", optionalText d.reason),
      ("permission", .string d.permission), ("context", context),
      ("timestamp", .string d.timestamp.zuluText), ("source", .string d.source.name),
      ("expires_at", optionalText (d.expiresAt.map Timestamp.zuluText)),
      ("remaining_uses", (d.remainingUses.map Json.int).getD .null),
      ("rule", (d.rule.map (ruleDocument keepNull)).getD .null) ]

def entryDocument (keepNull : Bool) (e : AuditEntry) : Except Unwritable Json := do
  let context <- contextDocument keepNull e.context
  let result <- decisionDocument keepNull e.result
  return .object
    [ ("timestamp", .string e.timestamp.zuluText), ("permission", .string e.permission),
      ("context", context), ("result", result) ]

def inquiryDocument (keepNull : Bool) (i : Inquiry) : Except Unwritable Json := do
  let context <- contextDocument keepNull i.context
  return .object
    [ ("permission", .string i.permission), ("risk", .string i.risk.name), ("context", context) ]

end Clearance.Schema
