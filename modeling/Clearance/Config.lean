import Clearance.Fault
import Clearance.Schema.Record
import Clearance.Yaml.Node.Value
import Clearance.Yaml.Tree

/-!
# Configurations

A configuration is a dictionary with a catalog, a policy, both or neither.  It is read from data
or from a text, and written as a text.
-/

namespace Clearance

/-- An issue on a line of its own. -/
def Schema.Issue.line (i : Schema.Issue) : String :=
  i.location ++ ": " ++ i.kind.message

/-- The configuration in a value from some source; nothing at all is the empty configuration. -/
def Config.ofValue (v : Value) (source : String := "<mapping>") : Except Fault Config :=
  let refuse (errors : List String) : Except Fault Config :=
    .error (Fault.of (.configInvalid source errors))
  match v with
  | .null => .ok {}
  | .dict _ =>
      match Schema.config v with
      | .ok config => .ok config
      | .error issues => refuse (issues.map Schema.Issue.line)
  | v => refuse ["expected a mapping at top level, got " ++ v.kindName]

/-- Why a text is no configuration: it cannot be used, or a scalar in it has no value. -/
inductive ConfigFault where
  | fault (f : Fault)
  | content (f : Yaml.ContentFault)

namespace Yaml

/-- Whether a text is at fault as a text, and not for a number in an escape or a directive. -/
def Flaw.isOfText : Flaw -> Bool
  | .characterTooLarge | .characterOutOfBounds | .longVersion _ => false
  | _ => true

end Yaml

namespace Config

/-- The configuration in a text. -/
def ofText (text : String) (source : String := "<string>") : Except ConfigFault Config :=
  match Yaml.load text with
  | .ok v => (Config.ofValue v source).mapError ConfigFault.fault
  | .error (.flaw flaw) =>
      if flaw.isOfText then .error (.fault (Fault.of (.configLoad source flaw.message)))
      else .error (.content (.flaw flaw))
  | .error f => .error (.content f)

/-! ## Writing -/

open Yaml (Tree)

/-- A field that is left out when there is nothing in it. -/
def optionalField {α : Type} (name : String) (write : α -> Tree) (a? : Option α) :
    List (String × Tree) :=
  (a?.map fun a => (name, write a)).toList

def permissionTree (p : Permission) : Tree :=
  .record
    ([ ("name", Tree.text p.name), ("scope", .text p.scope.name), ("risk", .text p.risk.name),
       ("requires_confirmation", .flag p.requiresConfirmation) ]
      ++ optionalField "description" Tree.text p.description
      ++ optionalField "parent" Tree.text p.parent)

def operandTree : Operand -> Tree
  | .one s => .text s
  | .anyOf options => .list (options.map Tree.text)

def conditionTree (c : Condition) : Tree :=
  .record
    ([ ("type", Tree.text c.kind), ("operator", .text c.operator.name),
       ("value", operandTree c.operand) ]
      ++ optionalField "context_key" Tree.text c.contextKey)

def ruleTree (r : Rule) : Tree :=
  .record
    ([ ("pattern", Tree.text r.pattern), ("allow", .flag r.allow),
       ("conditions", .list (r.conditions.map conditionTree)) ]
      ++ optionalField "reason" Tree.text r.reason)

def policyTree (p : Policy) : Tree :=
  .record [("default_allow", .flag p.defaultAllow), ("rules", .list (p.rules.map ruleTree))]

/-- The fields of a configuration; a part that is not there is left out. -/
def fields (c : Config) : List (String × Tree) :=
  optionalField "permissions" (fun ps => Tree.list (ps.map permissionTree)) c.permissions
    ++ optionalField "policy" policyTree c.policy

def toText (c : Config) : String :=
  Tree.render c.fields

end Config

end Clearance
