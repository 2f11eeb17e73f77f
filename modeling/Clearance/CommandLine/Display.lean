import Clearance.Config
import Clearance.Confirmation.Prompt
import Clearance.Json.OfValue
import Clearance.Json.Writer
import Clearance.Printed

/-!
# What commands show
-/

namespace Clearance.CommandLine

open Printed (styled)

def programName : String := "permguard"
def programVersion : String := "0.1.0"

def versionItems : List Printed :=
  [.markup (styled "bold" programName ++ " version " ++ programVersion)]

/-- How the program is used, line by line. -/
def usageLines : List String :=
  [ "Usage: " ++ programName ++ " [--version] [--verbose] COMMAND",
    "  check PERMISSION [-c FILE] [-x KEY=VALUE] [-g NAME] [--audit-db FILE] [-i]",
    "        [--allow-unconfirmed] [--json] [--debug]",
    "  list [-c FILE] [--risk LEVEL] [--scope SCOPE]",
    "  validate FILE",
    "  export [-c FILE] [-o FILE]",
    "  audit FILE [-f granted|denied] [-p NAME] [-n LIMIT] [--json] [--verbose]" ]

/-- A detail under a name. -/
def detail (name text : String) : Printed :=
  .markup ("  " ++ styled "dim" (name ++ ":") ++ " " ++ text)

/-- The details of a decision. -/
def decisionItems (d : Decision) : List Printed :=
  let verdict := if d.granted then styled "green" "✓ GRANTED" else styled "red" "✗ DENIED"
  let reason := (d.reason.filter (· != "")).map (detail "Reason")
  let rule := d.rule.map fun r =>
    detail "Rule" (r.pattern ++ " (allow=" ++ Literal.flag r.allow ++ ")")
  let expiry := d.expiresAt.map fun t => detail "Expires" t.isoText
  let uses := d.remainingUses.map fun n => detail "Remaining uses" (Decimal.intText n)
  [.markup (verdict ++ " " ++ styled "bold" d.permission), detail "Decided by" d.source.name]
    ++ reason.toList ++ rule.toList ++ expiry.toList ++ uses.toList

def permissionRow (p : Permission) : List String :=
  [ p.name, p.scope.name, styled (Confirmation.Prompt.style p.risk) p.risk.name,
    if p.requiresConfirmation then "yes" else "", p.description.getD "" ]

/-- A list of permissions. -/
def permissionItems (ps : List Permission) : List Printed :=
  if ps.isEmpty then [.markup (styled "dim" "No permissions found.")]
  else
    [ .table (some ["Permission", "Scope", "Risk", "Confirm", "Description"]) false
        (ps.map permissionRow) ]

def ruleItem (index : Nat) (r : Rule) : Printed :=
  let verdict := if r.allow then styled "green" "allow" else styled "red" "deny"
  .markup ("    " ++ Decimal.natText (index + 1) ++ ". " ++ r.pattern ++ " → " ++ verdict ++ " "
    ++ styled "dim" ("(" ++ Decimal.natText r.conditions.length ++ " condition(s))"))

/-- The parts of a configuration that is valid. -/
def configItems (name : String) (c : Config) : List Printed :=
  let permissions := c.permissions.map fun ps =>
    detail "Permissions" (Decimal.natText ps.length ++ " (replaces built-ins)")
  let policy := (c.policy.map fun p =>
    [ detail "Default" (if p.defaultAllow then "allow" else "deny"),
      detail "Rules" (Decimal.natText p.rules.length) ]
      ++ p.rules.mapIdx ruleItem).getD []
  [.markup (styled "green" "✓" ++ " " ++ name ++ " is valid")] ++ permissions.toList ++ policy

def writtenItems (path : String) : List Printed :=
  [.markup (styled "green" "✓" ++ " Wrote " ++ path)]

/-- A fault, with the trail of calls that led to it if there is one. -/
def faultItems (trace? : Option String) (f : Fault) : List Printed :=
  .markup (styled "red" (Printed.escape f.text))
    :: (trace?.map fun trace => .markup (styled "dim" trace)).toList

/-- A fault as a document. -/
def faultText (f : Fault) : Except Json.OfValueFault String := do
  let v : Value := .dict ((.str "error", .bool true) :: f.toContext.map fun (n, v) => (.str n, v))
  let j <- Json.ofValue { sorted := false, other := Json.ofText } v
  return Json.render (Json.asciiStyle (.indented 2)) j

end Clearance.CommandLine
