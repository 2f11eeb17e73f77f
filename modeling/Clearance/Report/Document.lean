import Clearance.Json.OfValue
import Clearance.Report.Summary
import Clearance.Schema.Document

/-!
# Report documents

A report is a summary and the entries, each on its own.  It is written as indented text in which
timestamps and permissions in a context keep their fields and all else becomes text.
-/

namespace Clearance.Report

/-- The version of the layout of a report. -/
def version : String := "1.0"

/-- An entry under its place, as plain data. -/
def entryValue (index : Nat) (e : AuditEntry) : Value :=
  let d := e.result
  .dict
    [ (.str "index", .int index), (.str "timestamp", .str e.timestamp.isoText),
      (.str "permission", .str e.permission), (.str "granted", .bool d.granted),
      (.str "source", .str d.source.name), (.str "reason", (d.reason.map Value.str).getD .null),
      (.str "context", e.context.toValue), (.str "expires_at", Summary.isoValue d.expiresAt),
      (.str "remaining_uses", (d.remainingUses.map Value.int).getD .null),
      (.str "rule", (d.rule.map fun r => (Schema.ruleDocument false r).toValue).getD .null) ]

def entryValues (entries : List AuditEntry) : List Value :=
  entries.mapIdx entryValue

/-- A report as plain data; the time at which it is made is given as text. -/
def toValue (generatedAt : String) (entries : List AuditEntry) : Value :=
  .dict
    [ (.str "report_version", .str version), (.str "generated_at", .str generatedAt),
      (.str "summary", (Summary.of entries).toValue),
      (.str "entries", .list (entryValues entries)) ]

/-- The form of data in a report. -/
def form : Json.Form where
  sorted := false
  other
    | .timestamp t => .ok (.string t.isoText)
    | .permission p => .ok (Schema.permissionDocument true p)
    | v => Json.ofText v

/-- The text of a report. -/
def text (generatedAt : String) (entries : List AuditEntry) (spread : Json.Spread := .indented 2) :
    Except Json.OfValueFault String := do
  return Json.render (Json.asciiStyle spread) (<- Json.ofValue form (toValue generatedAt entries))

end Clearance.Report
