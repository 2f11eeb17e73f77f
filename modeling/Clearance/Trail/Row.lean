import Clearance.Fault
import Clearance.Json.OfValue
import Clearance.Json.Reader
import Clearance.Schema.Document
import Clearance.Schema.Record
import Clearance.Time.Iso

/-!
# Rows of a trail

A recorded decision is a row of cells.  The cells that are searched stand beside two documents:
the context, its keys in order and what is no plain data as text, and the whole decision.
-/

namespace Clearance.Trail

/-- What a cell of a row holds. -/
inductive Cell where
  | null
  | int (n : Int)
  | text (s : String)
  deriving DecidableEq, Repr, Inhabited

structure Row where
  id : Nat
  timestamp : Cell
  permission : Cell
  granted : Cell
  source : Cell
  reason : Cell
  context : Cell
  result : Cell
  deriving DecidableEq, Repr, Inhabited

/-! ## Writing -/

/-- Why an entry cannot be written. -/
inductive Unrecorded where
  | context (f : Json.OfValueFault)
  | result (f : Schema.Unwritable)
  deriving DecidableEq, Repr

/-- The form of a stored context. -/
def contextForm : Json.Form :=
  { sorted := true, other := Json.ofText }

/-- The row of an entry under a number. -/
def Row.ofEntry (id : Nat) (e : AuditEntry) : Except Unrecorded Row := do
  let context <- (Json.ofValue contextForm e.context.toValue).mapError Unrecorded.context
  let result <- (Schema.decisionDocument true e.result).mapError Unrecorded.result
  return {
    id
    timestamp := .text e.timestamp.isoText
    permission := .text e.permission
    granted := .int (if e.result.granted then 1 else 0)
    source := .text e.result.source.name
    reason := (e.result.reason.map Cell.text).getD .null
    context := .text (Json.render (Json.asciiStyle .spaced) context)
    result := .text (Json.render (Json.plainStyle .compact) result) }

/-! ## Reading -/

/-- Why a row is no entry. -/
inductive Unreadable where
  | invalid (e : Schema.Invalid)
  | timestamp (text : String) (f : Time.IsoFault)
  | context (text : String) (f : Json.ReadFault)

/-- The text of a cell that must not be empty. -/
def Cell.content : Cell -> String
  | .null => ""
  | .int n => Decimal.intText n
  | .text s => s

/-- Whether a cell counts as true. -/
def Cell.isTruthy : Cell -> Bool
  | .null => false
  | .int n => n != 0
  | .text s => !s.isEmpty

/-- The decision in a document. -/
def readResult (text : String) : Except Unreadable Decision :=
  let refuse (issues : List Schema.Issue) : Except Unreadable Decision :=
    .error (.invalid { title := "PermissionResult", issues })
  match Json.parse text with
  | .error _ => refuse [{ path := [], kind := .jsonInvalid, input := .str text }]
  | .ok j =>
      match Schema.decision j.toValue with
      | .ok d => .ok d
      | .error issues => refuse (issues.map Schema.Issue.ofDocument)

/-- The context in a document. -/
def readContext (text : String) : Except Unreadable Context :=
  match Json.parse text with
  | .error f => .error (.context text f)
  | .ok j =>
      match Schema.textDict j.toValue with
      | .ok context => .ok context
      | .error issues =>
          .error (.invalid
            { title := "AuditLogEntry", issues := issues.map (Schema.Issue.under (.name "context")) })

/-- The entry in a row: first the decision is read, then the time, then the context. -/
def Row.entry (r : Row) : Except Unreadable AuditEntry := do
  let result <- readResult r.result.content
  let timestamp <-
    (Time.readIso r.timestamp.content).mapError (Unreadable.timestamp r.timestamp.content)
  let context <- readContext r.context.content
  return { timestamp, permission := r.permission.content, context, result }

end Clearance.Trail
