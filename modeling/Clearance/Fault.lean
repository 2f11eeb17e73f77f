import Clearance.Decision
import Clearance.Table
import Clearance.Time.Duration

/-!
# Faults

What can go wrong around a decision: a denial that is to stop the caller, a confirmation that
could not be had, a configuration that cannot be used, a trail that cannot be kept.  Each fault
has a message, a code, perhaps a suggestion, and the particulars of its kind.
-/

namespace Clearance

open Time (Amount)

/-- The kinds of fault, each with its particulars. -/
inductive FaultKind where
  | general
  | permissionDenied (permission reason : String) (requestContext : Context)
  | confirmation (permission : String)
  | confirmationTimeout (permission : String) (timeoutSeconds : Amount)
  | confirmationTransport (permission url underlyingError : String)
  | config (source : String)
  | configLoad (source underlyingError : String)
  | configInvalid (source : String) (errors : List String)
  | storage (operation : String)
  | storageConnection (operation path : String)
  | storageWrite (operation underlyingError : String)
  | storageRead (operation underlyingError : String)
  deriving Inhabited

namespace FaultKind

/-- The name of a kind, and the names of the wider kinds it belongs to, nearest first. -/
def lineage : FaultKind -> List String
  | .general => ["PermguardError"]
  | .permissionDenied .. => ["PermissionDeniedError", "PermguardError"]
  | .confirmation _ => ["ConfirmationError", "PermguardError"]
  | .confirmationTimeout .. =>
      ["ConfirmationTimeoutError", "ConfirmationError", "PermguardError"]
  | .confirmationTransport .. =>
      ["ConfirmationTransportError", "ConfirmationError", "PermguardError"]
  | .config _ => ["ConfigError", "PermguardError"]
  | .configLoad .. => ["ConfigLoadError", "ConfigError", "PermguardError"]
  | .configInvalid .. => ["ConfigValidationError", "ConfigError", "PermguardError"]
  | .storage _ => ["StorageError", "PermguardError"]
  | .storageConnection .. => ["StorageConnectionError", "StorageError", "PermguardError"]
  | .storageWrite .. => ["StorageWriteError", "StorageError", "PermguardError"]
  | .storageRead .. => ["StorageReadError", "StorageError", "PermguardError"]

def name (k : FaultKind) : String :=
  k.lineage.headD ""

end FaultKind

/-- A number as a value. -/
def amountValue : Amount -> Value
  | .whole n => .int n
  | .real x => .real x

namespace FaultKind

/-- The particulars under their names. -/
def particulars : FaultKind -> Context
  | .general => []
  | .permissionDenied permission reason requestContext =>
      [ ("permission", .str permission), ("reason", .str reason),
        ("request_context", requestContext.toValue) ]
  | .confirmation permission => [("permission", .str permission)]
  | .confirmationTimeout permission timeoutSeconds =>
      [("permission", .str permission), ("timeout_seconds", amountValue timeoutSeconds)]
  | .confirmationTransport permission url underlyingError =>
      [ ("permission", .str permission), ("url", .str url),
        ("underlying_error", .str underlyingError) ]
  | .config source => [("source", .str source)]
  | .configLoad source underlyingError =>
      [("source", .str source), ("underlying_error", .str underlyingError)]
  | .configInvalid source errors =>
      [("source", .str source), ("errors", .list (errors.map Value.str))]
  | .storage operation => [("operation", .str operation)]
  | .storageConnection operation path => [("operation", .str operation), ("db_path", .str path)]
  | .storageWrite operation underlyingError | .storageRead operation underlyingError =>
      [("operation", .str operation), ("underlying_error", .str underlyingError)]

/-- The message of a fault that is given none. -/
def defaultMessage : FaultKind -> String
  | .general | .config _ | .storage _ => ""
  | .permissionDenied permission reason _ =>
      "Permission denied " ++ permission ++ ": " ++ reason
  | .confirmation permission => "Confirmation failed for " ++ permission
  | .confirmationTimeout permission timeoutSeconds =>
      "Confirmation for " ++ permission ++ " timed out after "
        ++ (amountValue timeoutSeconds).literal ++ "s"
  | .confirmationTransport _ _ underlyingError =>
      "Approval service request failed: " ++ underlyingError
  | .configLoad source underlyingError =>
      "Failed to load configuration " ++ source ++ ": " ++ underlyingError
  | .configInvalid source errors =>
      "Invalid configuration " ++ source ++ ": " ++ Decimal.natText errors.length ++ " error(s)"
        ++ String.join (errors.map fun e => "\n  - " ++ e)
  | .storageConnection _ path => "Failed to connect to database: " ++ path
  | .storageWrite _ underlyingError => "Database write failed: " ++ underlyingError
  | .storageRead _ underlyingError => "Database read failed: " ++ underlyingError

/-- The code of a fault that is given none. -/
def defaultCode : FaultKind -> Int
  | .general | .config _ | .storage _ => 0
  | .permissionDenied .. => 1001
  | .confirmation _ => 2001
  | .confirmationTimeout .. => 2002
  | .confirmationTransport .. => 2003
  | .configLoad .. => 3001
  | .configInvalid .. => 3002
  | .storageConnection .. => 5001
  | .storageWrite .. => 5002
  | .storageRead .. => 5003

/-- What the kind of fault suggests, if anything. -/
def defaultSuggestion : FaultKind -> Option String
  | .confirmationTimeout .. => some "Increase confirmation_timeout_seconds in engine settings"
  | .confirmationTransport _ url _ =>
      some ("Check that the approval service is reachable at " ++ url)
  | .configInvalid .. => some "Check field names and enum values (scope, risk, operator)"
  | .storageConnection .. => some "Check that the database path is valid and writable"
  | _ => none

end FaultKind

structure Fault where
  kind : FaultKind
  message : String
  code : Int
  suggestion : Option String
  context : Context
  deriving Inhabited


namespace Fault

/--
A fault of a kind.  An empty message, the code zero and an empty suggestion stand for those of
the kind; the particulars of the kind are added to the context.
-/
def of (kind : FaultKind) (message : String := "") (code : Int := 0)
    (suggestion : Option String := none) (context : Context := []) : Fault :=
  { kind
    message := if message.isEmpty then kind.defaultMessage else message
    code := if code = 0 then kind.defaultCode else code
    suggestion :=
      if suggestion.all String.isEmpty then kind.defaultSuggestion <|> suggestion else suggestion
    context := kind.particulars.foldl (fun c (n, v) => Table.set n v c) context }

/-- The code and the message, and the suggestion on a line of its own. -/
def text (f : Fault) : String :=
  "[E" ++ Decimal.intText f.code ++ "] " ++ f.message
    ++ match f.suggestion with
       | some s => if s.isEmpty then "" else "\nSuggestion: " ++ s
       | none => ""

/-- The fields of a fault with their literals; the general kind keeps its suggestion to itself. -/
def literal (f : Fault) : String :=
  let shown (name : String) (v : Value) : String := name ++ "=" ++ v.literal
  let start := [shown "message" (.str f.message), shown "code" (.int f.code)]
  let suggestion :=
    match f.kind with
    | .general => []
    | _ => ["suggestion=" ++ Literal.optional f.suggestion]
  let particulars := f.kind.particulars.map fun (name, v) => shown name v
  f.kind.name ++ Value.bracketed "(" ")"
    (start ++ suggestion ++ [shown "context" f.context.toValue] ++ particulars)

/-- A fault as a dictionary. -/
def toContext (f : Fault) : Context :=
  [ ("error_type", .str f.kind.name), ("message", .str f.message), ("code", .int f.code),
    ("suggestion", (f.suggestion.map Value.str).getD .null), ("context", f.context.toValue) ]

end Fault

end Clearance
