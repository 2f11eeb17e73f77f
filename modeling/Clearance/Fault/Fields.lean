import Clearance.Fault

/-!
# Faults from fields

A fault as it is made by whoever meets it: the name of its kind, and some of its fields.  A field
that is not given is empty, and one that the kind does not have is refused.
-/

namespace Clearance

/-- Fields under their names. -/
structure Fields where
  entries : Context

namespace Fields

def text (name : String) (f : Fields) : String :=
  match f.entries.lookup name with
  | some (.str s) => s
  | _ => ""

def whole (name : String) (f : Fields) : Int :=
  match f.entries.lookup name with
  | some (.int n) => n
  | _ => 0

def amount (name : String) (f : Fields) : Time.Amount :=
  match f.entries.lookup name with
  | some (.int n) => .whole n
  | some (.real x) => .real x
  | _ => .real (Binary64.zero false)

def texts (name : String) (f : Fields) : List String :=
  match f.entries.lookup name with
  | some (.list items) =>
      items.filterMap fun v =>
        match v with
        | .str s => some s
        | _ => none
  | _ => []

def context (name : String) (f : Fields) : Context :=
  match f.entries.lookup name with
  | some (.dict entries) =>
      entries.filterMap fun (k, v) =>
        match k with
        | .str s => some (s, v)
        | _ => none
  | _ => []

def text? (name : String) (f : Fields) : Option String :=
  match f.entries.lookup name with
  | some (.str s) => some s
  | _ => none

end Fields

/-- The kind of fault of a name. -/
def FaultKind.ofFields? (name : String) (f : Fields) : Option FaultKind :=
  match name with
  | "PermguardError" => some .general
  | "PermissionDeniedError" =>
      some (.permissionDenied (f.text "permission") (f.text "reason") (f.context "request_context"))
  | "ConfirmationError" => some (.confirmation (f.text "permission"))
  | "ConfirmationTimeoutError" =>
      some (.confirmationTimeout (f.text "permission") (f.amount "timeout_seconds"))
  | "ConfirmationTransportError" =>
      some (.confirmationTransport (f.text "permission") (f.text "url") (f.text "underlying_error"))
  | "ConfigError" => some (.config (f.text "source"))
  | "ConfigLoadError" => some (.configLoad (f.text "source") (f.text "underlying_error"))
  | "ConfigValidationError" => some (.configInvalid (f.text "source") (f.texts "errors"))
  | "StorageError" => some (.storage (f.text "operation"))
  | "StorageConnectionError" =>
      some (.storageConnection (f.text "operation") (f.text "db_path"))
  | "StorageWriteError" =>
      some (.storageWrite (f.text "operation") (f.text "underlying_error"))
  | "StorageReadError" =>
      some (.storageRead (f.text "operation") (f.text "underlying_error"))
  | _ => none

/-- The fault of a name with these fields. -/
def Fault.ofFields? (name : String) (f : Fields) : Option Fault := do
  let kind <- FaultKind.ofFields? name f
  let known := ["message", "code", "suggestion", "context"] ++ kind.particulars.map Prod.fst
  if f.entries.all fun (n, _) => known.contains n then
    return Fault.of kind (f.text "message") (f.whole "code") (f.text? "suggestion")
      (f.context "context")
  else none

end Clearance
