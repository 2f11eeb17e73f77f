import Clearance.Value

/-!
# Issues

What can be wrong with data that should be a record, where it is, and how it is told.  A record
with several faults gets an issue for each.
-/

namespace Clearance.Schema

/-- One step of the way to a part of the data. -/
inductive Step where
  | name (s : String)
  | index (n : Nat)
  deriving DecidableEq, Repr

def Step.text : Step -> String
  | .name s => s
  | .index n => Decimal.natText n

/-- What is wrong with a part of the data. -/
inductive IssueKind where
  | missing
  | extraForbidden
  | invalidKey
  | stringType
  | stringUnicode
  | stringTooShort
  | oneOf (names : List String)
  | listType
  | dictType
  | recordType (title : String)
  | boolType
  | boolParsing
  | floatType
  | floatParsing
  | notPositive
  | intType
  | intParsing
  | intFromFloat
  | finiteNumber
  | datetimeType
  | datetimeFromDate (detail : String)
  | datetimeParsing (detail : String)
  | jsonInvalid
  /-- A list or a dictionary is missing in a document, which has words of its own for them. -/
  | arrayType
  | objectType (kind : String)
  deriving DecidableEq, Repr

/-- The short name of the kind. -/
def IssueKind.name : IssueKind -> String
  | .missing => "missing"
  | .extraForbidden => "extra_forbidden"
  | .invalidKey => "invalid_key"
  | .stringType => "string_type"
  | .stringUnicode => "string_unicode"
  | .stringTooShort => "string_too_short"
  | .oneOf _ => "enum"
  | .listType => "list_type"
  | .dictType => "dict_type"
  | .recordType _ => "model_type"
  | .boolType => "bool_type"
  | .boolParsing => "bool_parsing"
  | .floatType => "float_type"
  | .floatParsing => "float_parsing"
  | .notPositive => "greater_than"
  | .intType => "int_type"
  | .intParsing => "int_parsing"
  | .intFromFloat => "int_from_float"
  | .finiteNumber => "finite_number"
  | .datetimeType => "datetime_type"
  | .datetimeFromDate _ => "datetime_from_date_parsing"
  | .datetimeParsing _ => "datetime_parsing"
  | .jsonInvalid => "json_invalid"
  | .arrayType => "list_type"
  | .objectType kind => kind

/-- Quoted names with commas between them and a word before the last. -/
def alternativesText (names : List String) : String :=
  match (names.map fun n => "'" ++ n ++ "'").reverse with
  | [] => ""
  | [only] => only
  | last :: before => ", ".intercalate before.reverse ++ " or " ++ last

def IssueKind.message : IssueKind -> String
  | .missing => "Field required"
  | .extraForbidden => "Extra inputs are not permitted"
  | .invalidKey => "Keys should be strings"
  | .stringType => "Input should be a valid string"
  | .stringUnicode => "Input should be a valid string, unable to parse raw data as a unicode string"
  | .stringTooShort => "String should have at least 1 character"
  | .oneOf names => "Input should be " ++ alternativesText names
  | .listType => "Input should be a valid list"
  | .dictType => "Input should be a valid dictionary"
  | .recordType title => "Input should be a valid dictionary or instance of " ++ title
  | .boolType => "Input should be a valid boolean"
  | .boolParsing => "Input should be a valid boolean, unable to interpret input"
  | .floatType => "Input should be a valid number"
  | .floatParsing => "Input should be a valid number, unable to parse string as a number"
  | .notPositive => "Input should be greater than 0"
  | .intType => "Input should be a valid integer"
  | .intParsing => "Input should be a valid integer, unable to parse string as an integer"
  | .intFromFloat => "Input should be a valid integer, got a number with a fractional part"
  | .finiteNumber => "Input should be a finite number"
  | .datetimeType => "Input should be a valid datetime"
  | .datetimeFromDate detail => "Input should be a valid datetime or date, " ++ detail
  | .datetimeParsing detail => "Input should be a valid datetime, " ++ detail
  | .jsonInvalid => "Invalid JSON"
  | .arrayType => "Input should be a valid array"
  | .objectType _ => "Input should be an object"

/-- A fault of a part of the data. -/
structure Issue where
  path : List Step
  kind : IssueKind
  input : Value

/-- The way to the part, its steps parted by dots. -/
def Issue.location (i : Issue) : String :=
  ".".intercalate (i.path.map Step.text)

/-- The issue seen from one level further out. -/
def Issue.under (step : Step) (i : Issue) : Issue :=
  { i with path := step :: i.path }

/-- The issue in the words of documents. -/
def Issue.ofDocument (i : Issue) : Issue :=
  { i with
    kind :=
      match i.kind with
      | .listType => .arrayType
      | .dictType => .objectType i.kind.name
      | .recordType _ => .objectType i.kind.name
      | kind => kind }

/-- Data that is no record of the kind with a title. -/
structure Invalid where
  title : String
  issues : List Issue

/-- A text of at most fifty characters; a longer one loses its middle. -/
def shortened (s : String) : String :=
  let cs := s.toList
  if cs.length <= 50 then s
  else String.ofList (cs.take 25 ++ "...".toList ++ cs.drop (cs.length - 24))

/-- A step in a running text; one that holds a dot is set apart. -/
def Step.shown (s : Step) : String :=
  let t := s.text
  if t.contains '.' then "\x60" ++ t ++ "\x60" else t

/-- One issue in the text of them all. -/
def Issue.text (i : Issue) : String :=
  let place := if i.path.isEmpty then "" else ".".intercalate (i.path.map Step.shown) ++ "\n"
  place ++ "  " ++ i.kind.message ++ " [type=" ++ i.kind.name
    ++ ", input_value=" ++ shortened i.input.literal ++ ", input_type=" ++ i.input.kindName ++ "]"

/-- All issues as one text. -/
def Invalid.text (e : Invalid) : String :=
  let n := e.issues.length
  Decimal.natText n ++ (if n = 1 then " validation error for " else " validation errors for ")
    ++ e.title ++ "\n" ++ "\n".intercalate (e.issues.map Issue.text)

/-- A value, or the issues that stand in its way. -/
abbrev Checked (α : Type) := Except (List Issue) α

namespace Checked

variable {α β : Type}

/-- One issue with the data itself. -/
def fail (kind : IssueKind) (input : Value) : Checked α :=
  .error [{ path := [], kind, input }]

/-- Places issues one level further out. -/
def under (step : Step) (c : Checked α) : Checked α :=
  c.mapError fun issues => issues.map (Issue.under step)

/-- Applies a checked function to a checked argument; the issues of both are kept, in order. -/
def app (f : Checked (α -> β)) (a : Checked α) : Checked β :=
  match f, a with
  | .ok g, .ok x => .ok (g x)
  | .ok _, .error issues => .error issues
  | .error issues, .ok _ => .error issues
  | .error issues, .error more => .error (issues ++ more)

/-- Keeps a value only if there are no further issues. -/
def refusing (c : Checked α) (issues : List Issue) : Checked α :=
  match c, issues with
  | .ok x, [] => .ok x
  | .ok _, issues => .error issues
  | .error before, issues => .error (before ++ issues)

/-- Checks the items of a list, each under its place. -/
def items (check : Value -> Checked α) : Nat -> List Value -> Checked (List α)
  | _, [] => .ok []
  | n, v :: rest =>
      app ((under (.index n) (check v)).map List.cons) (items check (n + 1) rest)

theorem app_eq_ok {f : Checked (α -> β)} {a : Checked α} {y : β} :
    app f a = .ok y ↔ ∃ g x, f = .ok g ∧ a = .ok x ∧ g x = y := by
  cases f <;> cases a <;> simp [app]

end Checked

end Clearance.Schema
