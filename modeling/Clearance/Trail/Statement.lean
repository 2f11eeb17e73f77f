import Clearance.Decimal.Reading
import Clearance.Trail.Database

/-!
# Statements on a database

The few statements by which a trail may be changed from outside: cells are set, rows are deleted,
the table is dropped or given another name.
-/

namespace Clearance.Trail

/-- The columns of the table. -/
inductive Column where
  | id | timestamp | permission | granted | source | reason | context | result
  deriving DecidableEq, Repr, Inhabited

namespace Column

def all : List Column :=
  [.id, .timestamp, .permission, .granted, .source, .reason, .context, .result]

def name : Column -> String
  | .id => "entry_id"
  | .timestamp => "timestamp"
  | .permission => "permission"
  | .granted => "granted"
  | .source => "source"
  | .reason => "reason"
  | .context => "context_json"
  | .result => "result_json"

def ofName? (s : String) : Option Column :=
  all.find? fun c => c.name == s.toLower

/-- Whether a column holds numbers where it can. -/
def isNumeric (c : Column) : Bool :=
  c = .id || c = .granted

/-- Whether every row has a value in the column. -/
def isRequired (c : Column) : Bool :=
  c != .reason

/-- A cell as the column keeps it. -/
def keeps (c : Column) (cell : Cell) : Cell :=
  match cell with
  | .null => .null
  | .int n => if c.isNumeric then .int n else .text (Decimal.intText n)
  | .text s =>
      if c.isNumeric then ((Decimal.readInt? s.toList).map Cell.int).getD (.text s) else .text s

end Column

def Row.cell (r : Row) : Column -> Cell
  | .id => .int r.id
  | .timestamp => r.timestamp
  | .permission => r.permission
  | .granted => r.granted
  | .source => r.source
  | .reason => r.reason
  | .context => r.context
  | .result => r.result

def Row.setCell (r : Row) (c : Column) (cell : Cell) : Row :=
  match c with
  | .id =>
      match cell with
      | .int n => { r with id := n.toNat }
      | _ => r
  | .timestamp => { r with timestamp := cell }
  | .permission => { r with permission := cell }
  | .granted => { r with granted := cell }
  | .source => { r with source := cell }
  | .reason => { r with reason := cell }
  | .context => { r with context := cell }
  | .result => { r with result := cell }

/-- Cells that a row must hold in some columns; a missing value is equal to nothing. -/
abbrev Clause := List (Column × Cell)

def Clause.holds (clause : Clause) (r : Row) : Bool :=
  clause.all fun (c, cell) =>
    let wanted := c.keeps cell
    wanted != .null && r.cell c == wanted

inductive Statement where
  | update (cells : List (Column × Cell)) (clause : Clause)
  | delete (clause : Clause)
  | drop (evenIfAbsent : Bool)
  | rename
  /-- A change of the table that holds the version, which no reading of a trail looks at. -/
  | aside
  deriving Repr, Inhabited

/-! ## Reading -/

namespace Statement

inductive Word where
  | name (s : String)
  | literal (c : Cell)
  | mark (c : Char)
  deriving DecidableEq, Repr

def isNameChar (c : Char) : Bool :=
  c.isAlphanum || c == '_'

/-- The rest of a quoted text; a quote inside is written twice. -/
def takeQuoted (acc : List Char) : List Char -> Option (String × List Char)
  | [] => none
  | '\'' :: '\'' :: rest => takeQuoted ('\'' :: acc) rest
  | c :: rest =>
      if c == '\'' then some (String.ofList acc.reverse, rest) else takeQuoted (c :: acc) rest

/-- The words of a script. -/
def words : Nat -> List Char -> Option (List Word)
  | 0, _ => none
  | _, [] => some []
  | fuel + 1, c :: rest =>
      if c.isWhitespace then words fuel rest
      else if c == '\'' then
        match takeQuoted [] rest with
        | some (s, rest) => (words fuel rest).map (.literal (.text s) :: ·)
        | none => none
      else if isNameChar c then
        let s := (c :: rest).takeWhile isNameChar
        let word : Word :=
          match Decimal.readInt? s with
          | some n => .literal (.int n)
          | none =>
              let text := String.ofList s
              if text.toLower == "null" then .literal .null else .name text.toLower
        (words fuel ((c :: rest).dropWhile isNameChar)).map (word :: ·)
      else (words fuel rest).map (.mark c :: ·)

/-- Cells joined by a separator, each written `column = literal`. -/
def cellsOf (separator : Word) : List Word -> Option (List (Column × Cell))
  | [.name column, .mark '=', .literal cell] => do return [(<- Column.ofName? column, cell)]
  | .name column :: .mark '=' :: .literal cell :: next :: rest =>
      if next = separator then do
        return (<- Column.ofName? column, cell) :: (<- cellsOf separator rest)
      else none
  | _ => none

/-- The clause of a statement, which may be left out. -/
def clauseOf : List Word -> Option Clause
  | [] => some []
  | .name "where" :: rest => cellsOf (.name "and") rest
  | _ => none

/-- One statement. -/
def ofWords : List Word -> Option Statement
  | .name "update" :: .name "audit_entries" :: .name "set" :: rest => do
      let isWhere (w : Word) : Bool := w != .name "where"
      return .update (<- cellsOf (.mark ',') (rest.takeWhile isWhere))
        (<- clauseOf (rest.dropWhile isWhere))
  | .name "delete" :: .name "from" :: .name "audit_entries" :: rest => do
      return .delete (<- clauseOf rest)
  | [.name "drop", .name "table", .name "audit_entries"] => some (.drop false)
  | [.name "drop", .name "table", .name "if", .name "exists", .name "audit_entries"] =>
      some (.drop true)
  | [.name "alter", .name "table", .name "audit_entries", .name "rename", .name "to", .name _] =>
      some .rename
  | .name "update" :: .name "schema_version" :: _
  | .name "delete" :: .name "from" :: .name "schema_version" :: _
  | [.name "drop", .name "table", .name "schema_version"]
  | [.name "drop", .name "table", .name "if", .name "exists", .name "schema_version"] =>
      some .aside
  | _ => none

/-- The words between semicolons. -/
def sentences (ws : List Word) : List (List Word) :=
  (ws.splitOn (.mark ';')).filter fun s => !s.isEmpty

/-- The statements of a script, if all of them are known. -/
def ofScript? (script : String) : Option (List Statement) := do
  (sentences (<- words (script.length + 1) script.toList)).mapM ofWords

/-! ## Meaning -/

/-- Why a statement is refused. -/
inductive Refusal where
  | noTable
  /-- A column would be left without a value. -/
  | empty (c : Column)
  deriving DecidableEq, Repr

def Refusal.message : Refusal -> String
  | .noTable => NoTable.message {}
  | .empty c => "NOT NULL constraint failed: audit_entries." ++ c.name

def setCells (cells : List (Column × Cell)) (r : Row) : Except Refusal Row :=
  cells.foldlM
    (fun r (c, cell) =>
      if cell = .null && c.isRequired then .error (.empty c) else .ok (r.setCell c (c.keeps cell)))
    r

/-- What a statement makes of a database. -/
def apply (s : Statement) (d : Database) : Except Refusal Database :=
  match d.table?, s with
  | _, .aside | none, .drop true => .ok d
  | none, _ => .error .noTable
  | some rows, .update cells clause => do
      let rows <- rows.mapM fun r => if clause.holds r then setCells cells r else .ok r
      return { d with table? := some rows }
  | some rows, .delete clause => .ok { d with table? := some (rows.filter fun r => !clause.holds r) }
  | some _, .drop _ | some _, .rename => .ok { table? := none, lastId := 0 }

/-- Runs a script; what was done before a refusal stays done. -/
def runAll (statements : List Statement) (d : Database) : Except Refusal Unit × Database :=
  match statements with
  | [] => (.ok (), d)
  | s :: rest =>
      match s.apply d with
      | .ok d => runAll rest d
      | .error e => (.error e, d)

end Statement

end Clearance.Trail
