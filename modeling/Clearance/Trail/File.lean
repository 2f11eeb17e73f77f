import Clearance.Json.Reader
import Clearance.Json.Writer
import Clearance.Trail.Store

/-!
# The file of a trail

A database as a text: a document with a mark, the greatest number that was given, and the rows.
What does not begin with the mark is a text of another kind.
-/

namespace Clearance.Trail

/-- The first member of the document. -/
def fileMark : String := "audit trail 1"

def Cell.toJson : Cell -> Json
  | .null => .null
  | .int n => .int n
  | .text s => .string s

def Cell.ofJson? : Json -> Option Cell
  | .null => some .null
  | .int n => some (.int n)
  | .string s => some (.text s)
  | _ => none

def Row.toJson (r : Row) : Json :=
  .array (.int r.id :: (Column.all.drop 1).map fun c => (r.cell c).toJson)

def Row.ofJson? : Json -> Option Row
  | .array (.int (.ofNat id) :: cells) => do
      match <- cells.mapM Cell.ofJson? with
      | [timestamp, permission, granted, source, reason, context, result] =>
          return { id, timestamp, permission, granted, source, reason, context, result }
      | _ => none
  | _ => none

theorem Cell.ofJson?_toJson (c : Cell) : Cell.ofJson? c.toJson = some c := by
  cases c <;> rfl

theorem Row.ofJson?_toJson (r : Row) : Row.ofJson? r.toJson = some r := by
  simp [Row.toJson, Row.ofJson?, Column.all, Row.cell, Cell.ofJson?_toJson]

namespace Database

def toJson (d : Database) : Json :=
  .object
    [ ("mark", .string fileMark), ("last", .int d.lastId),
      ("rows", (d.table?.map fun rows => Json.array (rows.map Row.toJson)).getD .null) ]

def tableOf? : Json -> Option (Option (List Row))
  | .array rows => (rows.mapM Row.ofJson?).map some
  | .null => some none
  | _ => none

def ofJson? : Json -> Option Database
  | .object [(_, .string mark), (_, .int (.ofNat lastId)), (_, rows)] =>
      if mark = fileMark then (tableOf? rows).map fun table? => { table?, lastId } else none
  | _ => none

theorem mapM_ofJson?_toJson (rows : List Row) :
    (rows.map Row.toJson).mapM Row.ofJson? = some rows := by
  induction rows with
  | nil => rfl
  | cons r rest ih => simp [Row.ofJson?_toJson, ih]

theorem ofJson?_toJson (d : Database) : ofJson? d.toJson = some d := by
  obtain ⟨table?, lastId⟩ := d
  have table : tableOf? ((table?.map fun rows => Json.array (rows.map Row.toJson)).getD .null)
      = some table? := by
    cases table? with
    | none => rfl
    | some rows => exact congrArg (Option.map some) (mapM_ofJson?_toJson rows)
  change (if fileMark = fileMark then _ else none) = _
  simp only [if_true, table, Option.map_some]

def toText (d : Database) : String :=
  Json.render (Json.asciiStyle .spaced) d.toJson

def ofText? (s : String) : Option Database :=
  (Json.parse s).toOption.bind ofJson?

end Database

namespace Content

/-- The content as it is kept in a file. -/
def toText : Content -> String
  | .foreign s => s
  | .database d => if d.table?.isNone then "" else d.toText

/-- The content of a file that was kept. -/
def ofKept (s : String) : Content :=
  match Database.ofText? s with
  | some d => .database d
  | none => .ofText s

end Content

end Clearance.Trail
