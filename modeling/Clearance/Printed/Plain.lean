import Clearance.Printed.Markup

/-!
# Plain lines

Printed items without their styles: tags are left out, and the cells of a table stand in columns.
-/

namespace Clearance.Printed

/-- Fills a cell with blanks up to a width. -/
def fill (width : Nat) (s : String) : String :=
  s ++ String.ofList (List.replicate (width - s.length) ' ')

/-- The width of each column. -/
def widths (rows : List (List String)) : List Nat :=
  rows.foldl
    (fun ws row =>
      let row := row.map String.length
      (row.zipWith max ws) ++ row.drop ws.length ++ ws.drop row.length)
    []

/-- The items as lines of text. -/
def lines : Printed -> List String
  | .markup s => [plain s]
  | .text s => [s]
  | .panel title body => plain title :: body.lines
  | .table headers? _ rows =>
      let rows := (headers?.toList ++ rows).map fun row => row.map plain
      let ws := widths rows
      rows.map fun row => "  ".intercalate (row.zipWith (fun s w => fill w s) ws)

end Clearance.Printed
