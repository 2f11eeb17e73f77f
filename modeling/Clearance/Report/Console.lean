import Clearance.Printed
import Clearance.Report.Summary

/-!
# Reports on a console

A table of the entries, oldest first, and a summary.
-/

namespace Clearance.Report

open Printed (styled)

/-- The mark of an outcome. -/
def mark (d : Decision) : String :=
  if d.granted then styled "green" "✓"
  else if d.source = .error then styled "red" "✗"
  else styled "yellow" "⊘"

/-- A text cut to a greatest length; what is cut off leaves three dots. -/
def cut (limit : Nat) (s : String) : String :=
  if s.length ≤ limit then s else String.ofList (s.toList.take (limit - 3)) ++ "..."

/-- The texts of a context, each cut. -/
def contextText (c : Context) : Except Value.NoText String := do
  let parts <- c.mapM fun (name, v) => do return name ++ "=" ++ cut 40 (<- v.text)
  return ", ".intercalate parts

/-- What is told of a decision beside its outcome. -/
def details (verbose : Bool) (e : AuditEntry) : Except Value.NoText String := do
  let d := e.result
  let reason :=
    match d.reason with
    | some r => if r.isEmpty then [] else [styled (if d.granted then "dim" else "yellow") r]
    | none => []
  let expiry := d.expiresAt.map fun t => styled "dim" ("expires " ++ t.plainText)
  let uses := d.remainingUses.map fun n => styled "dim" (Decimal.intText n ++ " use(s) left")
  let rule := d.rule.map fun r => styled "dim" ("rule: " ++ r.pattern)
  let context <-
    if verbose && !e.context.isEmpty then do
      pure [styled "dim" "context:" ++ " " ++ (<- contextText e.context)]
    else pure []
  return "\n".intercalate (reason ++ expiry.toList ++ uses.toList ++ rule.toList ++ context)

def row (verbose : Bool) (index : Nat) (e : AuditEntry) : Except Value.NoText (List String) := do
  return [ Decimal.natText (index + 1), e.timestamp.timeOfDay, mark e.result, e.permission,
    e.result.source.name, <- details verbose e ]

/-- The table of the entries. -/
def table (verbose : Bool) (entries : List AuditEntry) : Except Value.NoText Printed := do
  let rows <- (entries.mapIdx (row verbose)).mapM id
  return .table (some ["#", "Time", "", "Permission", "Source", "Details"]) verbose rows

/-- A count in a style; nothing is plain. -/
def countText (style : String) (n : Nat) : String :=
  if n = 0 then "0" else styled style (Decimal.natText n)

def counted (name : String) (n : Nat) : String :=
  "  • " ++ name ++ " (" ++ Decimal.natText n ++ ")"

def summaryItems (s : Summary) : List Printed :=
  let sources := s.bySource.mergeSort fun a b => decide (a.1 ≤ b.1)
  let rows :=
    [ ["Total", Decimal.natText s.total], ["Granted", countText "green" s.granted],
      ["Denied", countText "yellow" s.denied] ]
      ++ sources.map fun (name, n) => ["  via " ++ name, Decimal.natText n]
  let denied := s.deniedByPermission
  let most : List Printed :=
    if denied.isEmpty then []
    else
      [.blank, .markup (styled "bold" "Most Denied")]
        ++ (denied.take 5).map (fun (name, n) => .markup (counted name n))
        ++ if denied.length > 5 then
            [.markup ("  " ++ styled "dim"
              ("... and " ++ Decimal.natText (denied.length - 5) ++ " more"))]
          else []
  [.markup (styled "bold" "Summary"), .blank, .table none false rows] ++ most

/-- What is printed of a report, and what stopped it, if anything did. -/
def printed (verbose : Bool) (entries : List AuditEntry) : List Printed × Except Value.NoText Unit :=
  if entries.isEmpty then ([.markup (styled "dim" "No audit entries.")], .ok ())
  else
    let heading : List Printed := [.markup (styled "bold" "Decisions"), .blank]
    match table verbose entries with
    | .error f => (heading, .error f)
    | .ok t => (heading ++ [t, .blank] ++ summaryItems (Summary.of entries), .ok ())

end Clearance.Report
