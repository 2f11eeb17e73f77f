import Clearance.Counts
import Clearance.Decision

/-!
# Summaries

How the decisions in a list of entries turned out.
-/

namespace Clearance

structure Summary where
  total : Nat
  granted : Nat
  denied : Nat
  /-- How often each branch decided. -/
  bySource : Counts
  /-- How often each permission was denied, the most denied first. -/
  deniedByPermission : Counts
  firstAt : Option Timestamp
  lastAt : Option Timestamp
  deriving Inhabited

namespace Summary

def of (entries : List AuditEntry) : Summary :=
  let (granted, denied) := entries.partition fun e => e.result.granted
  { total := entries.length
    granted := granted.length
    denied := denied.length
    bySource := Counts.ofList (entries.map fun e => e.result.source.name)
    deniedByPermission := (Counts.ofList (denied.map AuditEntry.permission)).byFrequency
    firstAt := entries.head?.map AuditEntry.timestamp
    lastAt := entries.getLast?.map AuditEntry.timestamp }

theorem granted_add_denied (entries : List AuditEntry) :
    (of entries).granted + (of entries).denied = (of entries).total := by
  simp only [of, List.partition_eq_filter_filter]
  induction entries with
  | nil => rfl
  | cons e rest ih => cases h : e.result.granted <;> simp_all <;> omega

def countsValue (c : Counts) : Value :=
  .dict (c.map fun (name, n) => (.str name, .int n))

def isoValue (t : Option Timestamp) : Value :=
  (t.map fun t => Value.str t.isoText).getD .null

/-- A summary as plain data. -/
def toValue (s : Summary) : Value :=
  .dict
    [ (.str "total", .int s.total), (.str "granted", .int s.granted),
      (.str "denied", .int s.denied), (.str "by_source", countsValue s.bySource),
      (.str "denied_by_permission", countsValue s.deniedByPermission),
      (.str "first_at", isoValue s.firstAt), (.str "last_at", isoValue s.lastAt) ]

end Summary

end Clearance
