import Clearance.AuditLog
import Clearance.Counts
import Clearance.Trail.Row

/-!
# The database of a trail

One table of rows, each under a number of its own.  Numbers only grow: a number that was given
once is never given again, even when its row is gone.
-/

namespace Clearance.Trail

structure Database where
  /-- The rows, oldest first; there may be no table at all. -/
  table? : Option (List Row) := none
  /-- The greatest number that was given. -/
  lastId : Nat := 0
  deriving DecidableEq, Repr, Inhabited

/-- The table that was asked for is not there. -/
structure NoTable where
  deriving DecidableEq, Repr

/-- Why an entry is not recorded. -/
inductive RecordFault where
  | unrecorded (f : Unrecorded)
  | noTable
  deriving DecidableEq, Repr

def NoTable.message (_ : NoTable) : String :=
  "no such table: audit_entries"

/-- Which entries of a trail are wanted; the limit keeps the newest. -/
structure Selection where
  filter? : Option AuditFilter := none
  permission? : Option String := none
  limit? : Option Int := none
  deriving Inhabited

namespace Selection

def accepts (s : Selection) (r : Row) : Bool :=
  (s.filter?.all fun f => r.granted == .int (if f = .granted then 1 else 0))
    && s.permission?.all fun p => r.permission == .text p

/-- A limit below zero keeps everything. -/
def keep (s : Selection) (rows : List Row) : List Row :=
  match s.limit? with
  | some (.ofNat n) => rows.drop (rows.length - n)
  | _ => rows

end Selection

/-- How a whole trail turned out. -/
structure Totals where
  total : Nat
  granted : Nat
  denied : Nat
  bySource : Counts
  deniedByPermission : Counts
  deriving Repr, Inhabited

namespace Database

/-- The database with its table in place. -/
def prepare (d : Database) : Database :=
  match d.table? with
  | some _ => d
  | none => { table? := some [], lastId := 0 }

def rows (d : Database) : Except NoTable (List Row) :=
  match d.table? with
  | some rows => .ok rows
  | none => .error {}

/-- The number of the next row. -/
def nextId (d : Database) : Nat :=
  (d.table?.getD []).foldl (fun n r => max n r.id) d.lastId + 1

/-- Records an entry in a new row and tells its number. -/
def record (e : AuditEntry) (d : Database) : Except RecordFault (Nat × Database) := do
  let row <- (Row.ofEntry d.nextId e).mapError RecordFault.unrecorded
  match d.table? with
  | none => .error .noTable
  | some rows => .ok (d.nextId, { table? := some (rows ++ [row]), lastId := d.nextId })

/-- The rows that are wanted, oldest first. -/
def select (s : Selection) (d : Database) : Except NoTable (List Row) := do
  return s.keep ((<- d.rows).filter s.accepts)

def count (filter? : Option AuditFilter) (d : Database) : Except NoTable Nat := do
  return (<- d.select { filter? }).length

def totals (d : Database) : Except NoTable Totals := do
  let rows <- d.rows
  let (granted, denied) := rows.partition fun r => r.granted.isTruthy
  return {
    total := rows.length
    granted := granted.length
    denied := denied.length
    bySource := Counts.ofList (rows.map fun r => r.source.content)
    deniedByPermission := Counts.ofList (denied.map fun r => r.permission.content) }

theorem lastId_lt_nextId (d : Database) : d.lastId < d.nextId := by
  unfold nextId
  suffices h : ∀ (rows : List Row) (n : Nat), n ≤ rows.foldl (fun n r => max n r.id) n by
    have := h (d.table?.getD []) d.lastId
    omega
  intro rows
  induction rows with
  | nil => simp
  | cons r rest ih => intro n; exact Nat.le_trans (Nat.le_max_left ..) (ih _)

end Database

end Clearance.Trail
