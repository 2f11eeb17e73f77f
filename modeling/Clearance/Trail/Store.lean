import Clearance.Membership
import Clearance.Trail.Statement

/-!
# Trails in files

A trail is kept in a file of its own.  It is opened by the name of the file, and the file may turn
out to hold something else.
-/

namespace Clearance.Trail

/-- What a file holds. -/
inductive Content where
  /-- Text that is no database. -/
  | foreign (text : String)
  | database (d : Database)
  deriving DecidableEq, Repr, Inhabited

/-- The content of a file that was written as text; an empty file is an empty database. -/
def Content.ofText (s : String) : Content :=
  if s.isEmpty then .database {} else .foreign s

/-- The files of a directory. -/
abbrev Files := Table Content

/-- What can go wrong with a trail. -/
inductive TrailFault where
  /-- The trail is not open. -/
  | closed
  | filter (f : NoMember)
  /-- A limit that needs more than 64 bits. -/
  | limit
  | storage (f : Fault)
  | unrecorded (f : Unrecorded)
  | unreadable (f : Unreadable)
  | refused (f : Statement.Refusal)

/-- What is said of a limit that needs more than 64 bits. -/
def limitMessage : String :=
  "Python int too large to convert to SQLite INTEGER"

/-- What is said of a file that holds something else. -/
def foreignMessage : String :=
  "file is not a database"

/-- Whether a name is that of a directory among the files. -/
def Files.isDirectory (name : String) (files : Files) : Bool :=
  name.isEmpty || files.any fun (n, _) => (name ++ "/").isPrefixOf n

/-- The files with a directory, in which there may be none. -/
def Files.addDirectory (name : String) (files : Files) : Files :=
  Table.set (name ++ "/.") (.foreign "") files

/-- The name of the directory that a file is in. -/
def directoryOf (name : String) : String :=
  "/".intercalate ((name.splitOn "/").dropLast)

/-- Whether there is, or can be, a file of this name. -/
def Files.canHold (name : String) (files : Files) : Bool :=
  (name.splitOn "/").all (fun part => !(["", ".", ".."].contains part))
    && files.isDirectory (directoryOf name) && !files.isDirectory name

/-- Opens a file and sees to it that the table is there; the path is the one that is told. -/
def Files.openTrail (name path : String) (files : Files) : Except Fault Files :=
  if !files.canHold name then
    .error (Fault.of (.storageConnection "connect" path)
      "Failed to connect to database: unable to open database file")
  else
    match (Table.get? name files).getD (.database {}) with
    | .foreign _ => .error (Fault.of (.storageWrite "init_schema" foreignMessage))
    | .database d => .ok (Table.set name (.database d.prepare) files)

/-- The database in a file, or what is said of its absence. -/
def Files.database (name : String) (files : Files) : Except String Database :=
  match Table.get? name files with
  | some (.foreign _) => .error foreignMessage
  | some (.database d) => .ok d
  | none => .ok {}

/-- Looks into a database; the operation is named when it fails. -/
def Files.look {α : Type} (name operation : String) (see : Database -> Except NoTable α)
    (files : Files) : Except TrailFault α :=
  let told (message : String) : TrailFault :=
    .storage (Fault.of (.storageRead operation message))
  do
    let d <- (files.database name).mapError told
    (see d).mapError fun e => told e.message

/-- The filter that a value stands for. -/
def filterOf (v : Value) : Except TrailFault (Option AuditFilter) :=
  match v with
  | .null => .ok none
  | v => ((AuditFilter.ofValue v).map some).mapError TrailFault.filter

namespace Files

/-- Records an entry and tells its number; if that fails the file stays as it is. -/
def record (name : String) (e : AuditEntry) (files : Files) : Except TrailFault (Nat × Files) :=
  let told (message : String) : TrailFault :=
    .storage (Fault.of (.storageWrite "record" message))
  do
    let _ <- (Row.ofEntry 0 e).mapError TrailFault.unrecorded
    let d <- (files.database name).mapError told
    let (id, d) <- (d.record e).mapError fun f =>
      match f with
      | .unrecorded f => .unrecorded f
      | .noTable => told (NoTable.message {})
    return (id, Table.set name (.database d) files)

/-- The entries that are wanted, oldest first. -/
def list (name : String) (s : Selection) (files : Files) : Except TrailFault (List AuditEntry) := do
  let rows <- files.look name "list_entries" fun d => d.select s
  let bound : Int := Nat.pow 2 63
  if s.limit?.any fun n => n < -bound || bound ≤ n then .error .limit
  else rows.mapM fun r => r.entry.mapError TrailFault.unreadable

def count (name : String) (filter? : Option AuditFilter) (files : Files) :
    Except TrailFault Nat :=
  files.look name "count" fun d => d.count filter?

def totals (name : String) (files : Files) : Except TrailFault Totals :=
  files.look name "summary" Database.totals

/-- Runs a script on the database in a file. -/
def runScript (name : String) (script : List Statement) (files : Files) :
    Except TrailFault Unit × Files :=
  match Table.get? name files with
  | some (.database d) =>
      let (r, d) := Statement.runAll script d
      (r.mapError TrailFault.refused, Table.set name (.database d) files)
  | _ => (.error (.refused .noTable), files)

end Files

end Clearance.Trail
