import Clearance.Trail.Store

/-!
# Trails in use

A trail is used through a connection to its file until that is closed.  Entries are written in
transactions, of which all steps are kept or none.
-/

namespace Clearance.Trail

/-- A trail in use: the name of its file, unless it has been closed. -/
structure Connection where
  file? : Option String := none
  deriving DecidableEq, Repr, Inhabited

/-- Steps on files; what they changed stays changed when a later one fails. -/
abbrev Steps (α : Type) := ExceptT TrailFault (StateM Files) α

/-- What is said of a failure to write. -/
def TrailFault.unwritten (operation message : String) : TrailFault :=
  .storage (Fault.of (.storageWrite operation message))

/-- What is said of a failure to read. -/
def TrailFault.unread (operation message : String) : TrailFault :=
  .storage (Fault.of (.storageRead operation message))

namespace Connection

/-- The file of a trail that is open. -/
def file (c : Connection) : Except TrailFault String :=
  match c.file? with
  | some name => .ok name
  | none => .error .closed

def close (_ : Connection) : Connection :=
  { file? := none }

/-- Takes steps as a whole: when one of them fails, the files are given back as they were. -/
def transaction {α : Type} (c : Connection) (steps : Steps α) : Steps α := do
  let before <- get
  tryCatch steps fun f => do
    let _ <- MonadExcept.ofExcept c.file
    set before
    throw f

/-- Puts the row of an entry at the end of the table and tells its number. -/
def insert (c : Connection) (e : AuditEntry) : Steps Nat := do
  let name <- MonadExcept.ofExcept c.file
  let row <- MonadExcept.ofExcept ((Row.ofEntry 0 e).mapError TrailFault.unrecorded)
  let files <- get
  let d <- MonadExcept.ofExcept ((files.database name).mapError (TrailFault.unwritten "record"))
  match d.table? with
  | none => throw (TrailFault.unwritten "record" (NoTable.message {}))
  | some rows =>
      let id := d.nextId
      set (Table.set name (.database { table? := some (rows ++ [{ row with id }]), lastId := id }) files)
      return id

/-- Records an entry and tells its number. -/
def record (c : Connection) (e : AuditEntry) : Steps Nat :=
  c.transaction (c.insert e)

/-- The entries that are wanted, oldest first. -/
def list (c : Connection) (s : Selection) (files : Files) : Except TrailFault (List AuditEntry) := do
  files.list (<- c.file) s

def count (c : Connection) (filter? : Option AuditFilter) (files : Files) :
    Except TrailFault Nat := do
  files.count (<- c.file) filter?

def totals (c : Connection) (files : Files) : Except TrailFault Totals := do
  files.totals (<- c.file)

end Connection

end Clearance.Trail
