import Clearance.Proofs.Trail.Queries
import Clearance.Trail.Connection

/-!
# Steps that are taken as a whole

When steps in a transaction fail, the files are as they were before the first of them.  So a record
puts one row at the end of the table and tells its number, or changes nothing.
-/

namespace Clearance.Trail

variable {c : Connection} {name : String} {files : Files} {d : Database} {e : AuditEntry}

/-! ## Steps -/

namespace Steps

variable {α β : Type}

theorem run_bind (x : Steps α) (f : α -> Steps β) (files : Files) :
    (x >>= f).run files =
      match x.run files with
      | (.ok a, after) => (f a).run after
      | (.error g, after) => (.error g, after) := by
  simp only [ExceptT.run, bind, ExceptT.bind, ExceptT.mk, StateT.bind, ExceptT.bindCont]
  rcases x files with ⟨g | a, after⟩ <;> rfl

theorem run_tryCatch (x : Steps α) (f : TrailFault -> Steps α) (files : Files) :
    (tryCatch x f).run files =
      match x.run files with
      | (.ok a, after) => (.ok a, after)
      | (.error g, after) => (f g).run after := by
  simp only [ExceptT.run, tryCatch, tryCatchThe, MonadExceptOf.tryCatch, ExceptT.tryCatch,
    ExceptT.mk, bind, StateT.bind]
  rcases x files with ⟨g | a, after⟩ <;> rfl

theorem run_get (files : Files) : (get : Steps Files).run files = (.ok files, files) := rfl

theorem run_ofExcept (x : Except TrailFault α) (files : Files) :
    (MonadExcept.ofExcept x : Steps α).run files = (x, files) := by
  cases x <;> rfl

end Steps

namespace Connection

/-- What a transaction comes to: its steps, or the files as they were if these fail. -/
theorem run_transaction {α : Type} (c : Connection) (steps : Steps α) (files : Files) :
    (c.transaction steps).run files =
      match steps.run files with
      | (.ok a, after) => (.ok a, after)
      | (.error f, after) =>
          match c.file with
          | .ok _ => (.error f, files)
          | .error g => (.error g, after) := by
  simp only [transaction, Steps.run_bind, Steps.run_get, Steps.run_tryCatch, Steps.run_ofExcept]
  rcases steps.run files with ⟨f | a, after⟩
  · cases c.file <;> rfl
  · rfl

/-- A transaction that fails in an open trail leaves the files as they were. -/
theorem transaction_restores {α : Type} {steps : Steps α} {f : TrailFault}
    (hopen : c.file = .ok name) (h : ((c.transaction steps).run files).1 = .error f) :
    (c.transaction steps).run files = (.error f, files) := by
  rw [run_transaction, hopen] at h ⊢
  generalize steps.run files = outcome at h ⊢
  rcases outcome with ⟨g | a, after⟩
  · exact congrArg (·, files) h
  · cases h

theorem file_of_open (h : c.file? = some name) : c.file = .ok name := by
  rw [Connection.file, h]

theorem file_of_closed (h : c.file? = none) : c.file = .error .closed := by
  rw [Connection.file, h]

theorem run_insert_of_closed (h : c.file? = none) :
    (c.insert e).run files = (.error .closed, files) := by
  rw [insert, file_of_closed h]
  rfl

/-- A record in a closed trail fails, and so does what is to take it back. -/
theorem run_record_of_closed (h : c.file? = none) :
    (c.record e).run files = (.error .closed, files) := by
  rw [record, run_transaction, run_insert_of_closed h, file_of_closed h]

end Connection

/-! ## Records -/

/-- What a record in the file of a database comes to. -/
theorem Files.record_eq (hd : files.database name = .ok d) :
    files.record name e =
      match Row.ofEntry 0 e with
      | .error f => .error (.unrecorded f)
      | .ok r =>
          match d.table? with
          | none => .error (.unwritten "record" (NoTable.message {}))
          | some rows =>
              .ok (d.nextId, Table.set name (.database
                { table? := some (rows ++ [{ r with id := d.nextId }]), lastId := d.nextId }) files) := by
  cases hrow : Row.ofEntry 0 e with
  | error f =>
      rw [Files.record, hrow]
      rfl
  | ok r =>
      rw [Files.record, hrow, hd]
      simp only [bind, Except.bind, Except.mapError, Database.record, ofEntry_renumbered hrow]
      cases d.table? <;> rfl

/-- A record through an open trail is one in its file, or changes nothing. -/
theorem Connection.run_record (h : c.file? = some name) :
    (c.record e).run files =
      match files.record name e with
      | .ok (id, after) => (.ok id, after)
      | .error f => (.error f, files) := by
  rw [record, run_transaction, file_of_open h]
  simp only [insert, Steps.run_bind, Steps.run_ofExcept, Steps.run_get, file_of_open h]
  cases hd : files.database name with
  | error message =>
      rw [Files.record, hd]
      cases Row.ofEntry 0 e with
      | error f => rfl
      | ok r =>
          simp only [Except.mapError, hd]
          rfl
  | ok d =>
      rw [Files.record_eq hd]
      cases Row.ofEntry 0 e with
      | error f => rfl
      | ok r =>
          simp only [Except.mapError, hd]
          cases d.table? <;> rfl

/-! ## Queries -/

/-- A database with a table is one that stands in its file. -/
theorem Files.get?_of_select {d : Database} {s : Selection} {rows : List Row}
    (hd : files.database name = .ok d) (hselect : d.select s = .ok rows) :
    Table.get? name files = some (.database d) := by
  rw [Files.database] at hd
  split at hd
  · cases hd
  · rename_i found hfound
    cases hd
    exact hfound
  · cases hd
    cases hselect

/-- A query through an open trail is one of its file. -/
theorem Connection.list_of_open (h : c.file? = some name) (s : Selection) :
    c.list s files = files.list name s := by
  rw [Connection.list, file_of_open h]
  rfl

end Clearance.Trail
