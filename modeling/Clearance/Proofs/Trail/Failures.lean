import Clearance.Proofs.Trail.Connection

/-!
# Failures of a trail

An open trail tells of every failure of its file, whatever the file holds.  Two failures are not
told so: those of a trail that was closed, and those of a row that is no entry, which is read only
when its query has been answered.
-/

namespace Clearance.Trail

variable {name : String} {files : Files}

/-- Whether an operation gives its result, or fails in the way that is told of it. -/
def Answered {α : Type} (told : String -> TrailFault) (x : Except TrailFault α) : Prop :=
  (∃ a, x = .ok a) ∨ ∃ message, x = .error (told message)

/-- Whether every row that a query selects is that of an entry. -/
def Files.Readable (name : String) (s : Selection) (files : Files) : Prop :=
  ∀ d rows, files.database name = .ok d -> d.select s = .ok rows ->
    ∀ r ∈ rows, ∃ e, Row.entry r = .ok e

/-! ## Looking into a file -/

theorem Files.answered_look {α : Type} (name operation : String)
    (see : Database -> Except NoTable α) (files : Files) :
    Answered (.unread operation) (files.look name operation see) := by
  rw [Files.look]
  cases files.database name with
  | error message => exact .inr ⟨message, rfl⟩
  | ok d =>
      cases hsee : see d with
      | error f => exact .inr ⟨f.message, by simp only [Except.mapError, bind, Except.bind, hsee]; rfl⟩
      | ok a => exact .inl ⟨a, by simp only [Except.mapError, bind, Except.bind, hsee]⟩

theorem answered_mapM_iff {operation : String} {rows : List Row} :
    Answered (.unread operation) (rows.mapM fun r => r.entry.mapError TrailFault.unreadable) ↔
      ∀ r ∈ rows, ∃ e, Row.entry r = .ok e := by
  have hrows := @exists_mapM_eq_ok_iff _ _ _ (fun r : Row => r.entry.mapError TrailFault.unreadable)
    rows
  simp only [mapError_eq_ok_iff] at hrows
  rw [← hrows]
  refine ⟨fun h => h.resolve_right ?_, .inl⟩
  rintro ⟨message, herror⟩
  obtain ⟨r, -, hr⟩ := exists_of_mapM_error herror
  cases hentry : r.entry <;> rw [hentry] at hr <;> cases hr

/-- A query of rows is answered exactly if each row that it selects is that of an entry. -/
theorem Files.answered_list_iff {s : Selection} (hshort : s.Short) :
    Answered (.unread "list_entries") (files.list name s) ↔ files.Readable name s := by
  cases hd : files.database name with
  | error message =>
      have hlist : files.list name s = .error (.unread "list_entries" message) := by
        rw [Files.list, Files.look, hd]
        rfl
      refine iff_of_true (.inr ⟨message, hlist⟩) fun d rows h => ?_
      cases hd.symm.trans h
  | ok d =>
      cases hselect : d.select s with
      | error f =>
          have hlist : files.list name s = .error (.unread "list_entries" f.message) := by
            rw [Files.list, Files.look, hd]
            simp only [Except.mapError, bind, Except.bind, hselect]
            rfl
          refine iff_of_true (.inr ⟨f.message, hlist⟩) fun d' rows h h' => ?_
          obtain rfl := Except.ok.inj (hd.symm.trans h)
          cases hselect.symm.trans h'
      | ok rows =>
          rw [(list_of_select (get?_of_select hd hselect) hselect).1 hshort, answered_mapM_iff]
          constructor
          · intro h d' rows' hd' hrows'
            obtain rfl := Except.ok.inj (hd.symm.trans hd')
            obtain rfl := Except.ok.inj (hselect.symm.trans hrows')
            exact h
          · exact fun h => h d rows hd hselect

/-! ## Operations -/

/-- That a trail is closed is told in no way. -/
theorem not_answered_closed {α : Type} {told : String -> TrailFault}
    (h : ∀ message, told message ≠ .closed) : ¬Answered told (.error .closed : Except _ α) := by
  rintro (⟨a, heq⟩ | ⟨message, heq⟩)
  · cases heq
  · exact h message (Except.error.inj heq).symm

/-- An entry that has a row is recorded in any file, or the failure is told. -/
theorem Connection.answered_record {c : Connection} (hopen : c.file? = some name) {e : AuditEntry}
    (hrow : ∃ r, Row.ofEntry 0 e = .ok r) :
    Answered (.unwritten "record") ((c.record e).run files).1 := by
  obtain ⟨r, hrow⟩ := hrow
  rw [run_record hopen]
  cases hd : files.database name with
  | error message =>
      rw [Files.record, hrow, hd]
      exact .inr ⟨message, rfl⟩
  | ok d =>
      rw [Files.record_eq hd, hrow]
      cases d.table? with
      | none => exact .inr ⟨_, rfl⟩
      | some rows => exact .inl ⟨d.nextId, rfl⟩

end Clearance.Trail
