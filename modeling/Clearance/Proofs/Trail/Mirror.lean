import Clearance.Proofs.Trail.Row
import Clearance.Trail.File
import Mathlib.Data.List.Forall2

/-!
# Trails that mirror a log

A trail mirrors a list of entries when its rows hold them, one row for each, in order.  It still
does after another entry is recorded, and after its file has been closed and opened again; and it
lists what the log selects.
-/

namespace Clearance.Trail

/-- Whether a row holds an entry. -/
structure Row.Holds (r : Row) (e : AuditEntry) : Prop where
  granted : r.granted = .int (if e.result.granted then 1 else 0)
  readable : ∃ e', r.entry = .ok e' ∧ e.Agrees e'

namespace Database

/-- Whether the rows of a trail hold entries, in order. -/
def Mirrors (d : Database) (entries : List AuditEntry) : Prop :=
  ∃ rows, d.table? = some rows ∧ List.Forall₂ (fun e r => Row.Holds r e) entries rows

variable {d : Database} {entries : List AuditEntry}

theorem table?_prepare (d : Database) : d.prepare.table? = some (d.table?.getD []) := by
  unfold prepare
  cases htable : d.table? with
  | none => rfl
  | some rows => exact htable

/-- An entry that can be told is recorded in a row of its own. -/
theorem Mirrors.record (h : d.Mirrors entries) {e : AuditEntry} (he : e.Valid) :
    ∃ id d', d.record e = .ok (id, d') ∧ d'.Mirrors (entries ++ [e]) := by
  obtain ⟨rows, htable, hrows⟩ := h
  obtain ⟨r, e', hrow, -, hgranted, hread, hagrees⟩ := entry_ofEntry d.nextId he
  have hrecord : d.record e =
      .ok (d.nextId, { table? := some (rows ++ [r]), lastId := d.nextId }) := by
    rw [Database.record, hrow, htable]
    rfl
  refine ⟨_, _, hrecord, rows ++ [r], rfl, ?_⟩
  exact List.rel_append hrows (.cons ⟨hgranted, e', hread, hagrees⟩ .nil)

/-- The entries that are read from rows, each from a row of its own. -/
theorem exists_entries_of_rows {R : AuditEntry -> AuditEntry -> Prop} {rows : List Row}
    (h : List.Forall₂ (fun e r => ∃ e', Row.entry r = .ok e' ∧ R e e') entries rows) :
    ∃ es, (rows.mapM fun r => r.entry.mapError TrailFault.unreadable) = .ok es ∧
      List.Forall₂ R entries es := by
  induction h with
  | nil => exact ⟨[], rfl, .nil⟩
  | @cons e r entries rows hrow _ ih =>
      obtain ⟨e', hread, hrelated⟩ := hrow
      obtain ⟨es, hes, hall⟩ := ih
      refine ⟨e' :: es, ?_, .cons hrelated hall⟩
      rw [List.mapM_cons, hread, hes]
      rfl

/-- A filter selects the rows of the entries that it accepts. -/
theorem Mirrors.select (h : d.Mirrors entries) (filter? : Option AuditFilter) :
    ∃ rows, d.select { filter? } = .ok rows ∧
      List.Forall₂ (fun e r => Row.Holds r e) (AuditLog.select filter? { entries }) rows := by
  obtain ⟨rows, htable, hrows⟩ := h
  refine ⟨rows.filter (Selection.accepts { filter? }), ?_, ?_⟩
  · rw [Database.select, Database.rows, htable]
    rfl
  · cases filter? with
    | none =>
        have hall : rows.filter (Selection.accepts { filter? := none }) = rows :=
          List.filter_eq_self.2 fun r _ => rfl
        rw [hall]
        exact hrows
    | some f =>
        refine List.rel_filter (fun e r hrow => ?_) hrows
        simp only [AuditFilter.accepts, Selection.accepts, Option.all_some, Option.all_none,
          hrow.granted]
        cases f <;> cases e.result.granted <;> decide

end Database

/-! ## Files -/

theorem Row.isFinite_toJson (r : Row) : r.toJson.isFinite = true := by
  refine Json.areFinite_iff.2 fun item hitem => ?_
  rcases List.mem_cons.1 hitem with rfl | hcell
  · rfl
  · obtain ⟨c, -, rfl⟩ := List.mem_map.1 hcell
    cases r.cell c <;> rfl

theorem Database.ofText?_toText (d : Database) : Database.ofText? d.toText = some d := by
  have hfinite : d.toJson.isFinite = true := by
    have hrows : ((d.table?.map fun rows => Json.array (rows.map Row.toJson)).getD .null).isFinite
        = true := by
      cases d.table? with
      | none => rfl
      | some rows =>
          refine Json.areFinite_iff.2 fun item hitem => ?_
          obtain ⟨r, -, rfl⟩ := List.mem_map.1 hitem
          exact r.isFinite_toJson
    simp only [Database.toJson, Json.isFinite, Json.haveFinite, hrows, Bool.and_self]
  have hparse := Json.parse_render (Json.regular_asciiStyle .spaced) d.toJson hfinite
  rw [Database.ofText?, Database.toText, hparse]
  exact Database.ofJson?_toJson d

/-- A trail is found in its file as it was kept. -/
theorem Content.ofKept_toText {d : Database} (h : d.table?.isNone = false) :
    Content.ofKept (Content.toText (.database d)) = .database d := by
  rw [Content.toText, h, Content.ofKept]
  simp only [Bool.false_eq_true, if_false, d.ofText?_toText]

namespace Files

/-- The files as they are found after they have been written down. -/
def kept (files : Files) : Files :=
  files.map fun file => (file.1, Content.ofKept file.2.toText)

/-- Closes a trail and opens it again from its file, a number of times. -/
def reopened (name path : String) : Nat -> Files -> Except Fault Files
  | 0, files => .ok files
  | n + 1, files => (files.kept.openTrail name path).bind (reopened name path n)

theorem get?_kept (name : String) (files : Files) :
    Table.get? name files.kept =
      (Table.get? name files).map fun content => Content.ofKept content.toText := by
  induction files with
  | nil => rfl
  | cons file rest ih =>
      obtain ⟨other, content⟩ := file
      simp only [kept, List.map_cons, Table.get?]
      split
      · rfl
      · exact ih

theorem names_kept (files : Files) : Table.names files.kept = Table.names files := by
  rw [Table.names, kept, List.map_map]
  rfl

/-- Whether there can be a file hangs on the names of the files alone. -/
theorem canHold_of_names {files others : Files} (h : Table.names others = Table.names files)
    (name : String) : others.canHold name = files.canHold name := by
  have hnames (t : Files) (directory : String) : t.isDirectory directory =
      (directory.isEmpty || (Table.names t).any fun n => (directory ++ "/").isPrefixOf n) := by
    rw [Table.names, List.any_map]
    rfl
  have hdirectory (directory : String) :
      others.isDirectory directory = files.isDirectory directory := by
    rw [hnames, hnames, h]
  rw [canHold, canHold, hdirectory, hdirectory]

/-- A name without directories is that of a file if it is not that of a directory. -/
theorem canHold_plain (files : Files) : files.canHold "t" = !files.isDirectory "t" := by
  have hsplit : "t".splitOn "/" = ["t"] := by
    rw [String.splitOn, if_neg (by decide), String.splitOnAux, if_neg (by decide),
      if_neg (by decide), String.splitOnAux, if_pos (by decide)]
    decide
  have hroot : files.isDirectory (directoryOf "t") = true := by
    rw [directoryOf, hsplit]
    rfl
  rw [canHold, hroot, hsplit]
  rfl

/-- What is seen in the database of a file is the answer. -/
theorem look_of_database {α : Type} {files : Files} {name operation : String} {d : Database}
    {see : Database -> Except NoTable α} {a : α}
    (hcontent : Table.get? name files = some (.database d)) (hsee : see d = .ok a) :
    files.look name operation see = .ok a := by
  rw [Files.look, Files.database, hcontent]
  simp only [Except.mapError, bind, Except.bind, hsee]

/-- A file in its place that holds a trail with a table. -/
structure Keeps (files : Files) (name : String) (d : Database) : Prop where
  canHold : files.canHold name = true
  content : Table.get? name files = some (.database d)
  table : d.table?.isNone = false

variable {files : Files} {name : String} {d : Database}

theorem Keeps.kept (h : files.Keeps name d) : files.kept.Keeps name d where
  canHold := by rw [canHold_of_names (names_kept files), h.canHold]
  content := by rw [get?_kept, h.content, Option.map_some, Content.ofKept_toText h.table]
  table := h.table

theorem Keeps.openTrail (h : files.Keeps name d) (path : String) :
    ∃ files', files.openTrail name path = .ok files' ∧ files'.Keeps name d := by
  have hprepare : d.prepare = d := by
    unfold Database.prepare
    split
    · rfl
    · rename_i hnone
      have := h.table
      rw [hnone] at this
      cases this
  have hmem : name ∈ Table.names files := by
    by_contra hnot
    have hcontent := h.content
    rw [Table.get?_eq_none_of_not_mem hnot] at hcontent
    cases hcontent
  refine ⟨Table.set name (.database d) files, ?_, ?_, ?_, h.table⟩
  · rw [Files.openTrail, h.canHold, h.content]
    simp [hprepare]
  · rw [canHold_of_names (Table.names_set_of_mem hmem), h.canHold]
  · rw [Table.get?_set, if_pos rfl]

/-- A trail is the same after any number of closes and reopenings. -/
theorem Keeps.reopened (h : files.Keeps name d) (path : String) (n : Nat) :
    ∃ files', files.reopened name path n = .ok files' ∧ files'.Keeps name d := by
  induction n generalizing files with
  | zero => exact ⟨files, rfl, h⟩
  | succ n ih =>
      obtain ⟨opened, hopen, hkeeps⟩ := h.kept.openTrail path
      obtain ⟨files', hreopened, hfiles⟩ := ih hkeeps
      refine ⟨files', ?_, hfiles⟩
      rw [Files.reopened, hopen]
      exact hreopened

/-- A trail lists the entries that it mirrors. -/
theorem Keeps.list (h : files.Keeps name d) {entries : List AuditEntry}
    (hmirrors : d.Mirrors entries) (filter? : Option AuditFilter) :
    ∃ es, files.list name { filter? } = .ok es ∧
      List.Forall₂ AuditEntry.Agrees (AuditLog.select filter? { entries }) es := by
  obtain ⟨rows, hselect, hrows⟩ := hmirrors.select filter?
  obtain ⟨es, hes, hall⟩ :=
    Database.exists_entries_of_rows (hrows.imp fun e r hrow => hrow.readable)
  refine ⟨es, ?_, hall⟩
  rw [Files.list, look_of_database h.content hselect]
  simp only [bind, Except.bind, Option.any_none, Bool.false_eq_true, if_false]
  exact hes

end Files

end Clearance.Trail
