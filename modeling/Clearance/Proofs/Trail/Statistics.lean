import Clearance.Proofs.Counts
import Clearance.Proofs.Trail.Queries
import Clearance.Report.Summary

/-!
# Statistics of a trail

The totals of a trail are taken from the cells of its rows, and a summary from the entries that are
read.  Both see the same of an entry: its permission, whether its decision granted it, and the
branch that decided.  So they agree.
-/

namespace Clearance

/-! ## Outcomes -/

/-- What statistics see of an entry. -/
structure Outcome where
  permission : String
  granted : Bool
  source : String

def AuditEntry.outcome (e : AuditEntry) : Outcome where
  permission := e.permission
  granted := e.result.granted
  source := e.result.source.name

/-- The outcome that stands in the cells of a row. -/
def Trail.Row.outcome (r : Row) : Outcome where
  permission := r.permission.content
  granted := r.granted.isTruthy
  source := r.source.content

/-- How outcomes turned out. -/
def Trail.Totals.ofOutcomes (outcomes : List Outcome) : Totals where
  total := outcomes.length
  granted := (outcomes.filter Outcome.granted).length
  denied := (outcomes.filter fun o => !o.granted).length
  bySource := Counts.ofList (outcomes.map Outcome.source)
  deniedByPermission :=
    Counts.ofList ((outcomes.filter fun o => !o.granted).map Outcome.permission)

/-- Whether a summary tells what the totals of a trail are; the order of denials is its own. -/
structure Trail.Totals.Agrees (t : Totals) (s : Summary) : Prop where
  total : s.total = t.total
  granted : s.granted = t.granted
  denied : s.denied = t.denied
  bySource : s.bySource = t.bySource
  deniedByPermission : ∀ permission,
    s.deniedByPermission.of permission = t.deniedByPermission.of permission

namespace Trail

variable {name : String} {entries : List AuditEntry} {files : Files}

theorem totals_of_table {d : Database} {rows : List Row} (h : d.table? = some rows) :
    d.totals = .ok (Totals.ofOutcomes (rows.map Row.outcome)) := by
  have hgranted (test : Bool -> Bool) : (rows.map Row.outcome).filter (fun o => test o.granted) =
      (rows.filter fun r => test r.granted.isTruthy).map Row.outcome := List.filter_map
  rw [Database.totals, Database.rows, h]
  simp only [bind, Except.bind, pure, Except.pure, List.partition_eq_filter_filter,
    Totals.ofOutcomes, hgranted (!·), List.filter_map, List.length_map, List.map_map]
  rfl

theorem ofOutcomes_agrees (entries : List AuditEntry) :
    (Totals.ofOutcomes (entries.map AuditEntry.outcome)).Agrees (Summary.of entries) := by
  have hdenied : (entries.map AuditEntry.outcome).filter (fun o => !o.granted) =
      (entries.filter fun e => !e.result.granted).map AuditEntry.outcome := List.filter_map
  have hgranted : (entries.map AuditEntry.outcome).filter Outcome.granted =
      (entries.filter fun e => e.result.granted).map AuditEntry.outcome := List.filter_map
  constructor
  · simp only [Summary.of, Totals.ofOutcomes, List.length_map]
  · simp only [Summary.of, Totals.ofOutcomes, List.partition_eq_filter_filter, hgranted,
      List.length_map]
  · simp only [Summary.of, Totals.ofOutcomes, List.partition_eq_filter_filter, hdenied,
      List.length_map]
    rfl
  · simp only [Summary.of, Totals.ofOutcomes, List.map_map]
    rfl
  · intro permission
    simp only [Summary.of, Totals.ofOutcomes, List.partition_eq_filter_filter, hdenied,
      List.map_map, Counts.of_byFrequency]
    rfl

theorem Row.Writes.outcome {r : Row} {e : AuditEntry} (h : r.Writes e) : r.outcome = e.outcome := by
  rw [Row.outcome, h.permission, h.granted, h.source, AuditEntry.outcome]
  cases e.result.granted <;> rfl

theorem outcome_of_recalled {e e' : AuditEntry} (h : e.Recalled e') : e'.outcome = e.outcome := by
  rw [AuditEntry.outcome, h.permission, h.result]
  rfl

/-- Outcomes that are seen one by one are seen in a list. -/
theorem map_outcome_eq {α : Type} {R : AuditEntry -> α -> Prop} {outcome : α -> Outcome}
    (hR : ∀ e a, R e a -> outcome a = e.outcome) {seen : List α}
    (h : List.Forall₂ R entries seen) : seen.map outcome = entries.map AuditEntry.outcome := by
  induction h with
  | nil => rfl
  | cons hhead _ ih => rw [List.map_cons, List.map_cons, hR _ _ hhead, ih]

/-! ## Totals and summary -/

theorem Files.Recorded.totals (h : Files.Recorded name entries files) :
    files.totals name = .ok (Totals.ofOutcomes (entries.map AuditEntry.outcome)) := by
  obtain ⟨d, hcontent, rows, htable, hrows⟩ := h.exists_database
  have houtcomes : rows.map Row.outcome = entries.map AuditEntry.outcome :=
    map_outcome_eq (fun e r hrow => hrow.outcome) hrows
  exact Files.look_of_database hcontent (houtcomes ▸ totals_of_table htable)

/-- The entries at moments of the calendar are all listed, with their outcomes. -/
theorem Files.Recorded.exists_list_all (h : Files.Recorded name entries files)
    (hgenuine : ∀ e ∈ entries, e.Genuine) :
    ∃ found, files.list name {} = .ok found ∧
      found.map AuditEntry.outcome = entries.map AuditEntry.outcome := by
  have hread : ∀ e ∈ entries, ∃ e', e.ReadAs e' := by
    obtain ⟨d, -, rows, -, hrows⟩ := h.exists_database
    have hwritten : ∀ e ∈ entries, ∃ r, Row.Writes r e :=
      ((List.forall₂_and_left entries rows).1 (hrows.imp fun e r hrow => ⟨⟨r, hrow⟩, hrow⟩)).1
    intro e he
    obtain ⟨r, id, hrow⟩ := hwritten e he
    exact exists_readAs (hgenuine e he) hrow
  have hunlimited : Selection.Short {} := fun limit hlimit => nomatch hlimit
  obtain ⟨kept, found, hfound, hsuffix, hlength, hall⟩ := h.exists_list hread hunlimited
  have hwanted : entries.filter (Selection.wants {}) = entries :=
    List.filter_eq_self.2 fun e _ => rfl
  rw [hwanted] at hsuffix hlength
  obtain rfl : kept = entries := hsuffix.eq_of_length hlength
  exact ⟨found, hfound, map_outcome_eq (fun e e' hrecalled => outcome_of_recalled hrecalled) hall⟩

/-- What is counted under a filter is what has its outcome. -/
theorem Files.Recorded.count_outcomes (h : Files.Recorded name entries files)
    (filter? : Option AuditFilter) {test : Outcome -> Bool}
    (htest : ∀ e, Selection.wants { filter? } e = test e.outcome) :
    files.count name filter? = .ok ((entries.map AuditEntry.outcome).filter test).length := by
  have hwants : Selection.wants { filter? } = test ∘ AuditEntry.outcome := funext htest
  rw [h.count, List.filter_map, List.length_map, hwants]

end Trail

end Clearance
