import Clearance.Proofs.Counts
import Clearance.Report.Summary

/-!
# What a summary counts

Every entry is counted once as granted or as denied, once under the branch that decided, and once
under its permission if it is denied.  No count depends on the order of the entries, and the counts
of one list after another are those of both lists.
-/

namespace Clearance

/-- Whether a branch of this name decided. -/
def AuditEntry.isFrom (source : String) (e : AuditEntry) : Bool :=
  e.result.source.name == source

/-- Whether this permission was denied. -/
def AuditEntry.denies (permission : String) (e : AuditEntry) : Bool :=
  !e.result.granted && e.permission == permission

namespace Summary

/-- What a summary tells of some entries. -/
structure Accounts (entries : List AuditEntry) (s : Summary) : Prop where
  total : s.total = entries.length
  granted : s.granted = entries.countP fun e => e.result.granted
  outcomes : s.granted + s.denied = s.total
  bySource : ∀ source n,
    (source, n) ∈ s.bySource ↔ 0 < n ∧ n = entries.countP (AuditEntry.isFrom source)
  bySource_total : s.bySource.total = s.total
  /-- The branches stand in the order in which they first decided. -/
  bySource_order : s.bySource.Pairwise fun a b =>
    entries.findIdx (AuditEntry.isFrom a.1) < entries.findIdx (AuditEntry.isFrom b.1)
  denials : ∀ permission n, (permission, n) ∈ s.deniedByPermission ↔
    0 < n ∧ n = entries.countP (AuditEntry.denies permission)
  denials_total : s.deniedByPermission.total = s.denied
  /-- The most denied come first; those denied as often stand in the order of their first denials. -/
  denials_order : s.deniedByPermission.Pairwise fun a b => b.2 < a.2 ∨ b.2 = a.2 ∧
    entries.findIdx (AuditEntry.denies a.1) < entries.findIdx (AuditEntry.denies b.1)

/-- Whether two summaries have the same counts. -/
structure Alike (s t : Summary) : Prop where
  total : s.total = t.total
  granted : s.granted = t.granted
  denied : s.denied = t.denied
  bySource : s.bySource.Perm t.bySource
  deniedByPermission : s.deniedByPermission.Perm t.deniedByPermission

/-- Whether the counts of a summary are those of two others together. -/
structure Sums (s t sum : Summary) : Prop where
  total : sum.total = s.total + t.total
  granted : sum.granted = s.granted + t.granted
  denied : sum.denied = s.denied + t.denied
  bySource : ∀ source, sum.bySource.of source = s.bySource.of source + t.bySource.of source
  deniedByPermission : ∀ permission, sum.deniedByPermission.of permission =
    s.deniedByPermission.of permission + t.deniedByPermission.of permission

/-! ## The parts of a summary -/

/-- The branches that decided, one for each entry. -/
def sources (entries : List AuditEntry) : List String :=
  entries.map fun e => e.result.source.name

/-- The permissions that were denied, one for each denial. -/
def denials (entries : List AuditEntry) : List String :=
  (entries.filter fun e => !e.result.granted).map AuditEntry.permission

variable (entries : List AuditEntry)

theorem granted_of : (of entries).granted = entries.countP fun e => e.result.granted := by
  rw [of, List.partition_eq_filter_filter, List.countP_eq_length_filter]

theorem denied_of : (of entries).denied = (denials entries).length := by
  rw [of, List.partition_eq_filter_filter, denials, List.length_map]
  rfl

theorem bySource_of : (of entries).bySource = Counts.ofList (sources entries) :=
  rfl

theorem deniedByPermission_of :
    (of entries).deniedByPermission = (Counts.ofList (denials entries)).byFrequency := by
  rw [of, List.partition_eq_filter_filter]
  rfl

theorem count_sources (source : String) :
    (sources entries).count source = entries.countP (AuditEntry.isFrom source) := by
  rw [sources, List.count_eq_countP, List.countP_map]
  rfl

theorem count_denials (permission : String) :
    (denials entries).count permission = entries.countP (AuditEntry.denies permission) := by
  rw [denials, List.count_eq_countP, List.countP_map, List.countP_filter]
  refine List.countP_congr fun e _ => ?_
  rw [AuditEntry.denies, Bool.and_comm]
  rfl

/-- Names of a count that stand in the order of their first places. -/
theorem pairwise_ofList_findIdx (picked : AuditEntry -> Bool) (read : AuditEntry -> String) :
    (Counts.ofList ((entries.filter picked).map read)).Pairwise fun a b =>
      entries.findIdx (fun e => picked e && read e == a.1) <
        entries.findIdx (fun e => picked e && read e == b.1) := by
  have hfirst := pairwise_findIdx_eraseDups picked read entries
  rw [← Counts.names_ofList, Table.names, List.pairwise_map] at hfirst
  exact hfirst

theorem accounts_of : Accounts entries (of entries) where
  total := rfl
  granted := granted_of entries
  outcomes := granted_add_denied entries
  bySource := by
    intro source n
    rw [bySource_of, Counts.mem_ofList_iff, count_sources]
  bySource_total := by
    rw [bySource_of, Counts.total_ofList, sources, List.length_map]
    rfl
  bySource_order := by
    have hfirst := pairwise_ofList_findIdx entries (fun _ => true) fun e => e.result.source.name
    rw [List.filter_true] at hfirst
    exact hfirst
  denials := by
    intro permission n
    rw [deniedByPermission_of, (Counts.byFrequency_perm _).mem_iff, Counts.mem_ofList_iff,
      count_denials]
  denials_total := by
    rw [deniedByPermission_of, Counts.total_perm (Counts.byFrequency_perm _), Counts.total_ofList,
      denied_of]
  denials_order := by
    rw [deniedByPermission_of]
    exact Counts.pairwise_byFrequency (pairwise_ofList_findIdx entries _ _)

/-! ## Other orders and other entries -/

variable {entries} {others : List AuditEntry}

theorem alike_of_perm (h : entries.Perm others) : Alike (of entries) (of others) where
  total := h.length_eq
  granted := by
    rw [granted_of, granted_of, h.countP_eq]
  denied := by
    rw [denied_of, denied_of]
    exact ((h.filter _).map _).length_eq
  bySource := Counts.ofList_perm (h.map _)
  deniedByPermission := by
    have hsame : (Counts.ofList (denials entries)).Perm (Counts.ofList (denials others)) :=
      Counts.ofList_perm ((h.filter _).map _)
    rw [deniedByPermission_of, deniedByPermission_of]
    exact ((Counts.byFrequency_perm _).trans hsame).trans (Counts.byFrequency_perm _).symm

theorem sums_of_append (entries more : List AuditEntry) :
    Sums (of entries) (of more) (of (entries ++ more)) where
  total := List.length_append
  granted := by
    rw [granted_of, granted_of, granted_of, List.countP_append]
  denied := by
    rw [denied_of, denied_of, denied_of, denials, List.filter_append, List.map_append,
      List.length_append]
    rfl
  bySource := by
    intro source
    simp only [bySource_of, Counts.of_ofList, count_sources, List.countP_append]
  deniedByPermission := by
    intro permission
    simp only [deniedByPermission_of, Counts.of_byFrequency, Counts.of_ofList, count_denials,
      List.countP_append]

/--
A summary counts every entry under its outcome, its branch and its denied permission.  It keeps its
counts when the entries are put in another order, and counts more entries by adding.
-/
theorem of_conserves_counts (entries : List AuditEntry) :
    Accounts entries (of entries) ∧
      (∀ others, entries.Perm others -> Alike (of entries) (of others)) ∧
      ∀ more, Sums (of entries) (of more) (of (entries ++ more)) :=
  ⟨accounts_of entries, fun _ h => alike_of_perm h, sums_of_append entries⟩

end Summary

end Clearance
