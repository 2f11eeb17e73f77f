import Clearance.Counts
import Clearance.Proofs.FirstPlaces
import Mathlib.Data.List.Nodup

/-!
# What is counted

A list is counted as a table of its names in the order in which they first occur, with nothing lost:
the counts add up to its length.  Ranking by frequency moves the names, and those of one frequency
keep their order.
-/

namespace Clearance.Counts

/-- How much is counted in all. -/
def total : Counts -> Nat
  | [] => 0
  | (_, n) :: rest => n + total rest

/-! ## Names -/

theorem ofList_concat (names : List String) (name : String) :
    ofList (names ++ [name]) = (ofList names).add name := by
  rw [ofList, List.foldl_append]
  rfl

/-- The names of a list stand in the order in which they first occur. -/
theorem names_ofList (names : List String) : Table.names (ofList names) = names.eraseDups := by
  induction names using List.reverseRecOn with
  | nil => rfl
  | append_singleton names name ih =>
      have hmem : name ∈ Table.names (ofList names) ↔ name ∈ names := by
        rw [ih, List.mem_eraseDups]
      rw [ofList_concat, add, eraseDups_concat]
      by_cases hold : name ∈ names
      · rw [if_pos hold, Table.names_set_of_mem (hmem.2 hold), ih]
      · rw [if_neg hold, Table.set_of_notMem (mt hmem.1 hold), Table.names, List.map_append, ← ih]
        rfl

theorem nodup_names_ofList (names : List String) : (Table.names (ofList names)).Nodup := by
  rw [names_ofList]
  exact nodup_eraseDups names

/-- A list is counted under the names that occur in it. -/
theorem mem_ofList_iff {names : List String} {name : String} {n : Nat} :
    (name, n) ∈ ofList names ↔ 0 < n ∧ n = names.count name := by
  rw [← Table.get?_eq_some_iff (nodup_names_ofList names), ← of_ofList, of]
  have hoccurs : name ∈ Table.names (ofList names) ↔ 0 < names.count name := by
    rw [names_ofList, List.mem_eraseDups, List.count_pos_iff]
  rw [← of_ofList, of] at hoccurs
  cases hget : Table.get? name (ofList names) with
  | none => simp only [Option.getD_none, reduceCtorEq, false_iff]; omega
  | some m =>
      have hmem : name ∈ Table.names (ofList names) :=
        List.mem_map_of_mem ((Table.get?_eq_some_iff (nodup_names_ofList names)).1 hget)
      have hpos : 0 < m := by simpa [hget] using hoccurs.1 hmem
      rw [Option.some_inj, Option.getD_some]
      omega

/-! ## Totals -/

theorem total_add (name : String) (c : Counts) : (c.add name).total = c.total + 1 := by
  induction c with
  | nil => rfl
  | cons entry rest ih =>
      obtain ⟨other, n⟩ := entry
      by_cases h : other = name
      · simp only [add, Table.get?, Table.set, h, if_true, total, Option.getD_some]
        omega
      · simp only [add, Table.get?, Table.set, h, if_false, total] at ih ⊢
        omega

/-- Nothing is lost in counting. -/
theorem total_ofList (names : List String) : (ofList names).total = names.length := by
  induction names using List.reverseRecOn with
  | nil => rfl
  | append_singleton names name ih =>
      rw [ofList_concat, total_add, ih, List.length_append, List.length_singleton]

theorem total_perm {c d : Counts} (h : c.Perm d) : c.total = d.total := by
  induction h with
  | nil => rfl
  | cons entry _ ih => rw [total, total, ih]
  | swap first second rest =>
      simp only [total]
      omega
  | trans _ _ ih ih' => exact ih.trans ih'

/-! ## Order -/

/-- The order of counts is no part of what is counted. -/
theorem of_perm {c d : Counts} (hnodup : (Table.names d).Nodup) (hperm : c.Perm d) (name : String) :
    c.of name = d.of name := by
  have hnodup' : (Table.names c).Nodup := (hperm.map Prod.fst).nodup_iff.2 hnodup
  have hsame : Table.get? name c = Table.get? name d := by
    refine Option.ext fun n => ?_
    rw [Table.get?_eq_some_iff hnodup', Table.get?_eq_some_iff hnodup, hperm.mem_iff]
  rw [of, of, hsame]

/-- Nor is the order of what is counted. -/
theorem ofList_perm {names names' : List String} (h : names.Perm names') :
    (ofList names).Perm (ofList names') := by
  have hnodup (names : List String) : (ofList names).Nodup :=
    List.Nodup.of_map Prod.fst (nodup_names_ofList names)
  refine (List.perm_ext_iff_of_nodup (hnodup names) (hnodup names')).2 fun (name, n) => ?_
  rw [mem_ofList_iff, mem_ofList_iff, h.count_eq]

theorem byFrequency_perm (c : Counts) : c.byFrequency.Perm c :=
  List.mergeSort_perm _ _

theorem of_byFrequency (names : List String) (name : String) :
    (ofList names).byFrequency.of name = (ofList names).of name :=
  of_perm (nodup_names_ofList names) (byFrequency_perm _) name

/-! ## Ranking -/

theorem frequent_trans (a b d : String × Nat) (hab : decide (b.2 ≤ a.2) = true)
    (hbd : decide (d.2 ≤ b.2) = true) : decide (d.2 ≤ a.2) = true :=
  decide_eq_true (Nat.le_trans (of_decide_eq_true hbd) (of_decide_eq_true hab))

theorem frequent_total (a b : String × Nat) :
    (decide (b.2 ≤ a.2) || decide (a.2 ≤ b.2)) = true := by
  simpa using Nat.le_total b.2 a.2

/-- The counts of one size stand among the ranked ones as they stood before. -/
theorem filter_byFrequency (c : Counts) (n : Nat) :
    c.byFrequency.filter (fun entry => entry.2 == n) = c.filter fun entry => entry.2 == n := by
  have hranked : (c.filter fun entry => entry.2 == n).Sublist c.byFrequency := by
    refine List.sublist_mergeSort frequent_trans frequent_total ?_ List.filter_sublist
    refine List.pairwise_filter.2 (List.pairwise_of_forall fun a b ha hb => ?_)
    exact decide_eq_true (Nat.le_of_eq ((eq_of_beq hb).trans (eq_of_beq ha).symm))
  have hsame := hranked.filter fun entry : String × Nat => entry.2 == n
  rw [List.filter_filter] at hsame
  simp only [Bool.and_self] at hsame
  exact (hsame.eq_of_length ((byFrequency_perm c).filter _).length_eq.symm).symm

/-- Ranked counts do not increase, and those of one size keep the order in which they stood. -/
theorem pairwise_byFrequency {R : String × Nat -> String × Nat -> Prop} {c : Counts}
    (h : c.Pairwise R) :
    c.byFrequency.Pairwise fun a b => b.2 < a.2 ∨ b.2 = a.2 ∧ R a b := by
  have hranked : c.byFrequency.Pairwise fun a b => b.2 ≤ a.2 :=
    (List.pairwise_mergeSort frequent_trans frequent_total c).imp of_decide_eq_true
  refine List.pairwise_iff_forall_sublist.2 fun {a b} hpair => ?_
  have hle : b.2 ≤ a.2 := List.pairwise_iff_forall_sublist.1 hranked hpair
  cases Nat.lt_or_eq_of_le hle with
  | inl hlt => exact .inl hlt
  | inr heq =>
      have hkept := hpair.filter fun entry => entry.2 == a.2
      rw [filter_byFrequency] at hkept
      have hboth : [a, b].filter (fun entry => entry.2 == a.2) = [a, b] := by simp [heq]
      rw [hboth] at hkept
      exact .inr ⟨heq, List.pairwise_iff_forall_sublist.1 h (hkept.trans List.filter_sublist)⟩

end Clearance.Counts
