import Mathlib.Data.List.Basic
import Mathlib.Data.List.Induction

/-!
# First places

The elements of a list, each of them once: they stand in the order of their first places in it.
-/

namespace Clearance

section

variable {α β : Type} [DecidableEq β]

/-- What comes last is a new element, or it is there already. -/
theorem eraseDups_concat (xs : List β) (x : β) :
    (xs ++ [x]).eraseDups = if x ∈ xs then xs.eraseDups else xs.eraseDups ++ [x] := by
  rw [List.eraseDups_append]
  by_cases hmem : x ∈ xs
  · have hnone : [x].removeAll xs = [] := by simp [List.removeAll, hmem]
    rw [if_pos hmem, hnone, List.eraseDups_nil, List.append_nil]
  · have hone : [x].removeAll xs = [x] := by simp [List.removeAll, hmem]
    rw [if_neg hmem, hone, List.eraseDups_cons, List.filter_nil, List.eraseDups_nil]

/-- What is read of some elements of a list stands in the order in which it is first read. -/
theorem pairwise_findIdx_eraseDups (picked : α -> Bool) (read : α -> β) (xs : List α) :
    ((xs.filter picked).map read).eraseDups.Pairwise fun a b =>
      xs.findIdx (fun x => picked x && read x == a) <
        xs.findIdx (fun x => picked x && read x == b) := by
  induction xs using List.reverseRecOn with
  | nil => exact .nil
  | append_singleton xs x ih =>
      -- What was read before keeps its first place.
      have hlt {a : β} (ha : a ∈ (xs.filter picked).map read) :
          xs.findIdx (fun x => picked x && read x == a) < xs.length := by
        obtain ⟨y, hy, hread⟩ := List.mem_map.1 ha
        obtain ⟨hmem, hpicked⟩ := List.mem_filter.1 hy
        exact List.findIdx_lt_length.2 ⟨y, hmem, by simp [hpicked, hread]⟩
      have hold {a : β} (ha : a ∈ (xs.filter picked).map read) :
          (xs ++ [x]).findIdx (fun x => picked x && read x == a) =
            xs.findIdx (fun x => picked x && read x == a) := by
        rw [List.findIdx_append, if_pos (hlt ha)]
      have hordered := ih.imp_of_mem fun ha hb hab => by
        rwa [← hold (List.mem_eraseDups.1 ha), ← hold (List.mem_eraseDups.1 hb)] at hab
      cases hpicked : picked x with
      | false =>
          rw [List.filter_append, List.filter_singleton, hpicked]
          simpa using hordered
      | true =>
          rw [List.filter_append, List.filter_singleton, hpicked, cond_true, List.map_append,
            List.map_singleton, eraseDups_concat]
          by_cases hmem : read x ∈ (xs.filter picked).map read
          · rw [if_pos hmem]
            exact hordered
          · rw [if_neg hmem]
            refine List.pairwise_append.2 ⟨hordered, List.pairwise_singleton _ _, ?_⟩
            intro a ha b hb
            have hnew : ¬ xs.findIdx (fun y => picked y && read y == read x) < xs.length := by
              rw [List.findIdx_lt_length]
              rintro ⟨y, hy, hsame⟩
              rw [Bool.and_eq_true, beq_iff_eq] at hsame
              exact hmem (hsame.2 ▸ List.mem_map_of_mem (List.mem_filter.2 ⟨hy, hsame.1⟩))
            rw [List.mem_singleton.1 hb, hold (List.mem_eraseDups.1 ha),
              List.findIdx_append, if_neg hnew]
            exact Nat.lt_add_left _ (hlt (List.mem_eraseDups.1 ha))

theorem nodup_eraseDups (xs : List β) : xs.eraseDups.Nodup := by
  have hfirst := pairwise_findIdx_eraseDups (fun _ => true) id xs
  rw [List.filter_true, List.map_id] at hfirst
  refine hfirst.imp fun {a b} hlt heq => ?_
  rw [heq] at hlt
  exact Nat.lt_irrefl _ hlt

end

end Clearance
