import Clearance.Table

/-!
# Counts

How often each name occurs in a list, in the order in which the names first occur.
-/

namespace Clearance

abbrev Counts := Table Nat

namespace Counts

/-- One more of a name. -/
def add (name : String) (c : Counts) : Counts :=
  Table.set name ((Table.get? name c).getD 0 + 1) c

def ofList (names : List String) : Counts :=
  names.foldl (fun c name => c.add name) []

/-- How often a name occurs. -/
def of (name : String) (c : Counts) : Nat :=
  (Table.get? name c).getD 0

/-- The most frequent names first; among names of one frequency the order stays. -/
def byFrequency (c : Counts) : Counts :=
  c.mergeSort fun a b => decide (b.2 ≤ a.2)

theorem of_add (name other : String) (c : Counts) :
    (c.add name).of other = c.of other + if other = name then 1 else 0 := by
  unfold add of
  rw [Table.get?_set]
  by_cases h : other = name
  · subst h
    simp
  · simp [h]

theorem of_foldl (names : List String) (c : Counts) (name : String) :
    (names.foldl (fun c n => c.add n) c).of name = c.of name + names.count name := by
  induction names generalizing c with
  | nil => simp
  | cons n rest ih =>
      rw [List.foldl_cons, ih, of_add, List.count_cons]
      by_cases h : name = n
      · subst h
        simp [Nat.add_assoc, Nat.add_comm]
      · simp [h, Ne.symm h]

/-- A list is counted name by name. -/
theorem of_ofList (names : List String) (name : String) :
    (ofList names).of name = names.count name := by
  rw [ofList, of_foldl]
  simp [of, Table.get?]

end Counts

end Clearance
