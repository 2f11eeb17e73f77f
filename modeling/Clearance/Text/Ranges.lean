/-!
# Character ranges

A set of characters given by the inclusive ranges of their code points.
-/

namespace Clearance.Text

/-- Whether a code point lies in one of the ranges. -/
def inRanges (ranges : List (Nat × Nat)) (code : Nat) : Bool :=
  ranges.any fun (low, high) => decide (low <= code) && decide (code <= high)

theorem inRanges_iff {ranges : List (Nat × Nat)} {code : Nat} :
    inRanges ranges code = true ↔ ∃ r ∈ ranges, r.1 <= code ∧ code <= r.2 := by
  simp [inRanges]

end Clearance.Text
