/-!
# Sets of code points

A property of characters is given as an ascending list of closed ranges of code points.
-/

namespace IntelHex.Text

/-- A code point is covered when one of the closed ranges holds it. -/
def covered (ranges : List (Nat × Nat)) (code : Nat) : Bool :=
  ranges.any fun (first, last) => decide (first ≤ code) && decide (code ≤ last)

/-- Covered means inside some listed range. -/
theorem covered_iff (ranges : List (Nat × Nat)) (code : Nat) :
    covered ranges code = true ↔ ∃ r ∈ ranges, r.1 ≤ code ∧ code ≤ r.2 := by
  simp [covered]

end IntelHex.Text
