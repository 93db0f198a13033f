/-!
# Ranges of code points

Unicode describes a class of characters by ranges of code points.  A class is here a list of
inclusive ranges, and membership is the bounded test `inRanges`.  The tables of single classes
stand in modules of their own.
-/
namespace RpcMetrics.Text

/-- Inclusive ranges of code points. -/
abbrev CodeRanges := List (Nat × Nat)

/-- Whether the code point of `c` lies in one of the ranges. -/
def inRanges (ranges : CodeRanges) (c : Char) : Bool :=
  ranges.any fun range => decide (range.1 ≤ c.toNat) && decide (c.toNat ≤ range.2)

/-- Membership is what the ranges say. -/
theorem inRanges_iff {ranges : CodeRanges} {c : Char} :
    inRanges ranges c = true ↔ ∃ range ∈ ranges, range.1 ≤ c.toNat ∧ c.toNat ≤ range.2 := by
  simp [inRanges]

end RpcMetrics.Text
