/-!
# Ranges of code points

A character property is a list of inclusive ranges of code points.
-/

namespace RecordFilter
namespace Text

/-- Does the code point lie in one of the inclusive ranges? -/
def inRanges (ranges : List (Nat × Nat)) (code : Nat) : Bool :=
  ranges.any fun range => range.1 ≤ code && code ≤ range.2

theorem inRanges_iff
    {ranges : List (Nat × Nat)}
    {code : Nat} :
    inRanges ranges code = true ↔
      ∃ range ∈ ranges, range.1 ≤ code ∧ code ≤ range.2 := by
  simp [inRanges]

end Text
end RecordFilter
