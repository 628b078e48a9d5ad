/-
# Ranges of code points

A character class is given by the inclusive ranges of code points that make it up.
-/

namespace CatalogClient.Text

/-- Inclusive ranges of code points. -/
abbrev CharRanges := List (Nat × Nat)

/-- Whether a code point lies in one of the ranges. -/
def CharRanges.hasCode (ranges : CharRanges) (code : Nat) : Bool :=
  ranges.any fun range => decide (range.1 ≤ code) && decide (code ≤ range.2)

/-- Whether a character lies in one of the ranges. -/
def CharRanges.contains (ranges : CharRanges) (c : Char) : Bool :=
  ranges.hasCode c.toNat

theorem CharRanges.contains_iff (ranges : CharRanges) (c : Char) :
    ranges.contains c = true ↔ ∃ range ∈ ranges, range.1 ≤ c.toNat ∧ c.toNat ≤ range.2 := by
  simp [CharRanges.contains, CharRanges.hasCode]

end CatalogClient.Text
