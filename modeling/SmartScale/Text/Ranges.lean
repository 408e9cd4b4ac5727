/-!
# Ranges of code points

A class of characters as a table of ranges, each with its first and its last code point, in order
and disjoint; membership is found by halving.
-/

namespace SmartScale

namespace Text

/-- The code point lies in one of the ranges from index `low` up to, not including, `high`.

Each round halves the stretch, so as many rounds as the count of ranges has bits are enough. -/
def inStretch (ranges : Array (Nat × Nat)) (point : Nat) : Nat → Nat → Nat → Bool
  | 0, _, _ => false
  | rounds + 1, low, high =>
    if high ≤ low then false
    else
      let middle := (low + high) / 2
      match ranges[middle]? with
      | none => false
      | some (first, last) =>
        if point < first then inStretch ranges point rounds low middle
        else if last < point then inStretch ranges point rounds (middle + 1) high
        else true

/-- The code point lies in one of the ranges. -/
def inRanges (ranges : Array (Nat × Nat)) (point : Nat) : Bool :=
  inStretch ranges point (ranges.size.log2 + 1) 0 ranges.size

end Text

end SmartScale
