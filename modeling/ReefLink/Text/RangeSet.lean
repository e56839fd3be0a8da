/-!
# Sets of code points

A `RangeSet` is a Unicode property as a table: sorted, disjoint, inclusive ranges of code
points. Membership is a binary search over the ranges.
-/

namespace ReefLink.Text

/-- A set of code points given as sorted, disjoint, inclusive ranges. -/
structure RangeSet where
  ranges : Array (Nat × Nat)

namespace RangeSet

/-- Whether a code point lies in one of the ranges with index in `[lo, hi)`. -/
def searchIn (s : RangeSet) (c : Nat) (lo hi : Nat) : Bool :=
  if lo < hi then
    let mid := (lo + hi) / 2
    match s.ranges[mid]? with
    | none => false
    | some (a, b) =>
      if c < a then s.searchIn c lo mid
      else if b < c then s.searchIn c (mid + 1) hi
      else true
  else false
termination_by hi - lo

/-- **Membership** of a code point. -/
def containsCode (s : RangeSet) (c : Nat) : Bool := s.searchIn c 0 s.ranges.size

/-- Membership of a character. -/
def contains (s : RangeSet) (ch : Char) : Bool := s.containsCode ch.toNat

end RangeSet

end ReefLink.Text
