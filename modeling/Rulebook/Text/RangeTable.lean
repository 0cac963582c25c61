import Rulebook.Text.Basic

/-!
# Tables of code point ranges

A class of code points is kept as the ascending boundaries of its runs: the places where membership
changes, from the first member on. A code point belongs to the class when an odd number of boundaries is
not above it.
-/

namespace Rulebook.Text

/-- Halving search between `low` and `high` for the number of places whose entry is not above `c`. -/
def upperBoundLoop (f : Nat → Nat) (c : Nat) : Nat → Nat → Nat → Nat
  | 0, low, _ => low
  | fuel + 1, low, high =>
    if high ≤ low then low
    else
      let mid := (low + high) / 2
      if f mid ≤ c then upperBoundLoop f c fuel (mid + 1) high else upperBoundLoop f c fuel low mid

/-- The number of places below `size` whose entry is not above `c`, for ascending entries. -/
def upperBound (f : Nat → Nat) (c : Nat) (size : Nat) : Nat := upperBoundLoop f c (size + 1) 0 size

/-- A class of code points, by the ascending boundaries of its runs. -/
structure RangeTable where
  boundaries : Array Nat

/-- Membership in the class. -/
def RangeTable.contains (table : RangeTable) (c : CodePoint) : Bool :=
  upperBound (fun i => table.boundaries.getD i 0) c table.boundaries.size % 2 == 1

end Rulebook.Text
