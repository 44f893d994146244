/-!
# Sets of code points

A property of characters, such as being a letter, is a set of code points made of a few hundred
intervals.  Such a set is kept as the list of its boundaries: the code points at which membership
changes, so that a number belongs to the set exactly when an odd number of boundaries lie at or
below it.

## Main definitions

* `CodePointSet` — a set given by its boundaries.
* `CodePointSet.contains` — membership of a character.
-/

namespace ImportSeam

/-- A set of code points, as the list of the points where membership changes.  For the intervals
`[a, b)`, `[c, d)` the list is `a, b, c, d`. -/
structure CodePointSet where
  bounds : List Nat

namespace CodePointSet

/-- A character is in the set when an odd number of boundaries are at or below its code point. -/
def contains (s : CodePointSet) (c : Char) : Bool :=
  s.bounds.countP (· ≤ c.toNat) % 2 == 1

end CodePointSet

end ImportSeam
