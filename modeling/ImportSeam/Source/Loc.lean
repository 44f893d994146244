/-!
# Locations

A location is a range of the source, from the offset of its first byte to the offset after its
last one, in the source's UTF-8 form.  A node that does not come from the source has an empty
location at the place where it was put.

## Main definitions

* `Loc` — a range of byte offsets.
* `Loc.join` — the smallest range that covers two ranges.
-/

namespace ImportSeam

/-- The range of the source from the byte `start` up to and without the byte `stop`. -/
structure Loc where
  start : Nat
  stop : Nat
  deriving DecidableEq, Repr, Inhabited

namespace Loc

/-- The empty location at an offset. -/
def point (offset : Nat) : Loc := ⟨offset, offset⟩

/-- Whether the location covers no byte. -/
def isEmpty (l : Loc) : Bool := l.stop ≤ l.start

/-- The number of bytes covered. -/
def length (l : Loc) : Nat := l.stop - l.start

/-- The smallest location that covers both. -/
def join (a b : Loc) : Loc := ⟨min a.start b.start, max a.stop b.stop⟩

end Loc

end ImportSeam
