import ImportSeam.Number.Basic

/-!
# The fewest digits that read back

The reals that round to a finite value form an interval around it.  Of the decimals in that
interval one with the fewest digits is chosen, and of those the one nearest to the value.  For
each number of digits it is enough to look at the two neighbours of the value on that decimal
grid.

## Main definitions

* `Decimal` — a decimal significand and a power of ten.
* `Number.shortest` — the fewest digits that read back as a value.
-/

namespace ImportSeam

/-- The decimal `digits · 10 ^ exponent`. -/
structure Decimal where
  digits : Nat
  exponent : Int
  deriving DecidableEq, Repr

namespace Number

/-- The reals that round to a value, over a common denominator: the value itself, the two ends,
and whether the ends belong to it. -/
structure Interval where
  value : Nat
  low : Nat
  high : Nat
  den : Nat
  closed : Bool

/-- The interval of a finite value.  The lower half is half as wide where the significand is a
power of two, since the values below lie closer together. -/
def interval (significand : Nat) (exponent : Int) : Interval :=
  let narrow := significand == Nat.pow 2 52 && minExponent < exponent
  let (unit, den) := ratio 1 (exponent - 2)
  { value := 4 * significand * unit
    low := (4 * significand - (if narrow then 1 else 2)) * unit
    high := (4 * significand + 2) * unit
    den := den
    closed := significand % 2 == 0 }

/-- Whether the fraction `num / den` lies in the interval. -/
def Interval.contains (i : Interval) (num den : Nat) : Bool :=
  let x := num * i.den
  if i.closed then i.low * den ≤ x && x ≤ i.high * den
  else i.low * den < x && x < i.high * den

/-- Multiplies a fraction by `10 ^ -k`. -/
def scaleTen (num den : Nat) (k : Int) : Nat × Nat :=
  match k with
  | .ofNat n => (num, den * Nat.pow 10 n)
  | .negSucc n => (num * Nat.pow 10 (n + 1), den)

/-- The multiple of `10 ^ k` in the interval nearest to its value, if there is one. -/
def Interval.onGrid (i : Interval) (k : Int) : Option Nat :=
  let (n, d) := scaleTen i.value i.den k
  let down := n / d
  let inside (q : Nat) : Bool :=
    let (num, den) := scaleTen q 1 (-k)
    i.contains num den
  match inside down, inside (down + 1) with
  | true, true => some (if 2 * (n % d) < d then down else down + 1)
  | true, false => some down
  | false, true => some (down + 1)
  | false, false => none

/-- The number of decimal digits before the point of a positive fraction, counted downwards past
zero for fractions below a tenth: the `p` with `10 ^ (p - 1) ≤ num / den < 10 ^ p`. -/
def magnitude (num den : Nat) : Int :=
  let guess : Int := ((Nat.toDigits 10 num).length : Int) - ((Nat.toDigits 10 den).length : Int)
  let (n, d) := scaleTen num den guess
  if d ≤ n then guess + 1 else guess

/-- Tries one digit more until the interval contains a decimal. -/
def shortestFrom (i : Interval) (p : Int) (digits : Nat) : Nat → Decimal
  | 0 => ⟨i.value / i.den, 0⟩
  | tries + 1 =>
    let k := p - digits
    match i.onGrid k with
    -- A neighbour that is the next power of ten has a zero to spare.
    | some q => if q % 10 == 0 then ⟨q / 10, k + 1⟩ else ⟨q, k⟩
    | none => shortestFrom i p (digits + 1) tries

/-- The decimal with the fewest digits that reads back as the value.  Seventeen digits always
suffice. -/
def shortest (significand : Nat) (exponent : Int) : Decimal :=
  let i := interval significand exponent
  shortestFrom i (magnitude i.value i.den) 1 18

end Number

end ImportSeam
