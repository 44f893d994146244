/-!
# Double-precision numbers

A number of the language is a binary floating-point number of 53 significant bits.  A finite one
is kept as a sign, a significand `m` and an exponent `e`, and stands for `m · 2 ^ e`; of the many
ways to write a value so, `ofRatio` chooses the one whose significand has 53 bits, or whose
exponent is the least one, `-1074`, for values too small for that.

Everything is exact arithmetic on natural numbers followed by one rounding to the nearest
representable value, a tie going to the even significand.

## Main definitions

* `Number` — not a number, the two infinities, and the finite values.
* `Number.ofRatio` — the representable value nearest to a fraction.
* `Number.mulNat`, `Number.addNat` — one multiplication or addition, rounded once.
* `Number.bits` — the sixty-four bit pattern.
* `Number.equals` — equality of values, under which the two zeros are one and not-a-number equals
  itself.
-/

namespace ImportSeam

/-- A double-precision number. -/
inductive Number where
  /-- Not a number. -/
  | nan
  /-- One of the two infinities. -/
  | infinite (negative : Bool)
  /-- The value `significand · 2 ^ exponent` with a sign. -/
  | finite (negative : Bool) (significand : Nat) (exponent : Int)
  deriving DecidableEq, Repr, Inhabited

namespace Number

/-- The least exponent of a finite value. -/
def minExponent : Int := -1074

/-- The greatest exponent of a finite value. -/
def maxExponent : Int := 971

/-- The number zero. -/
def zero (negative : Bool) : Number := .finite negative 0 minExponent

/-- The quotient rounded to the nearest natural number, a tie going to the even one. -/
def roundDiv (num den : Nat) : Nat :=
  let q := num / den
  let r := num % den
  if 2 * r < den then q
  else if den < 2 * r then q + 1
  else if q % 2 == 0 then q else q + 1

/-- Multiplies the fraction `num / den` by `2 ^ -e`. -/
def scaleDown (num den : Nat) (e : Int) : Nat × Nat :=
  match e with
  | .ofNat k => (num, den * Nat.pow 2 k)
  | .negSucc k => (num * Nat.pow 2 (k + 1), den)

/-- The representable number nearest to `num / den`, a tie going to the even significand.  From
half a unit above the greatest finite value on it is an infinity. -/
def ofRatio (negative : Bool) (num den : Nat) : Number :=
  if num == 0 then zero negative
  else
    -- The quotient lies between `2 ^ (l - 1)` and `2 ^ (l + 1)`.
    let l : Int := (num.log2 : Int) - (den.log2 : Int)
    let low := max minExponent (l - 53)
    let (n, d) := scaleDown num den low
    let e := if Nat.pow 2 53 ≤ n / d then low + 1 else low
    let (n, d) := scaleDown num den e
    let m := roundDiv n d
    let (m, e) := if m == Nat.pow 2 53 then (Nat.pow 2 52, e + 1) else (m, e)
    if maxExponent < e then .infinite negative else .finite negative m e

/-- A finite value as a fraction. -/
def ratio (significand : Nat) (exponent : Int) : Nat × Nat :=
  match exponent with
  | .ofNat k => (significand * Nat.pow 2 k, 1)
  | .negSucc k => (significand, Nat.pow 2 (k + 1))

/-- The product with a natural number, rounded. -/
def mulNat (x : Number) (n : Nat) : Number :=
  match x with
  | .finite negative m e =>
    let (num, den) := ratio m e
    ofRatio negative (num * n) den
  | other => other

/-- The sum of a number that is not negative and a natural number, rounded. -/
def addNat (x : Number) (n : Nat) : Number :=
  match x with
  | .finite negative m e =>
    let (num, den) := ratio m e
    ofRatio negative (num + n * den) den
  | other => other

/-- The sixty-four bit pattern: sign, biased exponent, and the significand without its leading
bit. -/
def bits : Number → Nat
  | .nan => 0x7ff8000000000000
  | .infinite negative => sign negative + 0x7ff0000000000000
  | .finite negative m e =>
    if m < Nat.pow 2 52 then sign negative + m
    else sign negative + (e + 1075).toNat * Nat.pow 2 52 + (m - Nat.pow 2 52)
where
  /-- The sign bit in its place. -/
  sign (negative : Bool) : Nat := if negative then Nat.pow 2 63 else 0

/-- Equality of values: the sign of zero does not count, and not-a-number equals itself. -/
def equals : Number → Number → Bool
  | .nan, .nan => true
  | .infinite a, .infinite b => a == b
  | .finite a m e, .finite b n f => m == n && ((m == 0) || (a == b && e == f))
  | _, _ => false

end Number

end ImportSeam
