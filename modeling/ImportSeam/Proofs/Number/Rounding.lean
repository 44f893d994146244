import ImportSeam.Number.Basic
import Mathlib.Algebra.Order.Field.Power
import Mathlib.Algebra.Order.Field.Rat
import Mathlib.Tactic.Linarith
import Mathlib.Tactic.NormNum
import Mathlib.Tactic.Positivity
import Mathlib.Tactic.Ring

/-!
# Rounding whole numbers

What it means for a double-precision number to be the one nearest to a rational, and the natural
numbers as the case in which `ofRatio` can be followed to the end: the fifty-three leading bits of
a natural number are kept, the rest decides which way to round, and a significand that rounds up
to `2 ^ 53` is carried into the exponent.

## Main definitions

* `Number.value` — the rational a finite number stands for.
* `Number.IsDouble` — a finite number in the one form that has a bit pattern.
* `Number.IsNearest` — the double nearest to a rational, a tie going to the even significand.
* `Number.toNearest` — a natural number rounded to fifty-three leading bits.
* `Number.whole` — the number that `toNearest` stands for.

## Main results

* `Number.isNearest_whole` — `whole n` is the double nearest to `n`.
* `Number.Denotes.mulNat`, `Number.Denotes.addNat` — one operation on whole numbers is the exact
  result, rounded once.
-/

namespace ImportSeam.Number

/-! ### Values -/

/-- The rational that a finite number stands for, and zero for the others. -/
def value : Number → ℚ
  | .finite negative m e => (if negative then -1 else 1) * m * (2 : ℚ) ^ e
  | _ => 0

/-- The digits of a number before its exponent is applied. -/
def significand : Number → Nat
  | .finite _ m _ => m
  | _ => 0

/-- A finite number in the form that has a bit pattern: the significand takes fifty-three bits
unless the exponent is the least one. -/
inductive IsDouble : Number → Prop
  | finite {negative : Bool} {m : Nat} {e : Int} (hm : m < 2 ^ 53) (hmin : minExponent ≤ e)
      (hmax : e ≤ maxExponent) (hlead : 2 ^ 52 ≤ m ∨ e = minExponent) :
      IsDouble (.finite negative m e)

/-- The number `x` is the double nearest to `v`, and the one with the even significand when two
are equally near. -/
structure IsNearest (x : Number) (v : ℚ) : Prop where
  double : x.IsDouble
  nearest : ∀ y : Number, y.IsDouble → |x.value - v| ≤ |y.value - v|
  even : ∀ y : Number, y.IsDouble → y.value ≠ x.value → |y.value - v| = |x.value - v| →
    x.significand % 2 = 0

/-! ### Rounded quotients -/

section Quotient
variable {n q u c : Nat}

/-- The three ways a quotient is rounded. -/
theorem roundDiv_cases (n u : Nat) :
    (2 * (n % u) < u ∧ roundDiv n u = n / u) ∨ (u < 2 * (n % u) ∧ roundDiv n u = n / u + 1) ∨
      (2 * (n % u) = u ∧ roundDiv n u = n / u + n / u % 2) := by
  simp only [roundDiv, beq_iff_eq]
  by_cases hlt : 2 * (n % u) < u
  · exact Or.inl ⟨hlt, if_pos hlt⟩
  · by_cases hgt : u < 2 * (n % u)
    · refine Or.inr (Or.inl ⟨hgt, ?_⟩)
      rw [if_neg hlt, if_pos hgt]
    · refine Or.inr (Or.inr ⟨by omega, ?_⟩)
      rw [if_neg hlt, if_neg hgt]
      split <;> omega

theorem roundDiv_le (n u : Nat) : roundDiv n u ≤ n / u + 1 := by
  have := roundDiv_cases n u
  omega

theorem div_le_roundDiv (n u : Nat) : n / u ≤ roundDiv n u := by
  have := roundDiv_cases n u
  omega

/-- A common factor does not change a rounded quotient. -/
theorem roundDiv_mul_mul_right (hc : 0 < c) : roundDiv (n * c) (u * c) = roundDiv n u := by
  have h (a b : Nat) : 2 * (a * c) < b * c ↔ 2 * a < b := by
    rw [← Nat.mul_assoc, Nat.mul_lt_mul_right hc]
  have h' (a b : Nat) : b * c < 2 * (a * c) ↔ b < 2 * a := by
    rw [← Nat.mul_assoc, Nat.mul_lt_mul_right hc]
  simp only [roundDiv, Nat.mul_div_mul_right _ _ hc, Nat.mul_mod_mul_right, h, h']

/-- A multiple is divided without rounding. -/
theorem roundDiv_mul_self (hu : 0 < u) : roundDiv (q * u) u = q := by
  simp [roundDiv, Nat.mul_div_cancel _ hu, hu]

theorem roundDiv_one (n : Nat) : roundDiv n 1 = n := by
  simp [roundDiv, Nat.mod_one]

end Quotient

/-! ### Leading bits -/

section Bits
variable {n k : Nat}

theorem log2_mul_two_pow (hn : n ≠ 0) (k : Nat) : (n * 2 ^ k).log2 = n.log2 + k := by
  rw [Nat.log2_eq_iff (Nat.mul_ne_zero hn (Nat.two_pow_pos k).ne')]
  constructor
  · rw [Nat.pow_add]
    exact Nat.mul_le_mul_right _ (Nat.log2_self_le hn)
  · rw [show n.log2 + k + 1 = n.log2 + 1 + k by omega, Nat.pow_add]
    exact Nat.mul_lt_mul_of_pos_right Nat.lt_log2_self (Nat.two_pow_pos k)

theorem lt_two_pow_of_log2_lt (h : n.log2 < k) : n < 2 ^ k :=
  lt_of_lt_of_le Nat.lt_log2_self (Nat.pow_le_pow_right (by decide) h)

theorem ne_zero_of_log2_pos (h : 0 < n.log2) : n ≠ 0 := by
  rintro rfl
  simp at h

/-- The leading bits of a number, all but the last `k`. -/
theorem two_pow_le_div (hn : n ≠ 0) (hk : k ≤ n.log2) : 2 ^ (n.log2 - k) ≤ n / 2 ^ k := by
  rw [Nat.le_div_iff_mul_le (Nat.two_pow_pos k), ← Nat.pow_add, Nat.sub_add_cancel hk]
  exact Nat.log2_self_le hn

theorem div_lt_two_pow (hk : k ≤ n.log2) : n / 2 ^ k < 2 ^ (n.log2 - k + 1) := by
  rw [Nat.div_lt_iff_lt_mul (Nat.two_pow_pos k), ← Nat.pow_add,
    show n.log2 - k + 1 + k = n.log2 + 1 by omega]
  exact Nat.lt_log2_self

theorem log2_div_two_pow (hn : n ≠ 0) (hk : k ≤ n.log2) : (n / 2 ^ k).log2 = n.log2 - k := by
  have hle := two_pow_le_div hn hk
  have hpos : n / 2 ^ k ≠ 0 := by
    have := Nat.two_pow_pos (n.log2 - k)
    omega
  rw [Nat.log2_eq_iff hpos]
  exact ⟨hle, div_lt_two_pow hk⟩

end Bits

/-! ### Whole numbers -/

/-- The distance between doubles next to `n`, or one where they lie closer than that. -/
def unit (n : Nat) : Nat := 2 ^ (n.log2 - 52)

/-- A natural number rounded to its fifty-three leading bits, a tie going to the even ones. -/
def toNearest (n : Nat) : Nat := roundDiv n (unit n) * unit n

/-- The double that `toNearest n` stands for, as long as that is in range. -/
def whole (n : Nat) : Number :=
  if n = 0 then zero false
  else if n.log2 < 52 then .finite false (n * 2 ^ (52 - n.log2)) (n.log2 - 52)
  else if roundDiv n (unit n) = 2 ^ 53 then .finite false (2 ^ 52) (n.log2 - 51)
  else .finite false (roundDiv n (unit n)) (n.log2 - 52)

section Whole
variable {n : Nat}

theorem unit_pos (n : Nat) : 0 < unit n := Nat.two_pow_pos _

theorem unit_of_lt (h : n < 2 ^ 53) : unit n = 1 := by
  by_cases hn : n = 0
  · subst hn
    decide
  · have := (Nat.log2_lt hn).mpr h
    rw [unit, show n.log2 - 52 = 0 by omega, Nat.pow_zero]

/-- A number of at most fifty-three bits is left alone. -/
theorem toNearest_of_lt (h : n < 2 ^ 53) : toNearest n = n := by
  rw [toNearest, unit_of_lt h, roundDiv_one, Nat.mul_one]

/-- The quotient by the unit has exactly fifty-three bits. -/
theorem div_unit_bounds (hn : n ≠ 0) (hl : 52 ≤ n.log2) :
    2 ^ 52 ≤ n / unit n ∧ n / unit n < 2 ^ 53 := by
  have hk : n.log2 - 52 ≤ n.log2 := by omega
  have hle := two_pow_le_div hn hk
  have hlt := div_lt_two_pow (n := n) hk
  rw [show n.log2 - (n.log2 - 52) = 52 by omega] at hle hlt
  exact ⟨hle, hlt⟩

/-- A number of fewer bits can be shifted until it has fifty-three. -/
theorem shifted_bounds (hn : n ≠ 0) (hl : n.log2 < 52) :
    2 ^ 52 ≤ n * 2 ^ (52 - n.log2) ∧ n * 2 ^ (52 - n.log2) < 2 ^ 53 := by
  have hle : 2 ^ n.log2 * 2 ^ (52 - n.log2) ≤ n * 2 ^ (52 - n.log2) :=
    Nat.mul_le_mul_right _ (Nat.log2_self_le hn)
  have hlt : n * 2 ^ (52 - n.log2) < 2 ^ (n.log2 + 1) * 2 ^ (52 - n.log2) :=
    Nat.mul_lt_mul_of_pos_right Nat.lt_log2_self (Nat.two_pow_pos _)
  rw [← Nat.pow_add, show n.log2 + (52 - n.log2) = 52 by omega] at hle
  rw [← Nat.pow_add, show n.log2 + 1 + (52 - n.log2) = 53 by omega] at hlt
  exact ⟨hle, hlt⟩

theorem toNearest_le (hn : n ≠ 0) : toNearest n ≤ 2 ^ (n.log2 + 1) := by
  by_cases hl : 52 ≤ n.log2
  · have hq := (div_unit_bounds hn hl).2
    calc toNearest n ≤ 2 ^ 53 * unit n :=
          Nat.mul_le_mul_right _ (le_trans (roundDiv_le _ _) hq)
      _ = 2 ^ (n.log2 + 1) := by
          rw [unit, ← Nat.pow_add, show 53 + (n.log2 - 52) = n.log2 + 1 by omega]
  · rw [toNearest_of_lt (lt_two_pow_of_log2_lt (by omega))]
    exact Nat.lt_log2_self.le

/-- Rounding a number below half of the range stays in range. -/
theorem toNearest_lt (h : n < 2 ^ 1023) : toNearest n < 2 ^ 1024 := by
  by_cases hn : n = 0
  · rw [hn, toNearest_of_lt (by decide)]
    exact pow_pos two_pos 1024
  · have hlog := (Nat.log2_lt hn).mpr h
    exact lt_of_le_of_lt (toNearest_le hn) (pow_lt_pow_right₀ Nat.one_lt_two (by omega))

/-- The magnitude of the rounded value bounds the exponent. -/
theorem exponent_lt {j : Nat} (h : toNearest n < 2 ^ 1024) (hj : 2 ^ j ≤ roundDiv n (unit n)) :
    j + (n.log2 - 52) < 1024 := by
  rw [← pow_lt_pow_iff_right₀ Nat.one_lt_two, Nat.pow_add]
  exact lt_of_le_of_lt (Nat.mul_le_mul_right _ hj) h

end Whole

/-! ### One rounding of a fraction -/

section Ratio
variable {n k a b num den : Nat}

theorem scaleDown_of_le (h : b ≤ a) :
    scaleDown num den ((a : Int) - b) = (num, den * 2 ^ (a - b)) := by
  obtain ⟨d, rfl⟩ := Nat.exists_eq_add_of_le h
  rw [show ((b + d : Nat) : Int) - b = Int.ofNat d by simp, Nat.add_sub_cancel_left]
  rfl

theorem scaleDown_of_lt (h : a < b) :
    scaleDown num den ((a : Int) - b) = (num * 2 ^ (b - a), den) := by
  obtain ⟨d, rfl⟩ := Nat.exists_eq_add_of_lt h
  rw [show (a : Int) - ((a + d + 1 : Nat) : Int) = Int.negSucc d by omega,
    show a + d + 1 - a = d + 1 by omega]
  rfl

/-- The quotient that the choice of exponent looks at has fifty-four bits. -/
theorem le_scaled_div (hn : n ≠ 0) (k : Nat) :
    let (p, q) := scaleDown (n * 2 ^ k) (2 ^ k) ((n.log2 : Int) - (53 : Nat))
    2 ^ 53 ≤ p / q := by
  have hself := Nat.log2_self_le hn
  have hk := Nat.two_pow_pos k
  by_cases hl : 53 ≤ n.log2
  · rw [scaleDown_of_le hl]
    show 2 ^ 53 ≤ n * 2 ^ k / (2 ^ k * 2 ^ (n.log2 - 53))
    rw [Nat.mul_comm n, Nat.mul_div_mul_left _ _ hk]
    have h := two_pow_le_div hn (show n.log2 - 53 ≤ n.log2 by omega)
    rwa [show n.log2 - (n.log2 - 53) = 53 by omega] at h
  · rw [scaleDown_of_lt (by omega)]
    show 2 ^ 53 ≤ n * 2 ^ k * 2 ^ (53 - n.log2) / 2 ^ k
    rw [Nat.mul_right_comm, Nat.mul_div_cancel _ hk]
    calc 2 ^ 53 = 2 ^ n.log2 * 2 ^ (53 - n.log2) := by
          rw [← Nat.pow_add, show n.log2 + (53 - n.log2) = 53 by omega]
      _ ≤ n * 2 ^ (53 - n.log2) := Nat.mul_le_mul_right _ hself

/-- **A fraction that is a whole number is rounded to its fifty-three leading bits.** -/
theorem ofRatio_whole (k : Nat) (h : toNearest n < 2 ^ 1024) :
    ofRatio false (n * 2 ^ k) (2 ^ k) = whole n := by
  by_cases hn : n = 0
  · subst hn
    simp [ofRatio, whole]
  have hk := Nat.two_pow_pos k
  have hlog : ((n * 2 ^ k).log2 : Int) - ((2 ^ k).log2 : Int) = n.log2 := by
    rw [log2_mul_two_pow hn, Nat.log2_two_pow]
    omega
  have hlow : max minExponent ((n.log2 : Int) - 53) = (n.log2 : Int) - (53 : Nat) := by
    show max (-1074 : Int) _ = _
    omega
  have hquot := le_scaled_div hn k
  have hzero : (n * 2 ^ k == 0) = false := by simp [hn]
  simp only [ofRatio, hzero, hlog, hlow, Nat.pow_eq, if_pos hquot, Bool.false_eq_true, if_false,
    show (n.log2 : Int) - (53 : Nat) + 1 = (n.log2 : Int) - (52 : Nat) by omega]
  simp only [whole, if_neg hn]
  by_cases hl : n.log2 < 52
  · -- No bit is lost: the significand is `n`, shifted until it has fifty-three bits.
    have hlt := (shifted_bounds hn hl).2
    have hround : roundDiv (n * 2 ^ k * 2 ^ (52 - n.log2)) (2 ^ k) = n * 2 ^ (52 - n.log2) := by
      rw [Nat.mul_right_comm, roundDiv_mul_self hk]
    have hne : (n * 2 ^ (52 - n.log2) == 2 ^ 53) = false := by
      rw [beq_eq_false_iff_ne]
      omega
    have hmax : ¬ maxExponent < (n.log2 : Int) - (52 : Nat) := by
      show ¬ (971 : Int) < _
      omega
    simp only [scaleDown_of_lt hl, hround, hne, Bool.false_eq_true, if_false, if_neg hmax,
      if_pos hl]
    rfl
  · have hround : roundDiv (n * 2 ^ k) (2 ^ k * 2 ^ (n.log2 - 52)) = roundDiv n (unit n) := by
      rw [Nat.mul_comm (2 ^ k), roundDiv_mul_mul_right hk, unit]
    simp only [scaleDown_of_le (Nat.not_lt.mp hl), hround, if_neg hl, beq_iff_eq]
    by_cases hcarry : roundDiv n (unit n) = 2 ^ 53
    · have hmax : ¬ maxExponent < (n.log2 : Int) - (52 : Nat) + 1 := by
        have := exponent_lt h hcarry.ge
        show ¬ (971 : Int) < _
        omega
      simp only [if_pos hcarry, if_neg hmax]
      congr 1
      omega
    · have hmax : ¬ maxExponent < (n.log2 : Int) - (52 : Nat) := by
        have := exponent_lt h (le_trans (div_unit_bounds hn (by omega)).1 (div_le_roundDiv _ _))
        show ¬ (971 : Int) < _
        omega
      simp only [if_neg hcarry, if_neg hmax]
      rfl

end Ratio

/-! ### Operations on whole numbers -/

/-- The number `x` is the natural number `v`: as a fraction, `v` over one with both multiplied by
a power of two. -/
inductive Denotes : Number → Nat → Prop
  | finite {m v k : Nat} {e : Int} (h : ratio m e = (v * 2 ^ k, 2 ^ k)) :
      Denotes (.finite false m e) v

section Denotes
variable {x : Number} {n v m a b : Nat}

theorem ratio_of_le (h : b ≤ a) : ratio m ((a : Int) - b) = (m * 2 ^ (a - b), 1) := by
  obtain ⟨d, rfl⟩ := Nat.exists_eq_add_of_le h
  rw [show ((b + d : Nat) : Int) - b = Int.ofNat d by simp, Nat.add_sub_cancel_left]
  rfl

theorem ratio_of_lt (h : a < b) : ratio m ((a : Int) - b) = (m, 2 ^ (b - a)) := by
  obtain ⟨d, rfl⟩ := Nat.exists_eq_add_of_lt h
  rw [show (a : Int) - ((a + d + 1 : Nat) : Int) = Int.negSucc d by omega,
    show a + d + 1 - a = d + 1 by omega]
  rfl

theorem denotes_whole (n : Nat) : Denotes (whole n) (toNearest n) := by
  unfold whole
  by_cases hn : n = 0
  · subst hn
    have hzero : toNearest 0 = 0 := toNearest_of_lt (by decide)
    rw [if_pos rfl, hzero]
    apply Denotes.finite
    rw [Nat.zero_mul]
    exact ratio_of_lt (show 0 < 1074 by decide)
  rw [if_neg hn]
  by_cases hl : n.log2 < 52
  · rw [if_pos hl, toNearest_of_lt (lt_two_pow_of_log2_lt (by omega))]
    exact Denotes.finite (ratio_of_lt hl)
  · rw [if_neg hl, toNearest]
    split
    · next hcarry =>
      apply Denotes.finite (k := 0)
      rw [hcarry, unit, Nat.pow_zero, Nat.mul_one, ← Nat.pow_add,
        show 53 + (n.log2 - 52) = 52 + (n.log2 - 51) by omega, Nat.pow_add]
      exact ratio_of_le (show 51 ≤ n.log2 by omega)
    · apply Denotes.finite (k := 0)
      rw [unit, Nat.pow_zero, Nat.mul_one]
      exact ratio_of_le (Nat.not_lt.mp hl)

/-- The result of rounding is not rounded again. -/
theorem whole_toNearest (n : Nat) : whole (toNearest n) = whole n := by
  by_cases hl : n.log2 < 52
  · rw [toNearest_of_lt (lt_two_pow_of_log2_lt (by omega))]
  have hn : n ≠ 0 := ne_zero_of_log2_pos (by omega)
  have hle := le_trans (div_unit_bounds hn (by omega)).1 (div_le_roundDiv n (unit n))
  have hround := roundDiv_le n (unit n)
  have hquot := (div_unit_bounds hn (by omega)).2
  by_cases hcarry : roundDiv n (unit n) = 2 ^ 53
  · -- The carry leaves a power of two.
    have heq : toNearest n = 2 ^ (n.log2 + 1) := by
      rw [toNearest, hcarry, unit, ← Nat.pow_add,
        show 53 + (n.log2 - 52) = n.log2 + 1 by omega]
    have hself : roundDiv (2 ^ (n.log2 + 1)) (2 ^ (n.log2 - 51)) = 2 ^ 52 := by
      rw [show n.log2 + 1 = 52 + (n.log2 - 51) by omega, Nat.pow_add]
      exact roundDiv_mul_self (Nat.two_pow_pos _)
    have hunit : unit (2 ^ (n.log2 + 1)) = 2 ^ (n.log2 - 51) := by
      rw [unit, Nat.log2_two_pow, show n.log2 + 1 - 52 = n.log2 - 51 by omega]
    rw [heq, whole, whole, if_neg (Nat.two_pow_pos _).ne', if_neg hn, Nat.log2_two_pow,
      if_neg (by omega), if_neg hl, hunit, hself, if_neg (by decide), if_pos hcarry]
    congr 1
    omega
  · -- The leading bits are the rounded ones, and nothing follows them.
    have hne : roundDiv n (unit n) ≠ 0 := by omega
    have hlead : (roundDiv n (unit n)).log2 = 52 := by
      rw [Nat.log2_eq_iff hne]
      exact ⟨hle, by omega⟩
    have hlog : (toNearest n).log2 = n.log2 := by
      show (roundDiv n (unit n) * 2 ^ (n.log2 - 52)).log2 = n.log2
      rw [log2_mul_two_pow hne, hlead]
      omega
    have hunit : unit (toNearest n) = unit n := by rw [unit, hlog, unit]
    have hself : roundDiv (toNearest n) (unit n) = roundDiv n (unit n) :=
      roundDiv_mul_self (unit_pos n)
    have hpos : toNearest n ≠ 0 := Nat.mul_ne_zero hne (unit_pos n).ne'
    rw [whole, whole, if_neg hpos, if_neg hn, hlog, hunit, hself, if_neg hl, if_neg hl,
      if_neg hcarry]

theorem exists_whole (n : Nat) : ∃ m e, whole n = .finite false m e := by
  unfold whole
  split_ifs
  · exact ⟨_, _, rfl⟩
  · exact ⟨_, _, rfl⟩
  · exact ⟨_, _, rfl⟩
  · exact ⟨_, _, rfl⟩

/-- **A product of whole numbers is the exact product, rounded once.** -/
theorem Denotes.mulNat (hx : Denotes x v) (h : toNearest (v * n) < 2 ^ 1024) :
    x.mulNat n = whole (v * n) := by
  cases hx with
  | finite hratio =>
    simp only [Number.mulNat, hratio]
    rw [Nat.mul_right_comm]
    exact ofRatio_whole _ h

/-- **A sum of whole numbers is the exact sum, rounded once.** -/
theorem Denotes.addNat (hx : Denotes x v) (h : toNearest (v + n) < 2 ^ 1024) :
    x.addNat n = whole (v + n) := by
  cases hx with
  | finite hratio =>
    simp only [Number.addNat, hratio]
    rw [← Nat.add_mul]
    exact ofRatio_whole _ h

theorem value_finite (m : Nat) (e : Int) :
    (Number.finite false m e).value = (ratio m e).1 / (ratio m e).2 := by
  cases e with
  | ofNat k => simp [value, ratio]
  | negSucc k => simp [value, ratio, zpow_negSucc, div_eq_mul_inv]

theorem Denotes.value (hx : Denotes x v) : x.value = v := by
  cases hx with
  | finite hratio =>
    rw [value_finite, hratio]
    simp

end Denotes

/-! ### The nearest double -/

section Nearest
variable {n : Nat}

theorem isDouble_whole (h : toNearest n < 2 ^ 1024) : (whole n).IsDouble := by
  unfold whole
  by_cases hn : n = 0
  · rw [if_pos hn]
    exact IsDouble.finite (by decide) (by decide) (by decide) (Or.inr rfl)
  rw [if_neg hn]
  by_cases hl : n.log2 < 52
  · rw [if_pos hl]
    obtain ⟨hle, hlt⟩ := shifted_bounds hn hl
    refine IsDouble.finite hlt ?_ ?_ (Or.inl hle)
    · show (-1074 : Int) ≤ _
      omega
    · show _ ≤ (971 : Int)
      omega
  · have hle := le_trans (div_unit_bounds hn (by omega)).1 (div_le_roundDiv n (unit n))
    have hround := roundDiv_le n (unit n)
    have hquot := (div_unit_bounds hn (by omega)).2
    rw [if_neg hl]
    split
    · next hcarry =>
      have := exponent_lt h hcarry.ge
      refine IsDouble.finite (by decide) ?_ ?_ (Or.inl le_rfl)
      · show (-1074 : Int) ≤ _
        omega
      · show _ ≤ (971 : Int)
        omega
    · next hcarry =>
      have := exponent_lt h hle
      refine IsDouble.finite (by omega) ?_ ?_ (Or.inl hle)
      · show (-1074 : Int) ≤ _
        omega
      · show _ ≤ (971 : Int)
        omega

theorem significand_whole (hl : 52 ≤ n.log2) :
    (whole n).significand % 2 = roundDiv n (unit n) % 2 := by
  have hn : n ≠ 0 := ne_zero_of_log2_pos (by omega)
  rw [whole, if_neg hn, if_neg (by omega)]
  split
  · next hcarry =>
    rw [hcarry]
    show 2 ^ 52 % 2 = 2 ^ 53 % 2
    norm_num
  · rfl

/-- Next to a whole number of fifty-three bits or more the doubles are multiples of its unit. -/
theorem IsDouble.le_or_ge {y : Number} (hy : y.IsDouble) (hn : n ≠ 0) (hl : 52 ≤ n.log2) :
    y.value ≤ (n / unit n : Nat) * (unit n : ℚ) ∨
      (n / unit n : Nat) * (unit n : ℚ) + unit n ≤ y.value := by
  obtain ⟨hlead, -⟩ := div_unit_bounds hn hl
  generalize hq : n / unit n = q at hlead ⊢
  have hunit : (unit n : ℚ) = 2 ^ (n.log2 - 52) := by simp [unit]
  rw [hunit]
  generalize n.log2 - 52 = t
  cases hy with
  | @finite negative m e hm hmin hmax =>
  cases negative with
  | true =>
    -- A negative number lies below all of them.
    left
    have hneg : (Number.finite true m e).value ≤ 0 := by
      have : (0 : ℚ) ≤ m * 2 ^ e := by positivity
      simp only [value, if_true]
      linarith
    have hpos : (0 : ℚ) ≤ q * 2 ^ t := by positivity
    linarith
  | false =>
    have hvalue : (Number.finite false m e).value = m * (2 : ℚ) ^ e := by simp [value]
    rw [hvalue]
    rcases le_or_gt (t : Int) e with hte | hte
    · -- The exponent is large enough: the value is a multiple of the unit.
      obtain ⟨j, hj⟩ := Int.le.dest hte
      have hmul : (m : ℚ) * 2 ^ e = ((m * 2 ^ j : Nat) : ℚ) * 2 ^ t := by
        rw [← hj, zpow_add₀ two_ne_zero, zpow_natCast, zpow_natCast]
        push_cast
        ring
      rw [hmul]
      have ht : (0 : ℚ) < 2 ^ t := by positivity
      rcases Nat.lt_or_ge q (m * 2 ^ j) with hlt | hge
      · right
        have : ((q + 1 : Nat) : ℚ) ≤ (m * 2 ^ j : Nat) := by exact_mod_cast hlt
        push_cast at this ⊢
        nlinarith
      · left
        have : ((m * 2 ^ j : Nat) : ℚ) ≤ q := by exact_mod_cast hge
        exact mul_le_mul_of_nonneg_right this ht.le
    · -- The exponent is smaller: even the largest significand stays below.
      left
      have hpow : (2 : ℚ) ^ e * 2 ≤ 2 ^ t := by
        rw [← zpow_add_one₀ two_ne_zero, ← zpow_natCast]
        exact zpow_le_zpow_right₀ one_le_two hte
      have hmq : (m : ℚ) ≤ 2 * q := by
        have : m ≤ 2 * q := by omega
        exact_mod_cast this
      have hpos : (0 : ℚ) ≤ 2 ^ e := by positivity
      calc (m : ℚ) * 2 ^ e ≤ 2 * q * 2 ^ e := mul_le_mul_of_nonneg_right hmq hpos
        _ = q * (2 ^ e * 2) := by ring
        _ ≤ q * 2 ^ t := mul_le_mul_of_nonneg_left hpow (Nat.cast_nonneg q)

/-- How far a point outside a gap is from a point inside it. -/
theorem distance_of_gap {a r u y : ℚ} (hr : 0 ≤ r) (hru : r ≤ u) (hy : y ≤ a ∨ a + u ≤ y) :
    (r ≤ |y - (a + r)| ∧ (|y - (a + r)| = r → y = a)) ∨
      (u - r ≤ |y - (a + r)| ∧ (|y - (a + r)| = u - r → y = a + u)) := by
  rcases hy with hy | hy
  · left
    rw [abs_of_nonpos (by linarith)]
    exact ⟨by linarith, fun h => by linarith⟩
  · right
    rw [abs_of_nonneg (by linarith)]
    exact ⟨by linarith, fun h => by linarith⟩

/-- A double is the nearest one if no other is nearer, and an equally near one only if the double is
even. -/
theorem IsDouble.isNearest {x : Number} {v d : ℚ} (hx : x.IsDouble) (hd : |x.value - v| = d)
    (h : ∀ y : Number, y.IsDouble → d ≤ |y.value - v| ∧
      (|y.value - v| = d → y.value = x.value ∨ x.significand % 2 = 0)) : x.IsNearest v := by
  subst hd
  refine ⟨hx, fun y hy => (h y hy).1, ?_⟩
  intro y hy hne hsame
  exact ((h y hy).2 hsame).resolve_left hne

/-- **A natural number in range is rounded to the nearest double.** -/
theorem isNearest_whole (h : toNearest n < 2 ^ 1024) : (whole n).IsNearest n := by
  have hdouble := isDouble_whole h
  have hvalue := (denotes_whole n).value
  by_cases hsmall : n < 2 ^ 53
  · -- Nothing is rounded.
    have hself : (whole n).value = n := by rw [hvalue, toNearest_of_lt hsmall]
    apply hdouble.isNearest (d := 0)
    · rw [hself, sub_self, abs_zero]
    · intro y hy
      refine ⟨abs_nonneg _, fun hzero => Or.inl ?_⟩
      rw [hself]
      exact sub_eq_zero.mp (abs_eq_zero.mp hzero)
  have hn : n ≠ 0 := by omega
  have hl : 52 ≤ n.log2 := (Nat.le_log2 hn).mpr (by omega)
  have hsplit : (n : ℚ) = (n / unit n : Nat) * (unit n : ℚ) + (n % unit n : Nat) := by
    exact_mod_cast (Nat.div_add_mod' n (unit n)).symm
  have hr : (0 : ℚ) ≤ (n % unit n : Nat) := Nat.cast_nonneg _
  have hru : ((n % unit n : Nat) : ℚ) ≤ unit n := by
    exact_mod_cast (Nat.mod_lt n (unit_pos n)).le
  have hround : (whole n).value = roundDiv n (unit n) * (unit n : ℚ) := by
    rw [hvalue, toNearest]
    push_cast
    rfl
  have hgap := fun (y : Number) (hy : y.IsDouble) => distance_of_gap hr hru (hy.le_or_ge hn hl)
  rw [← hsplit] at hgap
  rcases roundDiv_cases n (unit n) with ⟨hlt, heq⟩ | ⟨hlt, heq⟩ | ⟨htie, heq⟩
  · -- Below the middle: rounded down.
    have hlt' : 2 * ((n % unit n : Nat) : ℚ) < unit n := by exact_mod_cast hlt
    have hdist : |(whole n).value - n| = (n % unit n : Nat) := by
      rw [hround, heq, hsplit, sub_add_cancel_left, abs_neg, abs_of_nonneg hr]
    apply hdouble.isNearest hdist
    intro y hy
    rcases hgap y hy with ⟨hge, hsame⟩ | ⟨hge, -⟩
    · exact ⟨hge, fun h => Or.inl (by rw [hround, heq, hsame h])⟩
    · exact ⟨by linarith, fun h => by linarith⟩
  · -- Above the middle: rounded up.
    have hlt' : (unit n : ℚ) < 2 * (n % unit n : Nat) := by exact_mod_cast hlt
    have hup : (whole n).value = (n / unit n : Nat) * (unit n : ℚ) + unit n := by
      rw [hround, heq]
      push_cast
      ring
    have hdist : |(whole n).value - n| = unit n - (n % unit n : Nat) := by
      rw [hup, hsplit, add_sub_add_left_eq_sub, abs_of_nonneg (by linarith)]
    apply hdouble.isNearest hdist
    intro y hy
    rcases hgap y hy with ⟨hge, -⟩ | ⟨hge, hsame⟩
    · exact ⟨by linarith, fun h => by linarith⟩
    · exact ⟨hge, fun h => Or.inl (by rw [hup, hsame h])⟩
  · -- In the middle: to the even quotient.
    have htie' : 2 * ((n % unit n : Nat) : ℚ) = unit n := by exact_mod_cast htie
    have hdist : |(whole n).value - n| = (n % unit n : Nat) := by
      rw [hround, heq, hsplit]
      rcases Nat.mod_two_eq_zero_or_one (n / unit n) with heven | hodd
      · rw [heven, Nat.add_zero, sub_add_cancel_left, abs_neg, abs_of_nonneg hr]
      · rw [hodd, Nat.cast_add, Nat.cast_one, add_one_mul, add_sub_add_left_eq_sub,
          abs_of_nonneg (by linarith)]
        linarith
    have heven : (whole n).significand % 2 = 0 := by
      rw [significand_whole hl, heq]
      omega
    apply hdouble.isNearest hdist
    intro y hy
    rcases hgap y hy with ⟨hge, -⟩ | ⟨hge, -⟩
    · exact ⟨hge, fun _ => Or.inr heven⟩
    · exact ⟨by linarith, fun _ => Or.inr heven⟩

end Nearest

end ImportSeam.Number
