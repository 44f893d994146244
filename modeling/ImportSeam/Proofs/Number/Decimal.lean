import ImportSeam.Number.Text
import ImportSeam.Proofs.Number.Rounding
import Mathlib.Tactic.FieldSimp

/-!
# Decimals that round to a double

A rational rounds to a double if it is at most half a step away from it.  Below a power of two the
steps are half as long, and the two ends count if the significand is even.  The printer looks for a
decimal in this interval with one digit, with two, and so on.  A grid of seventeen digits has steps
shorter than the interval is wide, so one is found.  What is found is rounded to the double, since
the exponent that rounding starts with is that of the double or, just below a power of two, the one
before it.

## Main definitions

* `Number.RoundsTo` — the rationals that round to a double.
* `Number.IsExponent` — the exponent that belongs to a value.

## Main results

* `Number.contains_iff` — the interval of a double holds the rationals that round to it.
* `Number.ofRatio_of_roundsTo` — a rational that rounds to a double is rounded to it.
* `Number.isDouble_ofRatio` — rounding gives a double or an infinity.
* `Number.roundsTo_shortest` — the shortest decimal rounds to the double.
* `Number.length_shortest_le` — no decimal with fewer digits does.
-/

namespace ImportSeam.Number

open Text

/-! ### The interval of a double -/

section Interval

variable {m n d num den : Nat} {e f : Int} {v : ℚ} {negative negative' : Bool}

/-- How far below a double the rationals start that round to it. -/
def lowerHalf (m : Nat) (e : Int) : ℚ := if m = 2 ^ 52 ∧ minExponent < e then 1 / 4 else 1 / 2

/-- The rational rounds to the double `m · 2 ^ e`: it is at most half a step away, and the ends
belong to the double if its significand is even. -/
structure RoundsTo (m : Nat) (e : Int) (v : ℚ) : Prop where
  low : (m - lowerHalf m e) * 2 ^ e ≤ v
  high : v ≤ (m + 1 / 2) * 2 ^ e
  low_lt : m % 2 = 1 → (m - lowerHalf m e) * 2 ^ e < v
  high_lt : m % 2 = 1 → v < (m + 1 / 2) * 2 ^ e

theorem lowerHalf_cases (m : Nat) (e : Int) :
    (m = 2 ^ 52 ∧ minExponent < e ∧ lowerHalf m e = 1 / 4) ∨
      (¬(m = 2 ^ 52 ∧ minExponent < e) ∧ lowerHalf m e = 1 / 2) := by
  unfold lowerHalf
  by_cases h : m = 2 ^ 52 ∧ minExponent < e
  · exact .inl ⟨h.1, h.2, if_pos h⟩
  · exact .inr ⟨h, if_neg h⟩

theorem lowerHalf_pos (m : Nat) (e : Int) : 0 < lowerHalf m e := by
  rcases lowerHalf_cases m e with ⟨-, -, h⟩ | ⟨-, h⟩ <;> (rw [h]; norm_num)

theorem lowerHalf_le (m : Nat) (e : Int) : lowerHalf m e ≤ 1 / 2 := by
  rcases lowerHalf_cases m e with ⟨-, -, h⟩ | ⟨-, h⟩
  · rw [h]
    norm_num
  · exact h.le

/-- What lies between two rationals that round to a double rounds to it. -/
theorem RoundsTo.between {u w : ℚ} (hu : RoundsTo m e u) (hw : RoundsTo m e w) (huv : u ≤ v)
    (hvw : v ≤ w) : RoundsTo m e v :=
  ⟨hu.low.trans huv, hvw.trans hw.high, fun h => (hu.low_lt h).trans_le huv,
    fun h => hvw.trans_lt (hw.high_lt h)⟩

theorem roundsTo_self (m : Nat) (e : Int) : RoundsTo m e (m * 2 ^ e) := by
  have he : (0 : ℚ) < 2 ^ e := by positivity
  have hhalf := mul_pos (lowerHalf_pos m e) he
  refine ⟨?_, ?_, fun _ => ?_, fun _ => ?_⟩
  all_goals linarith

theorem ratio_snd_pos (m : Nat) (e : Int) : 0 < (ratio m e).2 := by
  cases e with
  | ofNat k => exact Nat.one_pos
  | negSucc k => exact Nat.two_pow_pos _

theorem ratio_value (m : Nat) (e : Int) : ((ratio m e).1 : ℚ) / (ratio m e).2 = m * 2 ^ e := by
  rw [← value_finite]
  simp [value]

/-- The common denominator of an interval and the unit of its numerators. -/
theorem interval_unit (m : Nat) (e : Int) : ∃ unit : Nat, 0 < unit ∧
    (unit : ℚ) / (interval m e).den = 2 ^ e / 4 ∧ (interval m e).value = 4 * m * unit ∧
      (interval m e).high = (4 * m + 2) * unit ∧
      (interval m e).low = (4 * m - (if m = 2 ^ 52 ∧ minExponent < e then 1 else 2)) * unit ∧
      (interval m e).closed = (m % 2 == 0) := by
  have hunit : ((ratio 1 (e - 2)).1 : ℚ) / (ratio 1 (e - 2)).2 = 2 ^ e / 4 := by
    rw [ratio_value, zpow_sub₀ two_ne_zero]
    norm_num
  refine ⟨(ratio 1 (e - 2)).1, ?_, hunit, rfl, rfl, ?_, rfl⟩
  · refine Nat.pos_of_ne_zero fun hzero => ?_
    rw [hzero] at hunit
    have hpos : (0 : ℚ) < 2 ^ e / 4 := by positivity
    simp [← hunit] at hpos
  · simp only [interval, Bool.and_eq_true, beq_iff_eq, decide_eq_true_eq]
    rfl

theorem interval_den_pos (m : Nat) (e : Int) : 0 < (interval m e).den := ratio_snd_pos 1 (e - 2)

/-- The interval of a double holds the rationals that round to it. -/
theorem contains_iff (hm : 0 < m) (hden : 0 < den) :
    (interval m e).contains num den = true ↔ RoundsTo m e (num / den) := by
  obtain ⟨unit, hpos, hunit, -, hhigh, hlow, hclosed⟩ := interval_unit m e
  have hid : (0 : ℚ) < (interval m e).den := by exact_mod_cast interval_den_pos m e
  have hd : (0 : ℚ) < den := by exact_mod_cast hden
  have hunit' : (unit : ℚ) = 2 ^ e / 4 * (interval m e).den := by
    rw [← hunit, div_mul_cancel₀ _ hid.ne']
  have hhigh' : ((interval m e).high : ℚ) = (m + 1 / 2) * 2 ^ e * (interval m e).den := by
    rw [hhigh]
    push_cast
    rw [hunit']
    ring
  have hlow' : ((interval m e).low : ℚ) = (m - lowerHalf m e) * 2 ^ e * (interval m e).den := by
    rw [hlow, lowerHalf]
    split
    all_goals
      rw [Nat.cast_mul, Nat.cast_sub (by omega), hunit']
      push_cast
      ring
  -- both sides are multiplied by the two denominators
  have hle : ∀ a b : Nat, ∀ x : ℚ, (a : ℚ) = x * (interval m e).den →
      (a * den ≤ b * (interval m e).den ↔ x ≤ (b : ℚ) / den) := by
    intro a b x hx
    rw [le_div_iff₀ hd, ← mul_le_mul_iff_left₀ hid, ← Nat.cast_le (α := ℚ)]
    push_cast
    rw [hx, mul_right_comm]
  have hge : ∀ a b : Nat, ∀ x : ℚ, (a : ℚ) = x * (interval m e).den →
      (b * (interval m e).den ≤ a * den ↔ (b : ℚ) / den ≤ x) := by
    intro a b x hx
    rw [div_le_iff₀ hd, ← mul_le_mul_iff_left₀ hid, ← Nat.cast_le (α := ℚ)]
    push_cast
    rw [hx, mul_right_comm x]
  have hlo := hle _ num _ hlow'
  have hhi := hge _ num _ hhigh'
  have hlo' := hge _ num _ hlow'
  have hhi' := hle _ num _ hhigh'
  unfold Interval.contains
  rw [hclosed]
  by_cases heven : m % 2 = 0
  · simp only [heven, beq_self_eq_true, if_true, Bool.and_eq_true, decide_eq_true_eq, hlo, hhi]
    exact ⟨fun h => ⟨h.1, h.2, by omega, by omega⟩, fun h => ⟨h.1, h.2⟩⟩
  · have hodd : m % 2 = 1 := by omega
    rw [hodd]
    simp only [Nat.one_ne_zero, beq_iff_eq, if_false, Bool.and_eq_true, decide_eq_true_eq,
      ← not_le, hlo', hhi']
    rw [not_le, not_le]
    exact ⟨fun h => ⟨h.1.le, h.2.le, fun _ => h.1, fun _ => h.2⟩,
      fun h => ⟨h.low_lt hodd, h.high_lt hodd⟩⟩

end Interval

/-! ### The double nearest to a fraction -/

section Nearest

variable {m n d num den : Nat} {e f : Int} {v : ℚ} {negative negative' : Bool}

/-- A quotient at most half away from a number is rounded to it, and one that is half away if the
number is even. -/
theorem roundDiv_eq (hlow : 2 * m * d ≤ 2 * n + d) (hhigh : 2 * n ≤ 2 * m * d + d)
    (hodd : m % 2 = 1 → 2 * m * d < 2 * n + d ∧ 2 * n < 2 * m * d + d) (hd : 0 < d) :
    roundDiv n d = m := by
  have hn := Nat.div_add_mod n d
  have hr := Nat.mod_lt n hd
  have hround := roundDiv_cases n d
  generalize n / d = q at *
  generalize n % d = r at *
  have hcomm : d * q = q * d := Nat.mul_comm d q
  have hassoc : 2 * m * d = 2 * (m * d) := Nat.mul_assoc 2 m d
  -- the quotient is the number or the one below
  rcases Nat.lt_trichotomy m q with hlt | rfl | hlt
  · have hmul : (m + 1) * d ≤ q * d := Nat.mul_le_mul_right d hlt
    rw [Nat.add_mul] at hmul
    omega
  · omega
  · rcases Nat.eq_or_lt_of_le (Nat.succ_le_of_lt hlt) with heq | hlt'
    · have hmul : m * d = q * d + d := by rw [← heq, Nat.succ_mul]
      omega
    · have hmul : (q + 2) * d ≤ m * d := Nat.mul_le_mul_right d hlt'
      rw [Nat.add_mul] at hmul
      omega

/-- A quotient of at least `m` is rounded to at least `m`, and one of at most `m` to at most `m`. -/
theorem le_roundDiv (h : m * d ≤ n) (hd : 0 < d) : m ≤ roundDiv n d :=
  Nat.le_trans ((Nat.le_div_iff_mul_le hd).mpr h) (div_le_roundDiv n d)

theorem roundDiv_le_of_lt (h : n < m * d) : roundDiv n d ≤ m := by
  have hq : n / d < m := Nat.div_lt_of_lt_mul (Nat.mul_comm m d ▸ h)
  have := roundDiv_le n d
  omega

theorem scaleDown_value (num : Nat) (hden : 0 < den) (e : Int) :
    0 < (scaleDown num den e).2 ∧
      ((scaleDown num den e).1 : ℚ) / (scaleDown num den e).2 = num / den / 2 ^ e := by
  have hd : (den : ℚ) ≠ 0 := by exact_mod_cast hden.ne'
  cases e with
  | ofNat k =>
    refine ⟨Nat.mul_pos hden (Nat.two_pow_pos k), ?_⟩
    simp [scaleDown, div_div]
  | negSucc k =>
    refine ⟨hden, ?_⟩
    simp only [scaleDown, Nat.pow_eq, Nat.cast_mul, Nat.cast_pow, Nat.cast_ofNat, zpow_negSucc]
    field_simp

/-- The exponent with which a value has a significand of fifty-three bits, or the least one if the
value is too small. -/
structure IsExponent (v : ℚ) (e : Int) : Prop where
  min : minExponent ≤ e
  low : e = minExponent ∨ 2 ^ 52 * 2 ^ e ≤ v
  high : v < 2 ^ 53 * 2 ^ e

theorem IsExponent.le (he : IsExponent v e) (hf : IsExponent v f) : e ≤ f := by
  by_contra hlt
  have hlt : f + 1 ≤ e := by omega
  have hlow := he.low.resolve_left (by have := hf.min; omega)
  have hpow : (2 : ℚ) ^ (f + 1) ≤ 2 ^ e := zpow_le_zpow_right₀ one_le_two hlt
  rw [zpow_add_one₀ two_ne_zero] at hpow
  have := hf.high
  linarith

/-- The exponent is determined by the value. -/
theorem IsExponent.eq (he : IsExponent v e) (hf : IsExponent v f) : e = f :=
  le_antisymm (he.le hf) (hf.le he)

theorem two_zpow_log2 {n : Nat} (hn : n ≠ 0) :
    (2 : ℚ) ^ (n.log2 : Int) ≤ n ∧ (n : ℚ) < 2 ^ ((n.log2 : Int) + 1) := by
  constructor
  · rw [zpow_natCast]
    exact_mod_cast Nat.log2_self_le hn
  · rw [← Nat.cast_add_one, zpow_natCast]
    exact_mod_cast Nat.lt_log2_self (n := n)

/-- The quotient of two numbers lies near the quotient of their leading powers. -/
theorem log2_bounds (hnum : num ≠ 0) (hden : den ≠ 0) :
    (2 : ℚ) ^ ((num.log2 : Int) - den.log2 - 1) < num / den ∧
      (num : ℚ) / den < 2 ^ ((num.log2 : Int) - den.log2 + 1) := by
  obtain ⟨hn, hn'⟩ := two_zpow_log2 hnum
  obtain ⟨hd, hd'⟩ := two_zpow_log2 hden
  have hpos : (0 : ℚ) < den := by exact_mod_cast Nat.pos_of_ne_zero hden
  constructor
  · rw [lt_div_iff₀ hpos]
    calc (2 : ℚ) ^ ((num.log2 : Int) - den.log2 - 1) * den
        < 2 ^ ((num.log2 : Int) - den.log2 - 1) * 2 ^ ((den.log2 : Int) + 1) :=
          mul_lt_mul_of_pos_left hd' (by positivity)
      _ = 2 ^ (num.log2 : Int) := by
          rw [← zpow_add₀ two_ne_zero]
          congr 1
          omega
      _ ≤ num := hn
  · rw [div_lt_iff₀ hpos]
    calc (num : ℚ) < 2 ^ ((num.log2 : Int) + 1) := hn'
      _ = 2 ^ ((num.log2 : Int) - den.log2 + 1) * 2 ^ (den.log2 : Int) := by
          rw [← zpow_add₀ two_ne_zero]
          congr 1
          omega
      _ ≤ 2 ^ ((num.log2 : Int) - den.log2 + 1) * den :=
          mul_le_mul_of_nonneg_left hd (by positivity)

/-- The exponent that rounding starts with. -/
def firstExponent (num den : Nat) : Int :=
  let l : Int := (num.log2 : Int) - (den.log2 : Int)
  let low := max minExponent (l - 53)
  let (n, d) := scaleDown num den low
  if Nat.pow 2 53 ≤ n / d then low + 1 else low

/-- A rounded significand with its exponent.  One that was rounded up to `2 ^ 53` is carried into
the exponent. -/
def carried (negative : Bool) (m : Nat) (e : Int) : Number :=
  if m = 2 ^ 53 then if maxExponent < e + 1 then .infinite negative
    else .finite negative (2 ^ 52) (e + 1)
  else if maxExponent < e then .infinite negative else .finite negative m e

/-- The number of a significand and an exponent, an infinity if the exponent is too large. -/
def bounded (negative : Bool) (p : Nat × Int) : Number :=
  if maxExponent < p.2 then .infinite negative else .finite negative p.1 p.2

theorem ofRatio_eq (hnum : num ≠ 0) : ofRatio negative num den =
    carried negative (roundDiv (scaleDown num den (firstExponent num den)).1
      (scaleDown num den (firstExponent num den)).2) (firstExponent num den) := by
  unfold ofRatio carried
  rw [if_neg (by simpa using hnum)]
  change bounded negative (if (roundDiv (scaleDown num den (firstExponent num den)).1
      (scaleDown num den (firstExponent num den)).2 == Nat.pow 2 53) = true then
        (Nat.pow 2 52, firstExponent num den + 1)
      else (roundDiv (scaleDown num den (firstExponent num den)).1
        (scaleDown num den (firstExponent num den)).2, firstExponent num den)) = _
  simp only [beq_iff_eq, Nat.pow_eq]
  split <;> rfl

/-- Rounding starts with the exponent of the value. -/
theorem isExponent_first (hnum : num ≠ 0) (hden : den ≠ 0) :
    IsExponent (num / den) (firstExponent num den) := by
  obtain ⟨hlow, hhigh⟩ := log2_bounds hnum hden
  have hdef : firstExponent num den =
      if Nat.pow 2 53 ≤ (scaleDown num den (max minExponent
          ((num.log2 : Int) - den.log2 - 53))).1 / (scaleDown num den (max minExponent
          ((num.log2 : Int) - den.log2 - 53))).2
      then max minExponent ((num.log2 : Int) - den.log2 - 53) + 1
      else max minExponent ((num.log2 : Int) - den.log2 - 53) := rfl
  rw [hdef]
  generalize hl : (num.log2 : Int) - den.log2 = l at *
  obtain ⟨low, hmax⟩ : ∃ low, max minExponent (l - 53) = low := ⟨_, rfl⟩
  have hmin : minExponent ≤ low := hmax ▸ le_max_left _ _
  have hl53 : l - 53 ≤ low := hmax ▸ le_max_right _ _
  have hcase : low = minExponent ∨ low = l - 53 := by omega
  rw [hmax]
  obtain ⟨hpos, hvalue⟩ := scaleDown_value num (Nat.pos_of_ne_zero hden) low
  generalize scaleDown num den low = s at *
  have hs : (0 : ℚ) < s.2 := by exact_mod_cast hpos
  have hpow : (0 : ℚ) < 2 ^ low := by positivity
  have hle : Nat.pow 2 53 ≤ s.1 / s.2 ↔ (2 : ℚ) ^ 53 * 2 ^ low ≤ num / den := by
    rw [Nat.le_div_iff_mul_le hpos, ← le_div_iff₀ hpow, ← hvalue, le_div_iff₀ hs]
    norm_cast
  by_cases h : Nat.pow 2 53 ≤ s.1 / s.2
  · rw [if_pos h]
    have hge := hle.mp h
    refine ⟨by omega, .inr ?_, lt_of_lt_of_le hhigh ?_⟩
    · rw [zpow_add_one₀ two_ne_zero]
      linarith
    · rw [← zpow_natCast, ← zpow_add₀ two_ne_zero]
      exact zpow_le_zpow_right₀ one_le_two (by push_cast; omega)
  · rw [if_neg h]
    refine ⟨hmin, ?_, lt_of_not_ge fun hge => h (hle.mpr hge)⟩
    refine hcase.imp_right fun hlow' => le_trans (le_of_eq ?_) hlow.le
    rw [← zpow_natCast, ← zpow_add₀ two_ne_zero]
    congr 1
    push_cast
    omega

/-- **A rational that rounds to a double** is rounded to it. -/
theorem ofRatio_of_roundsTo (hm : m < 2 ^ 53) (hpos : 0 < m) (hmin : minExponent ≤ e)
    (hmax : e ≤ maxExponent) (hlead : 2 ^ 52 ≤ m ∨ e = minExponent) (hden : den ≠ 0)
    (h : RoundsTo m e (num / den)) : ofRatio negative num den = .finite negative m e := by
  have he : (0 : ℚ) < 2 ^ e := by positivity
  have hm' : (m : ℚ) + 1 ≤ 2 ^ 53 := by exact_mod_cast hm
  have hpos' : (1 : ℚ) ≤ m := by exact_mod_cast hpos
  have hhalf := lowerHalf_le m e
  have hhalf' := lowerHalf_pos m e
  have hnum : num ≠ 0 := by
    rintro rfl
    have hlow := h.low
    rw [Nat.cast_zero, zero_div] at hlow
    nlinarith
  have hfirst := isExponent_first hnum hden
  have hhigh : (num : ℚ) / den < 2 ^ 53 * 2 ^ e := lt_of_le_of_lt h.high (by nlinarith)
  rw [ofRatio_eq hnum]
  obtain ⟨hd, hvalue⟩ :=
    scaleDown_value num (Nat.pos_of_ne_zero hden) (firstExponent num den)
  generalize firstExponent num den = f at *
  generalize scaleDown num den f = s at *
  have hs : (0 : ℚ) < s.2 := by exact_mod_cast hd
  have hf : (0 : ℚ) < 2 ^ f := by positivity
  have hsv : (s.1 : ℚ) = num / den / 2 ^ f * s.2 := by rw [← hvalue, div_mul_cancel₀ _ hs.ne']
  generalize (num : ℚ) / den = v at *
  by_cases hbelow : e = minExponent ∨ 2 ^ 52 * 2 ^ e ≤ v
  · -- the significand is the one to round to
    obtain rfl : f = e := hfirst.eq ⟨hmin, hbelow, hhigh⟩
    have hround : roundDiv s.1 s.2 = m := by
      have hlow' : (m - lowerHalf m f) * s.2 ≤ s.1 := by
        rw [hsv]
        exact mul_le_mul_of_nonneg_right ((le_div_iff₀ hf).mpr h.low) hs.le
      have hhigh' : (s.1 : ℚ) ≤ (m + 1 / 2) * s.2 := by
        rw [hsv]
        exact mul_le_mul_of_nonneg_right ((div_le_iff₀ hf).mpr h.high) hs.le
      refine roundDiv_eq ?_ ?_ (fun hodd => ⟨?_, ?_⟩) hd
      · have : (2 * m * s.2 : ℚ) ≤ 2 * s.1 + s.2 := by nlinarith
        exact_mod_cast this
      · have : (2 * s.1 : ℚ) ≤ 2 * m * s.2 + s.2 := by linarith
        exact_mod_cast this
      · have hlt : (m - lowerHalf m f) * s.2 < s.1 := by
          rw [hsv]
          exact mul_lt_mul_of_pos_right ((lt_div_iff₀ hf).mpr (h.low_lt hodd)) hs
        have : (2 * m * s.2 : ℚ) < 2 * s.1 + s.2 := by nlinarith
        exact_mod_cast this
      · have hlt : (s.1 : ℚ) < (m + 1 / 2) * s.2 := by
          rw [hsv]
          exact mul_lt_mul_of_pos_right ((div_lt_iff₀ hf).mpr (h.high_lt hodd)) hs
        have : (2 * s.1 : ℚ) < 2 * m * s.2 + s.2 := by linarith
        exact_mod_cast this
    rw [hround, carried, if_neg hm.ne, if_neg hmax.not_gt]
  · -- just below a power of two the exponent is one less, and the significand is carried
    obtain ⟨hne, hlt⟩ := not_or.mp hbelow
    rw [not_le] at hlt
    have hm52 : m = 2 ^ 52 ∧ minExponent < e ∧ lowerHalf m e = 1 / 4 := by
      rcases lowerHalf_cases m e with hcase | ⟨hnot, heq⟩
      · exact hcase
      · refine absurd ⟨?_, lt_of_le_of_ne hmin (Ne.symm hne)⟩ hnot
        have hlow := h.low
        rw [heq] at hlow
        have hlt' : (m - 1 / 2 : ℚ) * 2 ^ e < 2 ^ 52 * 2 ^ e := lt_of_le_of_lt hlow hlt
        have hlt'' := lt_of_mul_lt_mul_right hlt' he.le
        have hmlt : (m : ℚ) < (2 ^ 52 + 1 : Nat) := by
          push_cast
          linarith
        have := Nat.cast_lt.mp hmlt
        have := hlead.resolve_right hne
        omega
    obtain ⟨rfl, hgt, hquarter⟩ := hm52
    have hlow := h.low
    rw [hquarter] at hlow
    push_cast at hlow
    have hpred : (2 : ℚ) ^ e = 2 ^ (e - 1) * 2 := by
      rw [← zpow_add_one₀ two_ne_zero, sub_add_cancel]
    have hpred' : (0 : ℚ) < 2 ^ (e - 1) := by positivity
    obtain rfl : f = e - 1 := by
      refine hfirst.eq ⟨by omega, .inr ?_, ?_⟩
      · rw [hpred] at hlow
        linarith
      · rw [hpred] at hlt
        linarith
    have hround : roundDiv s.1 s.2 = 2 ^ 53 := by
      have hlow' : ((2 : ℚ) ^ 53 - 1 / 2) * s.2 ≤ s.1 := by
        rw [hsv]
        refine mul_le_mul_of_nonneg_right ((le_div_iff₀ hf).mpr ?_) hs.le
        rw [hpred] at hlow
        linarith
      have hhigh' : (s.1 : ℚ) ≤ 2 ^ 53 * s.2 := by
        rw [hsv]
        refine mul_le_mul_of_nonneg_right ((div_le_iff₀ hf).mpr ?_) hs.le
        rw [hpred] at hlt
        linarith
      refine roundDiv_eq ?_ ?_ (fun hodd => absurd hodd (by decide)) hd
      · have : (2 * 2 ^ 53 * s.2 : ℚ) ≤ 2 * s.1 + s.2 := by linarith
        exact_mod_cast this
      · have : (2 * s.1 : ℚ) ≤ 2 * 2 ^ 53 * s.2 + s.2 := by linarith
        exact_mod_cast this
    rw [hround, carried, if_pos rfl, sub_add_cancel, if_neg hmax.not_gt]

/-- Rounding gives a double or an infinity. -/
theorem isDouble_ofRatio (hden : den ≠ 0) (h : ofRatio negative num den = .finite negative' m e) :
    negative' = negative ∧ (Number.finite negative' m e).IsDouble := by
  by_cases hnum : num = 0
  · subst hnum
    cases h
    exact ⟨rfl, .finite (by decide) (by decide) (by decide) (.inr rfl)⟩
  have hfirst := isExponent_first hnum hden
  rw [ofRatio_eq hnum] at h
  obtain ⟨hd, hvalue⟩ :=
    scaleDown_value num (Nat.pos_of_ne_zero hden) (firstExponent num den)
  generalize firstExponent num den = f at *
  generalize scaleDown num den f = s at *
  have hs : (0 : ℚ) < s.2 := by exact_mod_cast hd
  have hf : (0 : ℚ) < 2 ^ f := by positivity
  rw [← div_mul_cancel₀ ((num : ℚ) / den) hf.ne', ← hvalue] at hfirst
  have hlt : s.1 < 2 ^ 53 * s.2 := by
    have := lt_of_mul_lt_mul_right hfirst.high hf.le
    rw [div_lt_iff₀ hs] at this
    exact_mod_cast this
  have hle := roundDiv_le_of_lt hlt
  have hmin := hfirst.min
  have hlow : f = minExponent ∨ 2 ^ 52 ≤ roundDiv s.1 s.2 := by
    refine hfirst.low.imp_right fun hge => le_roundDiv ?_ hd
    have := le_of_mul_le_mul_right hge hf
    rw [le_div_iff₀ hs] at this
    exact_mod_cast this
  unfold carried at h
  by_cases hcarry : roundDiv s.1 s.2 = 2 ^ 53
  · rw [if_pos hcarry] at h
    split at h
    · cases h
    · cases h
      exact ⟨rfl, .finite (by decide) (by omega) (by omega) (.inl le_rfl)⟩
  · rw [if_neg hcarry] at h
    split at h
    · cases h
    · cases h
      have hlt53 : roundDiv s.1 s.2 < 2 ^ 53 := lt_of_le_of_ne hle hcarry
      exact ⟨rfl, .finite hlt53 hmin (by omega) hlow.symm⟩

end Nearest

/-! ### Decimals in the interval -/

section Decimals

variable {m q num den : Nat} {e k p : Int}

theorem scaleTen_value (num : Nat) (hden : 0 < den) (k : Int) :
    0 < (scaleTen num den k).2 ∧
      ((scaleTen num den k).1 : ℚ) / (scaleTen num den k).2 = num / den / 10 ^ k := by
  have hd : (den : ℚ) ≠ 0 := by exact_mod_cast hden.ne'
  cases k with
  | ofNat n =>
    refine ⟨Nat.mul_pos hden (Nat.pow_pos (by decide)), ?_⟩
    simp [scaleTen, div_div]
  | negSucc n =>
    refine ⟨hden, ?_⟩
    simp only [scaleTen, Nat.pow_eq, Nat.cast_mul, Nat.cast_pow, Nat.cast_ofNat, zpow_negSucc]
    field_simp

/-- The decimal with digits `q` lies in the interval. -/
def inside (m : Nat) (e k : Int) (q : Nat) : Bool :=
  (interval m e).contains (scaleTen q 1 (-k)).1 (scaleTen q 1 (-k)).2

theorem inside_iff (hm : 0 < m) : inside m e k q = true ↔ RoundsTo m e (q * 10 ^ k) := by
  obtain ⟨hpos, hvalue⟩ := scaleTen_value q Nat.one_pos (-k)
  rw [inside, contains_iff hm hpos, hvalue, Nat.cast_one, div_one, zpow_neg, div_inv_eq_mul]

/-- The neighbour below a value on a decimal grid. -/
def gridFloor (m : Nat) (e k : Int) : Nat :=
  (scaleTen (interval m e).value (interval m e).den k).1 /
    (scaleTen (interval m e).value (interval m e).den k).2

theorem interval_value (m : Nat) (e : Int) :
    ((interval m e).value : ℚ) / (interval m e).den = m * 2 ^ e := by
  obtain ⟨unit, -, hunit, hvalue, -⟩ := interval_unit m e
  rw [hvalue, Nat.cast_mul, mul_div_assoc, hunit]
  push_cast
  ring

theorem gridFloor_bounds (m : Nat) (e k : Int) :
    (gridFloor m e k : ℚ) * 10 ^ k ≤ m * 2 ^ e ∧
      (m : ℚ) * 2 ^ e < (gridFloor m e k + 1) * 10 ^ k := by
  obtain ⟨hd, hvalue⟩ := scaleTen_value (interval m e).value (interval_den_pos m e) k
  rw [interval_value] at hvalue
  unfold gridFloor
  generalize scaleTen (interval m e).value (interval m e).den k = s at *
  have hs : (0 : ℚ) < s.2 := by exact_mod_cast hd
  have hk : (0 : ℚ) < 10 ^ k := by positivity
  rw [← le_div_iff₀ hk, ← div_lt_iff₀ hk, ← hvalue, le_div_iff₀ hs, div_lt_iff₀ hs]
  constructor
  · exact_mod_cast Nat.div_mul_le_self s.1 s.2
  · exact_mod_cast Nat.lt_mul_of_div_lt (Nat.lt_succ_self (s.1 / s.2)) hd

/-- Which of two neighbours is taken, where both, one or none of them is in the interval. -/
def neighbour (near down up : Bool) (q : Nat) : Option Nat :=
  match down, up with
  | true, true => some (if near then q else q + 1)
  | true, false => some q
  | false, true => some (q + 1)
  | false, false => none

/-- Of the two neighbours on a grid one that lies in the interval is taken. -/
theorem onGrid_cases (m : Nat) (e k : Int) :
    (∃ q, (interval m e).onGrid k = some q ∧ inside m e k q = true ∧ q ≤ gridFloor m e k + 1) ∨
      (interval m e).onGrid k = none ∧ inside m e k (gridFloor m e k) = false ∧
        inside m e k (gridFloor m e k + 1) = false := by
  obtain ⟨near, hnear⟩ : ∃ near : Bool, (interval m e).onGrid k =
      neighbour near (inside m e k (gridFloor m e k)) (inside m e k (gridFloor m e k + 1))
        (gridFloor m e k) :=
    ⟨decide (2 * ((scaleTen (interval m e).value (interval m e).den k).1 %
      (scaleTen (interval m e).value (interval m e).den k).2) <
        (scaleTen (interval m e).value (interval m e).den k).2), by
      simp only [neighbour, decide_eq_true_eq]
      rfl⟩
  rw [hnear]
  cases hdown : inside m e k (gridFloor m e k) with
  | true =>
    refine .inl ?_
    cases hup : inside m e k (gridFloor m e k + 1) with
    | true =>
      cases near with
      | true => exact ⟨_, rfl, hdown, Nat.le_succ _⟩
      | false => exact ⟨_, rfl, hup, le_rfl⟩
    | false => exact ⟨_, rfl, hdown, Nat.le_succ _⟩
  | false =>
    cases hup : inside m e k (gridFloor m e k + 1) with
    | true => exact .inl ⟨_, rfl, hup, le_rfl⟩
    | false => exact .inr ⟨rfl, rfl, rfl⟩

/-- A grid that is fine enough has a neighbour of the value in the interval. -/
theorem onGrid_of_fine (hm : 0 < m) (hm' : m < 2 ^ 53)
    (hfine : (10 : ℚ) ^ k * 10 ^ 16 ≤ m * 2 ^ e) : ∃ q, (interval m e).onGrid k = some q := by
  obtain ⟨q, hq, -⟩ | ⟨-, hdown, hup⟩ := onGrid_cases m e k
  · exact ⟨q, hq⟩
  exfalso
  obtain ⟨hle, hlt⟩ := gridFloor_bounds m e k
  have he : (0 : ℚ) < 2 ^ e := by positivity
  have hstep : (10 : ℚ) ^ k < 2 ^ e := by
    have hm53 : (m : ℚ) < 2 ^ 53 := by exact_mod_cast hm'
    nlinarith
  rw [← Bool.not_eq_true, inside_iff hm] at hdown hup
  have hup' : ¬((gridFloor m e k + 1 : Nat) : ℚ) * 10 ^ k < (m + 1 / 2) * 2 ^ e := by
    intro h
    refine hup ⟨?_, h.le, fun _ => ?_, fun _ => h⟩
    all_goals
      push_cast
      have := mul_pos (lowerHalf_pos m e) he
      linarith
  have hdown' : ¬(m - lowerHalf m e) * 2 ^ e < gridFloor m e k * 10 ^ k := by
    intro h
    refine hdown ⟨h.le, ?_, fun _ => h, fun _ => ?_⟩
    all_goals linarith
  rw [not_lt] at hup' hdown'
  push_cast at hup'
  -- neither neighbour is near, so a step of the grid is wider than the interval
  rcases lowerHalf_cases m e with ⟨rfl, -, hhalf⟩ | ⟨-, hhalf⟩
  · rw [hhalf] at hdown'
    have hstep' : (10 : ℚ) ^ k * 2 < 2 ^ e := by
      push_cast at hfine
      linarith
    linarith
  · rw [hhalf] at hdown'
    linarith

theorem pow_length_toDigits {n : Nat} (hn : 0 < n) :
    (10 : ℚ) ^ ((Nat.toDigits 10 n).length - 1 : Int) ≤ n ∧
      (n : ℚ) < 10 ^ ((Nat.toDigits 10 n).length : Int) := by
  have hlen := Nat.length_toDigits_pos (b := 10) (n := n)
  have hle := fun k hk => Nat.length_toDigits_le_iff (b := 10) (n := n) (k := k) (by decide) hk
  generalize (Nat.toDigits 10 n).length = l at *
  constructor
  · rcases Nat.eq_or_lt_of_le hlen with rfl | hlt
    · simpa using Nat.one_le_iff_ne_zero.mpr hn.ne'
    · have hnot := mt (hle (l - 1) (by omega)).mpr (by omega)
      rw [show (l - 1 : Int) = ((l - 1 : Nat) : Int) by omega, zpow_natCast]
      exact_mod_cast not_lt.mp hnot
  · rw [zpow_natCast]
    exact_mod_cast (hle l hlen).mp le_rfl

/-- The magnitude of a fraction counts its digits before the point. -/
theorem magnitude_bounds (hnum : 0 < num) (hden : 0 < den) :
    (10 : ℚ) ^ (magnitude num den - 1) ≤ num / den ∧ (num : ℚ) / den < 10 ^ magnitude num den := by
  obtain ⟨hn, hn'⟩ := pow_length_toDigits hnum
  obtain ⟨hd, hd'⟩ := pow_length_toDigits hden
  have hden' : (0 : ℚ) < den := by exact_mod_cast hden
  have hdef : magnitude num den =
      if (scaleTen num den ((Nat.toDigits 10 num).length - (Nat.toDigits 10 den).length)).2 ≤
        (scaleTen num den ((Nat.toDigits 10 num).length - (Nat.toDigits 10 den).length)).1
      then ((Nat.toDigits 10 num).length : Int) - (Nat.toDigits 10 den).length + 1
      else (Nat.toDigits 10 num).length - (Nat.toDigits 10 den).length := rfl
  rw [hdef]
  generalize ((Nat.toDigits 10 num).length : Int) = a at *
  generalize ((Nat.toDigits 10 den).length : Int) = b at *
  obtain ⟨hpos, hvalue⟩ := scaleTen_value num hden (a - b)
  generalize scaleTen num den (a - b) = s at *
  have hs : (0 : ℚ) < s.2 := by exact_mod_cast hpos
  split
  · next hge =>
    constructor
    · rw [add_sub_cancel_right, ← one_le_div (by positivity), ← hvalue, one_le_div hs]
      exact_mod_cast hge
    · rw [div_lt_iff₀ hden']
      calc (num : ℚ) < 10 ^ a := hn'
        _ = 10 ^ (a - b + 1) * 10 ^ (b - 1) := by
            rw [← zpow_add₀ (by norm_num)]
            congr 1
            omega
        _ ≤ 10 ^ (a - b + 1) * den := mul_le_mul_of_nonneg_left hd (by positivity)
  · next hlt =>
    constructor
    · rw [le_div_iff₀ hden']
      calc (10 : ℚ) ^ (a - b - 1) * den ≤ 10 ^ (a - b - 1) * 10 ^ b :=
            mul_le_mul_of_nonneg_left hd'.le (by positivity)
        _ = 10 ^ (a - 1) := by
            rw [← zpow_add₀ (by norm_num)]
            congr 1
            omega
        _ ≤ num := hn
    · rw [← div_lt_one (by positivity), ← hvalue, div_lt_one hs]
      exact_mod_cast not_le.mp hlt

/-- The magnitude of a double. -/
theorem magnitude_interval (hm : 0 < m) (e : Int) :
    (10 : ℚ) ^ (magnitude (interval m e).value (interval m e).den - 1) ≤ m * 2 ^ e ∧
      (m : ℚ) * 2 ^ e < 10 ^ magnitude (interval m e).value (interval m e).den := by
  obtain ⟨unit, hpos, -, hnum, -⟩ := interval_unit m e
  rw [← interval_value]
  exact magnitude_bounds (hnum ▸ Nat.mul_pos (by omega) hpos) (interval_den_pos m e)

/-- A grid whose step is small enough to split the value into seventeen digits. -/
theorem onGrid_seventeen (hm : 0 < m) (hm' : m < 2 ^ 53) (hp : (10 : ℚ) ^ (p - 1) ≤ m * 2 ^ e) :
    ∃ q, (interval m e).onGrid (p - 17) = some q := by
  refine onGrid_of_fine hm hm' ?_
  rw [← zpow_natCast (10 : ℚ) 16, ← zpow_add₀ (by norm_num)]
  exact le_of_eq_of_le (by congr 1; push_cast; omega) hp

/-- Seventeen digits are enough. -/
theorem shortestFrom_inside (hm : 0 < m) (hm' : m < 2 ^ 53) (hp : (10 : ℚ) ^ (p - 1) ≤ m * 2 ^ e) :
    ∀ tries digits, 18 ≤ digits + tries → digits ≤ 17 →
      RoundsTo m e ((shortestFrom (interval m e) p digits tries).digits *
        10 ^ (shortestFrom (interval m e) p digits tries).exponent)
  | 0, digits, htries, hdigits => by omega
  | tries + 1, digits, htries, hdigits => by
    rw [shortestFrom]
    cases hgrid : (interval m e).onGrid (p - digits) with
    | some q =>
      obtain ⟨q', hq', hin, -⟩ := (onGrid_cases m e (p - digits)).resolve_right fun h => by
        rw [hgrid] at h
        exact nomatch h.1
      obtain rfl : q = q' := Option.some.inj (hgrid.symm.trans hq')
      rw [inside_iff hm] at hin
      show RoundsTo m e ((if (q % 10 == 0) = true then (⟨q / 10, p - digits + 1⟩ : Decimal)
        else ⟨q, p - digits⟩).digits * 10 ^ (if (q % 10 == 0) = true then
          (⟨q / 10, p - digits + 1⟩ : Decimal) else ⟨q, p - digits⟩).exponent)
      split
      · next hzero =>
        rw [beq_iff_eq] at hzero
        have hq : (q : ℚ) = (q / 10 : Nat) * 10 := by
          exact_mod_cast (Nat.div_mul_cancel (Nat.dvd_of_mod_eq_zero hzero)).symm
        rw [hq] at hin
        rw [zpow_add_one₀ (by norm_num), mul_comm _ (10 : ℚ), ← mul_assoc]
        exact hin
      · exact hin
    | none =>
      refine shortestFrom_inside hm hm' hp tries (digits + 1) (by omega) ?_
      by_contra hlast
      obtain rfl : digits = 17 := by omega
      obtain ⟨q, hq⟩ := onGrid_seventeen hm hm' hp
      rw [Nat.cast_ofNat] at hgrid
      exact nomatch hgrid.symm.trans hq

/-- **The shortest decimal rounds to the double.** -/
theorem roundsTo_shortest (hm : 0 < m) (hm' : m < 2 ^ 53) :
    RoundsTo m e ((shortest m e).digits * 10 ^ (shortest m e).exponent) :=
  shortestFrom_inside hm hm' (magnitude_interval hm e).1 18 1 (by decide) (by decide)

/-- Where no neighbour is taken, nothing else on the grid rounds to the double. -/
theorem onGrid_of_roundsTo (hm : 0 < m) (h : RoundsTo m e (q * 10 ^ k)) :
    ∃ q', (interval m e).onGrid k = some q' := by
  obtain ⟨q', hq', -⟩ | ⟨-, hdown, hup⟩ := onGrid_cases m e k
  · exact ⟨q', hq'⟩
  rw [← Bool.not_eq_true, inside_iff hm] at hdown hup
  obtain ⟨hle, hlt⟩ := gridFloor_bounds m e k
  have hk : (0 : ℚ) < 10 ^ k := by positivity
  rcases Nat.lt_or_ge (gridFloor m e k) q with hq | hq
  · refine absurd ((roundsTo_self m e).between h ?_ ?_) hup
    · push_cast
      exact hlt.le
    · exact mul_le_mul_of_nonneg_right (by exact_mod_cast hq) hk.le
  · refine absurd (h.between (roundsTo_self m e) ?_ hle) hdown
    exact mul_le_mul_of_nonneg_right (by exact_mod_cast hq) hk.le

/-- Where a number of digits is enough, no more are written. -/
theorem length_shortestFrom (hv : (m : ℚ) * 2 ^ e < 10 ^ p) {n : Nat}
    (hgrid : ∃ q, (interval m e).onGrid (p - n) = some q) :
    ∀ tries digits, 0 < digits → digits ≤ n → n < digits + tries →
      (Nat.toDigits 10 (shortestFrom (interval m e) p digits tries).digits).length ≤ n
  | 0, digits, _, hn, htries => by omega
  | tries + 1, digits, hpos, hn, htries => by
    rw [shortestFrom]
    obtain ⟨q, hq, -, hle⟩ | ⟨hnone, -⟩ := onGrid_cases m e (p - digits)
    · rw [hq]
      refine le_trans ((Nat.length_toDigits_le_iff (by decide) hpos).mpr ?_) hn
      have hlt : gridFloor m e (p - digits) < 10 ^ digits := by
        have hpow : (10 : ℚ) ^ p = 10 ^ digits * 10 ^ (p - digits) := by
          rw [← zpow_natCast, ← zpow_add₀ (by norm_num)]
          congr 1
          omega
        have hmul := hpow ▸ (gridFloor_bounds m e (p - digits)).1.trans_lt hv
        exact_mod_cast lt_of_mul_lt_mul_right hmul (by positivity)
      have hten : 1 < 10 ^ digits := Nat.one_lt_pow (by omega) (by decide)
      show (if (q % 10 == 0) = true then (⟨q / 10, p - digits + 1⟩ : Decimal)
        else ⟨q, p - digits⟩).digits < 10 ^ digits
      split
      · show q / 10 < 10 ^ digits
        omega
      · next hne =>
        -- the next power of ten has a zero to spare
        refine lt_of_le_of_ne (show q ≤ 10 ^ digits by omega) ?_
        rintro rfl
        obtain ⟨d, rfl⟩ : ∃ d, digits = d + 1 := ⟨digits - 1, by omega⟩
        simp [Nat.pow_succ] at hne
    · rw [hnone]
      refine length_shortestFrom hv hgrid tries (digits + 1) (by omega) ?_ (by omega)
      refine Nat.lt_of_le_of_ne hn fun heq => ?_
      subst heq
      obtain ⟨q, hq⟩ := hgrid
      exact nomatch hnone.symm.trans hq

/-- **No decimal with fewer digits rounds to the double.** -/
theorem length_shortest_le (hm : 0 < m) (hm' : m < 2 ^ 53) (hq : 0 < q)
    (h : RoundsTo m e (q * 10 ^ k)) :
    (Nat.toDigits 10 (shortest m e).digits).length ≤ (Nat.toDigits 10 q).length := by
  obtain ⟨hlow, hhigh⟩ := magnitude_interval hm e
  have hfrom : ∀ {n : Nat}, 0 < n → n ≤ 18 → (∃ q, (interval m e).onGrid
        (magnitude (interval m e).value (interval m e).den - n) = some q) →
      (Nat.toDigits 10 (shortest m e).digits).length ≤ n := fun hpos hn hgrid =>
    length_shortestFrom hhigh hgrid 18 1 Nat.one_pos hpos (by omega)
  generalize magnitude (interval m e).value (interval m e).den = p at *
  obtain ⟨-, hdigits⟩ := pow_length_toDigits hq
  have hlen := Nat.length_toDigits_pos (b := 10) (n := q)
  generalize (Nat.toDigits 10 q).length = l at *
  rcases Nat.lt_or_ge 17 l with hmany | hfew
  · exact (hfrom (n := 17) (by decide) (by decide) (onGrid_seventeen hm hm' hlow)).trans hmany.le
  rcases le_or_gt p (k + l) with hp | hp
  · -- the decimal stands on the grid
    refine hfrom hlen (by omega) (onGrid_of_roundsTo (q := q * 10 ^ (k + l - p).toNat) hm ?_)
    have hpow : (10 : ℚ) ^ k = 10 ^ (k + l - p).toNat * 10 ^ (p - l) := by
      rw [← zpow_natCast, ← zpow_add₀ (by norm_num)]
      congr 1
      omega
    rw [hpow, ← mul_assoc] at h
    exact_mod_cast h
  · -- a power of ten lies between the decimal and the value
    refine (hfrom (n := 1) (by decide) (by decide) ?_).trans hlen
    refine onGrid_of_roundsTo (q := 1) hm (h.between (roundsTo_self m e) ?_ ?_)
    · calc (q : ℚ) * 10 ^ k ≤ 10 ^ (l : Int) * 10 ^ k :=
            mul_le_mul_of_nonneg_right hdigits.le (by positivity)
        _ = 10 ^ (l + k) := (zpow_add₀ (by norm_num) _ _).symm
        _ ≤ 10 ^ (p - 1) := zpow_le_zpow_right₀ (by norm_num) (by omega)
        _ = (1 : Nat) * 10 ^ (p - (1 : Nat)) := by simp
    · simpa using hlow

end Decimals

end ImportSeam.Number
