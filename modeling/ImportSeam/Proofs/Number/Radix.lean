import ImportSeam.Number.Text
import ImportSeam.Proofs.Number.Rounding
import ImportSeam.Proofs.Text.Escapes
import ImportSeam.Token.Scan

/-!
# Literals in a radix

The digits of a hexadecimal, octal or binary literal are gathered from the left, one multiplication
and one addition for each, and both round.  Multiplying by a power of two loses nothing, and as long
as the number fits in fifty-three bits neither does the addition.  The first digit with which it does
not fit is rounded away in part, and every later one is too small to be seen.

So a literal is rounded once, but where its first digits end and not where the number does.  That is
the same unless these digits stand for the middle between two doubles: what is a tie there lies
above the middle once a later digit is not zero.

## Main definitions

* `Number.gathered` — the number that gathering the digits of a number ends with.
* `Number.BreaksTie` — the later digits of a number break a tie of the first ones.
* `Number.IsRadixLiteral` — a literal in a radix, and the number that its digits stand for.

## Main results

* `Number.toNearest_gathered` — one more digit.
* `Number.gathered_eq`, `Number.BreaksTie.not_isNearest` — when this is the nearest double.
* `Number.ofLiteral_radix` — which number a literal denotes.
* `Number.longLiteral_misrounded` — a literal that does not denote the nearest double.
-/

namespace ImportSeam.Number

open Text

/-! ### Multiples of powers of two -/

section Multiples
variable {n q s d : Nat}

/-- A multiple of its own unit is not rounded. -/
theorem toNearest_of_dvd (h : unit n ∣ n) : toNearest n = n := by
  obtain ⟨c, hc⟩ := h
  have hself : roundDiv n (unit n) = c := by
    rw [← roundDiv_mul_self (q := c) (unit_pos n), Nat.mul_comm c, ← hc]
  rw [toNearest, hself, Nat.mul_comm, ← hc]

/-- Fifty-three bits before any number of zeros are not rounded. -/
theorem toNearest_mul_two_pow (h : q < 2 ^ 53) (s : Nat) : toNearest (q * 2 ^ s) = q * 2 ^ s := by
  by_cases hq : q = 0
  · subst hq
    rw [Nat.zero_mul]
    exact toNearest_of_lt (by decide)
  · have hlog := (Nat.log2_lt hq).mpr h
    apply toNearest_of_dvd
    rw [unit, log2_mul_two_pow hq]
    exact Nat.dvd_mul_left_of_dvd (pow_dvd_pow 2 (by omega)) q

/-- A digit far below the last bit that is kept is rounded away. -/
theorem toNearest_absorb (hle : 2 ^ 52 ≤ q) (hlt : q < 2 ^ 53) (hd : 2 * d < 2 ^ s) :
    toNearest (q * 2 ^ s + d) = q * 2 ^ s := by
  have hpos := Nat.two_pow_pos s
  have hlog : (q * 2 ^ s + d).log2 = 52 + s := by
    rw [Nat.log2_eq_iff (by positivity)]
    constructor
    · rw [Nat.pow_add]
      have := Nat.mul_le_mul_right (2 ^ s) hle
      omega
    · rw [show 52 + s + 1 = 53 + s by omega, Nat.pow_add]
      have := Nat.mul_le_mul_right (2 ^ s) (Nat.succ_le_of_lt hlt)
      rw [Nat.succ_mul] at this
      omega
  have hunit : unit (q * 2 ^ s + d) = 2 ^ s := by
    rw [unit, hlog, Nat.add_sub_cancel_left]
  have hquot : (q * 2 ^ s + d) / 2 ^ s = q := by
    rw [Nat.mul_comm, Nat.mul_add_div hpos, Nat.div_eq_of_lt (by omega), Nat.add_zero]
  have hrest : (q * 2 ^ s + d) % 2 ^ s = d := by
    rw [Nat.mul_add_mod', Nat.mod_eq_of_lt (by omega)]
  rw [toNearest, hunit]
  rcases roundDiv_cases (q * 2 ^ s + d) (2 ^ s) with ⟨-, h⟩ | ⟨h, -⟩ | ⟨h, -⟩
  · rw [h, hquot]
  · omega
  · omega

/-- A number of more than fifty-three bits is rounded to as many, and zeros. -/
theorem toNearest_eq_mul_two_pow (h : 53 ≤ n.log2) :
    ∃ q s, 2 ^ 52 ≤ q ∧ q < 2 ^ 53 ∧ 0 < s ∧ toNearest n = q * 2 ^ s := by
  have hn : n ≠ 0 := ne_zero_of_log2_pos (by omega)
  obtain ⟨hle, hlt⟩ := div_unit_bounds hn (by omega)
  have hround := roundDiv_le n (unit n)
  have hquot := div_le_roundDiv n (unit n)
  by_cases hcarry : roundDiv n (unit n) = 2 ^ 53
  · refine ⟨2 ^ 52, n.log2 - 51, le_rfl, by decide, by omega, ?_⟩
    rw [toNearest, hcarry, unit, ← Nat.pow_add, ← Nat.pow_add]
    congr 1
    omega
  · exact ⟨roundDiv n (unit n), n.log2 - 52, by omega, by omega, by omega, rfl⟩

end Multiples

/-! ### Gathering digits -/

/-- How many bits of a number the digits after the first ones stand for, those that are read when
the number has more than fifty-three bits already. -/
def laterBits (b n : Nat) : Nat := b * ((n.log2 - 53) / b)

/-- The number that the first digits stand for, up to and including the one with which it takes more
than fifty-three bits. -/
def firstDigits (b n : Nat) : Nat := n / 2 ^ laterBits b n

/-- The number that gathering digits of `b` bits ends with: the first digits are rounded, the later
ones count as zeros. -/
def gathered (b n : Nat) : Nat := toNearest (firstDigits b n) * 2 ^ laterBits b n

section Gathered
variable {b n d : Nat}

theorem laterBits_of_lt (h : n.log2 < 53 + b) : laterBits b n = 0 := by
  rcases Nat.eq_zero_or_pos b with hb | hb
  · rw [laterBits, hb, Nat.zero_mul]
  · rw [laterBits, Nat.div_eq_of_lt (by omega), Nat.mul_zero]

theorem gathered_of_lt (h : n.log2 < 53 + b) : gathered b n = toNearest n := by
  rw [gathered, firstDigits, laterBits_of_lt h, Nat.pow_zero, Nat.div_one, Nat.mul_one]

theorem gathered_zero (b : Nat) : gathered b 0 = 0 := by
  rw [gathered_of_lt (by simp), toNearest_of_lt (by decide)]

theorem laterBits_le (h : 53 ≤ n.log2) : laterBits b n + 53 ≤ n.log2 := by
  have := Nat.mul_div_le (n.log2 - 53) b
  rw [laterBits]
  omega

/-- The first digits keep more than fifty-three bits. -/
theorem log2_firstDigits (h : 53 ≤ n.log2) :
    (firstDigits b n).log2 = n.log2 - laterBits b n ∧ 53 ≤ (firstDigits b n).log2 := by
  have hn : n ≠ 0 := ne_zero_of_log2_pos (by omega)
  have hle := laterBits_le (b := b) h
  have hlog : (firstDigits b n).log2 = n.log2 - laterBits b n :=
    log2_div_two_pow hn (by omega)
  exact ⟨hlog, by omega⟩

theorem log2_digit (hn : n ≠ 0) (hd : d < 2 ^ b) : (n * 2 ^ b + d).log2 = n.log2 + b := by
  rw [Nat.log2_eq_iff (by positivity)]
  constructor
  · rw [Nat.pow_add]
    have := Nat.mul_le_mul_right (2 ^ b) (Nat.log2_self_le hn)
    omega
  · rw [show n.log2 + b + 1 = n.log2 + 1 + b by omega, Nat.pow_add]
    have := Nat.mul_le_mul_right (2 ^ b) (Nat.succ_le_of_lt (Nat.lt_log2_self (n := n)))
    rw [Nat.succ_mul] at this
    omega

/-- A further digit is a later one if the number took more than fifty-three bits before it. -/
theorem gathered_digit (hb : 0 < b) (hd : d < 2 ^ b) (h : 53 ≤ n.log2) :
    gathered b (n * 2 ^ b + d) = gathered b n * 2 ^ b := by
  have hn : n ≠ 0 := ne_zero_of_log2_pos (by omega)
  have hlater : laterBits b (n * 2 ^ b + d) = b + laterBits b n := by
    rw [laterBits, laterBits, log2_digit hn hd,
      show n.log2 + b - 53 = n.log2 - 53 + b by omega, Nat.add_div_right _ hb, Nat.mul_succ,
      Nat.add_comm]
  have hfirst : firstDigits b (n * 2 ^ b + d) = firstDigits b n := by
    rw [firstDigits, hlater, Nat.pow_add, ← Nat.div_div_eq_div_mul, Nat.mul_comm,
      Nat.mul_add_div (Nat.two_pow_pos b), Nat.div_eq_of_lt hd, Nat.add_zero, firstDigits]
  rw [gathered, hfirst, hlater, gathered, Nat.pow_add]
  ring

/-- What was gathered can be multiplied without rounding. -/
theorem toNearest_gathered_mul (b n s : Nat) :
    toNearest (gathered b n * 2 ^ s) = gathered b n * 2 ^ s := by
  by_cases h : 53 ≤ n.log2
  · obtain ⟨q, t, -, hq, -, heq⟩ := toNearest_eq_mul_two_pow (log2_firstDigits (b := b) h).2
    rw [gathered, heq, Nat.mul_assoc, Nat.mul_assoc, ← Nat.pow_add, ← Nat.pow_add]
    exact toNearest_mul_two_pow hq _
  · have hn : n < 2 ^ 53 := lt_two_pow_of_log2_lt (by omega)
    rw [gathered_of_lt (by omega), toNearest_of_lt hn]
    exact toNearest_mul_two_pow hn _

/-- What was gathered is not rounded again. -/
theorem toNearest_gathered_self (b n : Nat) : toNearest (gathered b n) = gathered b n := by
  have hmul := toNearest_gathered_mul b n 0
  rwa [Nat.pow_zero, Nat.mul_one] at hmul

/-- **One more digit** is gathered. -/
theorem toNearest_gathered (hb : 0 < b) (hd : d < 2 ^ b) (n : Nat) :
    toNearest (gathered b n * 2 ^ b + d) = gathered b (n * 2 ^ b + d) := by
  by_cases h : 53 ≤ n.log2
  · -- It is a later digit: too small to be seen.
    obtain ⟨q, t, hle, hq, ht, heq⟩ := toNearest_eq_mul_two_pow (log2_firstDigits (b := b) h).2
    have hsmall : 2 * d < 2 ^ (t + (laterBits b n + b)) := by
      have hpow : 2 ^ (b + 1) ≤ 2 ^ (t + (laterBits b n + b)) :=
        Nat.pow_le_pow_right (by decide) (by omega)
      rw [Nat.pow_succ] at hpow
      omega
    rw [gathered_digit hb hd h, gathered, heq, Nat.mul_assoc, Nat.mul_assoc, ← Nat.pow_add,
      ← Nat.pow_add]
    exact toNearest_absorb hle hq hsmall
  · -- It is one of the first: all digits before it are kept.
    have hn : n < 2 ^ 53 := lt_two_pow_of_log2_lt (by omega)
    have hlog : (n * 2 ^ b + d).log2 < 53 + b := by
      by_cases hzero : n * 2 ^ b + d = 0
      · rw [hzero]
        simp
      · rw [Nat.log2_lt hzero, Nat.pow_add]
        have := Nat.mul_le_mul_right (2 ^ b) (Nat.succ_le_of_lt hn)
        rw [Nat.succ_mul] at this
        omega
    rw [gathered_of_lt (show n.log2 < 53 + b by omega), gathered_of_lt hlog, toNearest_of_lt hn]

theorem gathered_le (hn : n ≠ 0) : gathered b n ≤ 2 ^ (n.log2 + 1) := by
  by_cases h : 53 ≤ n.log2
  · obtain ⟨hlog, -⟩ := log2_firstDigits (b := b) h
    have hle := laterBits_le (b := b) h
    have hfirst : firstDigits b n ≠ 0 := ne_zero_of_log2_pos (by omega)
    calc gathered b n ≤ 2 ^ ((firstDigits b n).log2 + 1) * 2 ^ laterBits b n :=
          Nat.mul_le_mul_right _ (toNearest_le hfirst)
      _ = 2 ^ (n.log2 + 1) := by
          rw [← Nat.pow_add, hlog]
          congr 1
          omega
  · rw [gathered_of_lt (by omega)]
    exact toNearest_le hn

end Gathered

/-! ### Broken ties -/

/-- The first digits of a number stand for the middle between two doubles of which the lower one is
even, and a later digit is not zero. -/
structure BreaksTie (b n : Nat) : Prop where
  tie : 2 * (firstDigits b n % unit (firstDigits b n)) = unit (firstDigits b n)
  even : firstDigits b n / unit (firstDigits b n) % 2 = 0
  later : n % 2 ^ laterBits b n ≠ 0

section BreaksTie
variable {b n : Nat}

/-- A number with later digits, and its first digits, by the unit of the number. -/
theorem unit_eq (h : 53 ≤ n.log2) : unit n = unit (firstDigits b n) * 2 ^ laterBits b n := by
  obtain ⟨hlog, hle⟩ := log2_firstDigits (b := b) h
  rw [unit, unit, ← Nat.pow_add]
  congr 1
  omega

theorem div_unit_eq (h : 53 ≤ n.log2) :
    n / unit n = firstDigits b n / unit (firstDigits b n) := by
  rw [unit_eq (b := b) h, Nat.mul_comm, ← Nat.div_div_eq_div_mul, firstDigits]

theorem mod_unit_eq (h : 53 ≤ n.log2) :
    n % unit n = n % 2 ^ laterBits b n +
      2 ^ laterBits b n * (firstDigits b n % unit (firstDigits b n)) := by
  rw [unit_eq (b := b) h, Nat.mul_comm, Nat.mod_mul, firstDigits]

theorem BreaksTie.log2_ge (h : BreaksTie b n) : 53 ≤ n.log2 := by
  by_contra hlt
  apply h.later
  rw [laterBits_of_lt (by omega), Nat.pow_zero, Nat.mod_one]

/-- Where a tie is broken, the number lies in the upper half between two doubles. -/
theorem BreaksTie.upper (h : BreaksTie b n) : unit n < 2 * (n % unit n) := by
  have hlog := h.log2_ge
  have htie := congrArg (2 ^ laterBits b n * ·) h.tie
  have hpos := Nat.pos_of_ne_zero h.later
  rw [mod_unit_eq (b := b) hlog, unit_eq (b := b) hlog]
  simp only [Nat.mul_left_comm _ 2] at htie
  rw [Nat.mul_comm (unit _)]
  omega

/-- Where a tie is broken, gathering ends with the lower double and rounding with the upper one. -/
theorem BreaksTie.gathered_eq (h : BreaksTie b n) : gathered b n = n / unit n * unit n := by
  have hlog := h.log2_ge
  rw [gathered, toNearest, div_unit_eq (b := b) hlog, unit_eq (b := b) hlog, Nat.mul_assoc]
  rcases roundDiv_cases (firstDigits b n) (unit (firstDigits b n)) with
    ⟨hlt, -⟩ | ⟨hlt, -⟩ | ⟨-, heq⟩
  · exact absurd h.tie hlt.ne
  · exact absurd h.tie hlt.ne'
  · rw [heq, h.even, Nat.add_zero]

theorem BreaksTie.toNearest_eq (h : BreaksTie b n) :
    toNearest n = n / unit n * unit n + unit n := by
  have hupper := h.upper
  rcases roundDiv_cases n (unit n) with ⟨hlt, -⟩ | ⟨-, heq⟩ | ⟨htie, -⟩
  · omega
  · rw [toNearest, heq, Nat.succ_mul]
  · omega

/-- The lower double is then not the nearest one. -/
theorem BreaksTie.not_isNearest {x : Number} (h : BreaksTie b n) (hrange : toNearest n < 2 ^ 1024)
    (hx : x.value = gathered b n) : ¬ x.IsNearest n := by
  intro hnear
  have hle := hnear.nearest (whole n) (isDouble_whole hrange)
  have hsplit : (n : ℚ) = (n / unit n * unit n : Nat) + (n % unit n : Nat) := by
    exact_mod_cast (Nat.div_add_mod' n (unit n)).symm
  have hupper : (unit n : ℚ) < 2 * (n % unit n : Nat) := by exact_mod_cast h.upper
  have hbelow : ((n % unit n : Nat) : ℚ) ≤ unit n := by
    exact_mod_cast (Nat.mod_lt n (unit_pos n)).le
  have hrest : (0 : ℚ) ≤ (n % unit n : Nat) := Nat.cast_nonneg _
  rw [hx, (denotes_whole n).value, h.toNearest_eq, h.gathered_eq, hsplit, Nat.cast_add,
    sub_add_cancel_left, abs_neg, abs_of_nonneg hrest, add_sub_add_left_eq_sub,
    abs_of_nonneg (by linarith)] at hle
  linarith

/-- **Otherwise gathering rounds to the nearest double.** -/
theorem gathered_eq (h : ¬ BreaksTie b n) : gathered b n = toNearest n := by
  by_cases hlog : n.log2 < 53
  · exact gathered_of_lt (by omega)
  have hlog : 53 ≤ n.log2 := by omega
  obtain ⟨-, hle⟩ := log2_firstDigits (b := b) hlog
  -- The unit of the first digits is even, so a part below the middle is so by at least one.
  obtain ⟨half, hhalf⟩ : ∃ half, unit (firstDigits b n) = 2 * half := by
    refine ⟨2 ^ ((firstDigits b n).log2 - 53), ?_⟩
    rw [unit, ← Nat.pow_succ',
      show (firstDigits b n).log2 - 52 = (firstDigits b n).log2 - 53 + 1 by omega]
  have hmod := mod_unit_eq (b := b) hlog
  have hunit : unit n = 2 * (2 ^ laterBits b n * half) := by
    rw [unit_eq (b := b) hlog, hhalf]
    ring
  have hlater := Nat.mod_lt n (Nat.two_pow_pos (laterBits b n))
  have hround : roundDiv (firstDigits b n) (unit (firstDigits b n)) = roundDiv n (unit n) := by
    have hcases := roundDiv_cases n (unit n)
    rw [div_unit_eq (b := b) hlog, hmod] at hcases
    rcases roundDiv_cases (firstDigits b n) (unit (firstDigits b n)) with
      ⟨hlt, heq⟩ | ⟨hgt, heq⟩ | ⟨htie, heq⟩
    · have hstep : firstDigits b n % unit (firstDigits b n) + 1 ≤ half := by omega
      have := Nat.mul_le_mul_left (2 ^ laterBits b n) hstep
      rw [Nat.mul_succ] at this
      omega
    · have hstep : half + 1 ≤ firstDigits b n % unit (firstDigits b n) := by omega
      have := Nat.mul_le_mul_left (2 ^ laterBits b n) hstep
      rw [Nat.mul_succ] at this
      omega
    · have hrest : firstDigits b n % unit (firstDigits b n) = half := by omega
      rw [hrest] at hcases
      by_cases hzero : n % 2 ^ laterBits b n = 0
      · omega
      · have hodd : firstDigits b n / unit (firstDigits b n) % 2 ≠ 0 :=
          fun heven => h ⟨htie, heven, hzero⟩
        omega
  rw [gathered, toNearest, toNearest, hround, unit_eq (b := b) hlog, Nat.mul_assoc]

end BreaksTie

/-! ### Digits of a literal -/

section Digits
variable {radix b d m n : Nat} {c : Char}

theorem toNat_toLower (c : Char) :
    c.toLower.toNat = if 0x41 ≤ c.toNat ∧ c.toNat ≤ 0x5A then c.toNat + 0x20 else c.toNat := by
  have hiff : (c.val ≥ 'A'.val ∧ c.val ≤ 'Z'.val) ↔ (0x41 ≤ c.toNat ∧ c.toNat ≤ 0x5A) := by
    rw [ge_iff_le, UInt32.le_iff_toNat_le, UInt32.le_iff_toNat_le]
    rfl
  delta Char.toLower
  by_cases h : 0x41 ≤ c.toNat ∧ c.toNat ≤ 0x5A
  · rw [dif_pos (hiff.mpr h), if_pos h]
    show (c.val + 32).toNat = c.val.toNat + 32
    have hval : c.val.toNat ≤ 0x5A := h.2
    rw [UInt32.toNat_add]
    exact Nat.mod_eq_of_lt (show c.val.toNat + 32 < 2 ^ 32 by omega)
  · rw [dif_neg (fun hval => h (hiff.mp hval)), if_neg h]

/-- A letter is the same digit in either case. -/
theorem digitValue?_toLower (radix : Nat) (c : Char) :
    digitValue? radix c.toLower = digitValue? radix c := by
  simp only [digitValue?, toNat_toLower]
  congr 1
  by_cases hupper : 0x41 ≤ c.toNat ∧ c.toNat ≤ 0x5A
  · simp only [if_pos hupper, Bool.and_eq_true, decide_eq_true_eq]
    split_ifs <;> first | rfl | omega
  · simp only [if_neg hupper]

theorem digitValue?_lt (h : digitValue? radix c = some d) : d < radix := by
  have := (Option.filter_eq_some_iff.mp h).2
  simpa using this

theorem le_of_foldlM_digits {ds : List Char}
    (h : ds.foldlM (fun v c => (digitValue? radix c).map (v * radix + ·)) m = some n)
    (hradix : 0 < radix) : m ≤ n := by
  induction ds generalizing m with
  | nil =>
    obtain rfl : m = n := by simpa using h
    exact le_rfl
  | cons c ds ih =>
    rw [List.foldlM_cons] at h
    cases hc : digitValue? radix c with
    | none =>
      rw [hc] at h
      cases h
    | some d =>
      rw [hc] at h
      exact le_trans (Nat.le_add_right_of_le (Nat.le_mul_of_pos_right m hradix)) (ih h)

/-- A number below `2 ^ 1023` is not gathered beyond the range. -/
theorem gathered_lt (h : n < 2 ^ 1023) : gathered b n < 2 ^ 1024 := by
  by_cases hn : n = 0
  · rw [hn, gathered_zero]
    exact pow_pos two_pos 1024
  · have hlog := (Nat.log2_lt hn).mpr h
    exact lt_of_le_of_lt (gathered_le hn) (pow_lt_pow_right₀ Nat.one_lt_two (by omega))

/-- **One digit** of the loop: a multiplication and an addition, each rounded. -/
theorem addNat_mulNat_gathered (hb : 0 < b) (hd : d < 2 ^ b) (h : n * 2 ^ b + d < 2 ^ 1023) :
    ((whole (gathered b n)).mulNat (2 ^ b)).addNat d = whole (gathered b (n * 2 ^ b + d)) := by
  have hself : Denotes (whole (gathered b n)) (gathered b n) := by
    have hden := denotes_whole (gathered b n)
    rwa [toNearest_gathered_self] at hden
  have hmul : Denotes (whole (gathered b n * 2 ^ b)) (gathered b n * 2 ^ b) := by
    have hden := denotes_whole (gathered b n * 2 ^ b)
    rwa [toNearest_gathered_mul] at hden
  have hrange : toNearest (gathered b n * 2 ^ b) < 2 ^ 1024 := by
    rw [← Nat.add_zero (gathered b n * 2 ^ b), toNearest_gathered hb (Nat.two_pow_pos b)]
    exact gathered_lt (by omega)
  have hrange' : toNearest (gathered b n * 2 ^ b + d) < 2 ^ 1024 := by
    rw [toNearest_gathered hb hd]
    exact gathered_lt h
  rw [hself.mulNat hrange, hmul.addNat hrange', ← whole_toNearest, toNearest_gathered hb hd]

/-- **The loop over the digits.** -/
theorem foldlM_gathered (hb : 0 < b) {ds : List Char}
    (h : ds.foldlM (fun v c => (digitValue? (2 ^ b) c).map (v * 2 ^ b + ·)) m = some n)
    (hn : n < 2 ^ 1023) :
    ds.foldlM (fun x c => (digitValue? (2 ^ b) c).map ((x.mulNat (2 ^ b)).addNat ·))
      (whole (gathered b m)) = some (whole (gathered b n)) := by
  induction ds generalizing m with
  | nil =>
    obtain rfl : m = n := by simpa using h
    rfl
  | cons c ds ih =>
    rw [List.foldlM_cons] at h ⊢
    cases hc : digitValue? (2 ^ b) c with
    | none =>
      rw [hc] at h
      cases h
    | some d =>
      rw [hc] at h
      have hle := le_of_foldlM_digits h (Nat.two_pow_pos b)
      have hstep := addNat_mulNat_gathered (n := m) hb (digitValue?_lt hc) (lt_of_le_of_lt hle hn)
      show ds.foldlM _ (((whole (gathered b m)).mulNat (2 ^ b)).addNat d) = _
      rw [hstep]
      exact ih h

/-- The digits of a number, in lower case, are read as the number that is gathered. -/
theorem ofDigits?_eq (hb : 0 < b) {ds : List Char} (hne : ds ≠ [])
    (h : digitsValue? (2 ^ b) ds = some n) (hn : n < 2 ^ 1023) :
    ofDigits? (2 ^ b) (ds.map Char.toLower) = some (whole (gathered b n)) := by
  have hstart : whole (gathered b 0) = zero false := by
    rw [gathered_zero]
    exact if_pos rfl
  rw [ofDigits?, if_neg (by simpa using hne), List.foldlM_map, ← hstart]
  simp only [digitValue?_toLower]
  exact foldlM_gathered hb h hn

end Digits

/-! ### Literals -/

/-- A literal in the radix `2 ^ b` whose digits stand for `n`, whatever separators there are: one
with a mark after the leading zero, or an octal of the old form. -/
inductive IsRadixLiteral (raw : String) : Nat → Nat → Prop
  | marked {mark : Char} {ds : List Char} {b n : Nat}
      (hraw : raw.toList.filter (· != '_') = '0' :: mark :: ds)
      (hmark : Scan.radixMark? mark = some (2 ^ b)) (hne : ds ≠ [])
      (hvalue : digitsValue? (2 ^ b) ds = some n) : IsRadixLiteral raw b n
  | old {ds : List Char} {n : Nat} (hraw : raw.toList.filter (· != '_') = '0' :: ds) (hne : ds ≠ [])
      (hvalue : digitsValue? 8 ds = some n) : IsRadixLiteral raw 3 n

theorem ofLiteral_marked {raw : String} {radix : Nat} {mark : Char} {ds : List Char}
    (hraw : raw.toList.filter (· != '_') = '0' :: mark :: ds)
    (hmark : Scan.radixMark? mark = some radix) :
    ofLiteral? raw = ofDigits? radix (ds.map Char.toLower) := by
  rw [ofLiteral?, hraw]
  unfold Scan.radixMark? at hmark
  simp only [Bool.or_eq_true, beq_iff_eq] at hmark
  split_ifs at hmark with hx ho hb
  · obtain rfl := Option.some.inj hmark
    rcases hx with rfl | rfl <;> rfl
  · obtain rfl := Option.some.inj hmark
    rcases ho with rfl | rfl <;> rfl
  · obtain rfl := Option.some.inj hmark
    rcases hb with rfl | rfl <;> rfl

theorem one_lt_of_radixMark? {radix : Nat} {mark : Char} (h : Scan.radixMark? mark = some radix) :
    1 < radix := by
  unfold Scan.radixMark? at h
  split_ifs at h
  · obtain rfl := Option.some.inj h
    decide
  · obtain rfl := Option.some.inj h
    decide
  · obtain rfl := Option.some.inj h
    decide

theorem ofLiteral_old {raw : String} {n : Nat} {ds : List Char}
    (hraw : raw.toList.filter (· != '_') = '0' :: ds) (hne : ds ≠ [])
    (hvalue : digitsValue? 8 ds = some n) :
    ofLiteral? raw = ofDigits? 8 (ds.map Char.toLower) := by
  have hall : ∀ c ∈ ds.map Char.toLower, (digitValue? 8 c).isSome := by
    intro c hc
    obtain ⟨d, hd, rfl⟩ := List.mem_map.mp hc
    rw [digitValue?_toLower]
    apply (isSome_digitsValue?_from 8 0 ds).mp _ d hd
    exact Option.isSome_iff_exists.mpr ⟨n, hvalue⟩
  obtain ⟨d, ds, rfl⟩ := List.exists_cons_of_ne_nil hne
  rw [List.map_cons] at hall ⊢
  have hd := hall d.toLower List.mem_cons_self
  rw [ofLiteral?, hraw]
  simp only [List.map_cons, show '0'.toLower = '0' from rfl]
  generalize d.toLower = l, ds.map Char.toLower = ls at hd hall
  split
  · next heq =>
    cases heq
    exact absurd hd (by decide)
  · next heq =>
    cases heq
    exact absurd hd (by decide)
  · next heq =>
    cases heq
    exact absurd hd (by decide)
  · next heq =>
    cases heq
    rw [if_pos (List.all_eq_true.mpr hall)]
  · next hother => exact absurd rfl (hother l ls)

theorem IsRadixLiteral.ofLiteral {raw : String} {b n : Nat} (h : IsRadixLiteral raw b n)
    (hn : n < 2 ^ 1023) : ofLiteral? raw = some (whole (gathered b n)) := by
  cases h with
  | marked hraw hmark hne hvalue =>
    have hb : 0 < b := by
      apply Nat.pos_of_ne_zero
      rintro rfl
      exact absurd (one_lt_of_radixMark? hmark) (by decide)
    rw [ofLiteral_marked hraw hmark]
    exact ofDigits?_eq hb hne hvalue hn
  | old hraw hne hvalue =>
    rw [ofLiteral_old hraw hne hvalue]
    exact ofDigits?_eq (b := 3) (by decide) hne hvalue hn

/-- **Which number a literal in a radix denotes.**  If its digits stand for `n`, below `2 ^ 1023`,
it denotes a double, which is the one nearest to `n` if and only if no tie is broken; otherwise it
is the double below that.  A number of fifty-three significant bits is denoted exactly. -/
theorem ofLiteral_radix {raw : String} {b n : Nat} (h : IsRadixLiteral raw b n)
    (hn : n < 2 ^ 1023) :
    ∃ m e, ofLiteral? raw = some (.finite false m e) ∧ (Number.finite false m e).IsDouble ∧
      ((Number.finite false m e).IsNearest n ↔ ¬ BreaksTie b n) ∧
      (BreaksTie b n → ∃ y : Number, y.IsNearest n ∧
        (Number.finite false m e).value = y.value - unit n) ∧
      ∀ q s : Nat, q < 2 ^ 53 → n = q * 2 ^ s → (Number.finite false m e).value = n := by
  have hrange := toNearest_lt hn
  have hnearest := isNearest_whole hrange
  have hvalue : (whole (gathered b n)).value = gathered b n := by
    rw [(denotes_whole _).value, toNearest_gathered_self]
  have hdouble : (whole (gathered b n)).IsDouble := by
    apply isDouble_whole
    rw [toNearest_gathered_self]
    exact gathered_lt hn
  obtain ⟨m, e, hx⟩ := exists_whole (gathered b n)
  rw [hx] at hvalue hdouble
  refine ⟨m, e, ?_, hdouble, ⟨fun hnear hties => ?_, fun hno => ?_⟩, fun hties => ?_, ?_⟩
  · rw [h.ofLiteral hn, hx]
  · exact hties.not_isNearest hrange hvalue hnear
  · rwa [← hx, gathered_eq hno, whole_toNearest]
  · refine ⟨whole n, hnearest, ?_⟩
    rw [hvalue, (denotes_whole n).value, hties.toNearest_eq, hties.gathered_eq, Nat.cast_add,
      add_sub_cancel_right]
  · intro q s hq heq
    have hexact : toNearest n = n := by rw [heq, toNearest_mul_two_pow hq]
    have hno : ¬ BreaksTie b n := by
      intro hties
      have hupper := hties.upper
      have hmod := Nat.div_add_mod' n (unit n)
      have hbelow := Nat.mod_lt n (unit_pos n)
      have := hties.toNearest_eq
      omega
    rw [hvalue, gathered_eq hno, hexact]

/-- A literal with a tie that its last digit breaks, but towards the even neighbour. -/
def tiedLiteral : String := "0x20_0000_0000_0003_1"

theorem tiedLiteral_nearest :
    IsRadixLiteral tiedLiteral 4 144115188075855921 ∧ 144115188075855921 < 2 ^ 1023 ∧
      ∃ m e, ofLiteral? tiedLiteral = some (.finite false m e) ∧
        (Number.finite false m e).IsNearest (144115188075855921 : Nat) := by
  have hliteral : IsRadixLiteral tiedLiteral 4 144115188075855921 :=
    @IsRadixLiteral.marked tiedLiteral 'x' ((tiedLiteral.toList.filter (· != '_')).drop 2) 4 _
      (by decide +kernel) (by decide) (by decide +kernel) (by decide +kernel)
  have hrange : 144115188075855921 < 2 ^ 1023 :=
    lt_trans (show _ < 2 ^ 58 by decide) (pow_lt_pow_right₀ Nat.one_lt_two (by decide))
  obtain ⟨m, e, hread, -, hiff, -⟩ := ofLiteral_radix hliteral hrange
  exact ⟨hliteral, hrange, m, e, hread, hiff.mpr fun h => absurd h.even (by decide +kernel)⟩

/-- A literal with a tie that its last digit breaks, away from the even neighbour. -/
def longLiteral : String := "0x200000000000011"

theorem longLiteral_misrounded :
    IsRadixLiteral longLiteral 4 144115188075855889 ∧ 144115188075855889 < 2 ^ 1023 ∧
      ofLiteral? longLiteral = some (.finite false (2 ^ 52) 5) ∧
      ¬ (Number.finite false (2 ^ 52) 5).IsNearest (144115188075855889 : Nat) ∧
      (whole 144115188075855889).IsNearest (144115188075855889 : Nat) ∧
      whole 144115188075855889 = .finite false (2 ^ 52 + 1) 5 := by
  have hliteral : IsRadixLiteral longLiteral 4 144115188075855889 :=
    @IsRadixLiteral.marked longLiteral 'x' (longLiteral.toList.drop 2) 4 _
      (by decide +kernel) (by decide) (by decide +kernel) (by decide +kernel)
  have hrange : 144115188075855889 < 2 ^ 1023 :=
    lt_trans (show _ < 2 ^ 58 by decide) (pow_lt_pow_right₀ Nat.one_lt_two (by decide))
  have hties : BreaksTie 4 144115188075855889 :=
    ⟨by decide +kernel, by decide +kernel, by decide +kernel⟩
  have hvalue : (Number.finite false (2 ^ 52) 5).value = gathered 4 144115188075855889 := by
    rw [show gathered 4 144115188075855889 = 2 ^ 57 by decide +kernel]
    norm_num [value]
  refine ⟨hliteral, hrange, by decide +kernel, hties.not_isNearest (toNearest_lt hrange) hvalue,
    isNearest_whole (toNearest_lt hrange), by decide +kernel⟩

end ImportSeam.Number
