import ImportSeam.Proofs.Number.Decimal
import ImportSeam.Proofs.Number.Radix

/-!
# Numbers that are read back

A number is printed as its digits, with a point among them if it is no whole one, and never with an
exponent.  Such a text is read as the decimal that it denotes.  A whole number below `10 ^ 21` is
written exactly and any other one as the shortest decimal that rounds to it, so a number is read
back from its text whenever it is finite: an infinite one is written as a name.

## Main definitions

* `Number.IsDecimalText` — a text of digits, and the decimal it denotes.
* `Number.IsUnsigned` — a number that a literal can denote.

## Main results

* `Number.IsDecimalText.ofLiteral` — a decimal text is read as the decimal.
* `Number.isUnsigned_ofLiteral?` — a literal denotes no negative number, and a double if finite.
* `Number.ofLiteral?_text_of_literal` — the number a literal denotes is read back from its text.
-/

namespace ImportSeam.Number

open Text

section Digits

variable {c : Char} {cs ds w f : List Char} {m n k : Nat} {negative : Bool}

theorem digitValue?_ten (h : c.isDigit = true) : digitValue? 10 c = some (c.toNat - 48) := by
  rw [Char.isDigit, Bool.and_eq_true, decide_eq_true_eq, decide_eq_true_eq, ge_iff_le,
    UInt32.le_iff_toNat_le, UInt32.le_iff_toNat_le] at h
  have hlow : 0x30 ≤ c.toNat := h.1
  have hhigh : c.toNat ≤ 0x39 := h.2
  simp only [digitValue?, hlow, hhigh, decide_true, Bool.and_self, if_true]
  rw [Option.filter_some, if_pos (decide_eq_true (by omega))]

theorem isDecimalDigit_of_isDigit (h : c.isDigit = true) : isDecimalDigit c = true := by
  rw [isDecimalDigit, digitValue?_ten h]
  rfl

/-- Digits are gathered from the left. -/
theorem foldlM_digits (h : ∀ c ∈ ds, c.isDigit = true) :
    ds.foldlM (fun value c => (digitValue? 10 c).map (value * 10 + ·)) m =
      some (Nat.ofDigitChars 10 ds m) := by
  induction ds generalizing m with
  | nil => rfl
  | cons c ds ih =>
    rw [List.foldlM_cons, digitValue?_ten (h c List.mem_cons_self)]
    show ds.foldlM _ (m * 10 + (c.toNat - 48)) = _
    rw [ih fun d hd => h d (List.mem_cons_of_mem c hd), Nat.mul_comm m]
    rfl

theorem digitsValue?_eq (h : ∀ c ∈ ds, c.isDigit = true) :
    digitsValue? 10 ds = some (Nat.ofDigitChars 10 ds 0) := foldlM_digits h

theorem ofDigitChars_append (ds es : List Char) (m : Nat) :
    Nat.ofDigitChars 10 (ds ++ es) m = Nat.ofDigitChars 10 es (Nat.ofDigitChars 10 ds m) :=
  List.foldl_append

theorem ofDigitChars_zeros (k m : Nat) :
    Nat.ofDigitChars 10 (List.replicate k '0') m = m * 10 ^ k := by
  induction k generalizing m with
  | zero => exact (Nat.mul_one m).symm
  | succ k ih =>
    show Nat.ofDigitChars 10 (List.replicate k '0') (10 * m + 0) = _
    rw [ih, Nat.pow_succ, Nat.add_zero, Nat.mul_comm 10 m, Nat.mul_assoc, Nat.mul_comm 10]

theorem isDigit_toDigits (n : Nat) : ∀ c ∈ Nat.toDigits 10 n, c.isDigit = true :=
  fun _ => Nat.isDigit_of_mem_toDigits (by decide) (by decide)

theorem isDigit_zeros (k : Nat) : ∀ c ∈ List.replicate k '0', c.isDigit = true := by
  intro c hc
  rw [List.eq_of_mem_replicate hc]
  rfl

theorem isDigit_append (hd : ∀ c ∈ w, c.isDigit = true) (hf : ∀ c ∈ f, c.isDigit = true) :
    ∀ c ∈ w ++ f, c.isDigit = true :=
  fun c hc => (List.mem_append.mp hc).elim (hd c) (hf c)

/-- A positive number is written without leading zeros. -/
theorem head_toDigits (n : Nat) (hn : 0 < n) : ∃ c cs, Nat.toDigits 10 n = c :: cs ∧ c ≠ '0' := by
  induction n using Nat.strongRecOn with
  | ind n ih =>
    by_cases hlt : n < 10
    · refine ⟨n.digitChar, [], Nat.toDigits_of_lt_base hlt, ?_⟩
      have hdigit : ∀ d < 10, 0 < d → d.digitChar ≠ '0' := by decide
      exact hdigit n hlt hn
    · obtain ⟨c, cs, hcs, hc⟩ := ih (n / 10) (Nat.div_lt_self hn (by decide)) (by omega)
      rw [Nat.toDigits_of_base_le (by decide) (by omega), hcs]
      exact ⟨c, _, rfl, hc⟩

/-! ### Decimals -/

theorem takeWhile_digits (cs : List Char) (hw : ∀ c ∈ w, c.isDigit = true)
    (hstop : ∀ c ∈ cs.head?, c = '.') :
    (w ++ cs).takeWhile isDecimalDigit = w ∧ (w ++ cs).dropWhile isDecimalDigit = cs := by
  have hw' : ∀ c ∈ w, isDecimalDigit c = true := fun c hc => isDecimalDigit_of_isDigit (hw c hc)
  rw [List.takeWhile_append_of_pos hw', List.dropWhile_append_of_pos hw']
  cases cs with
  | nil => exact ⟨List.append_nil w, rfl⟩
  | cons c cs =>
    obtain rfl := hstop c rfl
    exact ⟨List.append_nil w, rfl⟩

/-- What digits in lower case are not. -/
theorem not_named (hw : ∀ c ∈ w, c.isDigit = true) (hne : w ≠ []) (cs : List Char) :
    w ++ cs ≠ "inf".toList ∧ w ++ cs ≠ "infinity".toList ∧ w ++ cs ≠ "nan".toList := by
  obtain ⟨c, w, rfl⟩ := List.exists_cons_of_ne_nil hne
  have hc := hw c List.mem_cons_self
  refine ⟨?_, ?_, ?_⟩
  all_goals
    intro h
    obtain ⟨rfl, -⟩ := List.cons.inj h
    exact absurd hc (by decide)

theorem readUnsigned?_whole (hw : ∀ c ∈ w, c.isDigit = true) (hne : w ≠ []) :
    readUnsigned? negative w = some (ofDecimal negative (Nat.ofDigitChars 10 w 0) 0) := by
  obtain ⟨hinf, hinfinity, hnan⟩ := not_named hw hne []
  obtain ⟨htake, hdrop⟩ := takeWhile_digits [] hw (by simp)
  rw [List.append_nil] at *
  have hempty : (w.isEmpty && List.isEmpty ([] : List Char)) = false := by
    cases w with
    | nil => exact absurd rfl hne
    | cons c w => rfl
  simp only [readUnsigned?, beq_iff_eq, hinf, hinfinity, hnan, if_false, htake, hdrop, hempty,
    Bool.false_eq_true, or_self, Bool.or_eq_true, readExponent?,
    digitsValue?_eq hw, List.append_nil, Option.bind_eq_bind, Option.bind_some, List.length_nil,
    Nat.cast_zero, sub_zero]

theorem readUnsigned?_point (hw : ∀ c ∈ w, c.isDigit = true) (hne : w ≠ [])
    (hf : ∀ c ∈ f, c.isDigit = true) :
    readUnsigned? negative (w ++ '.' :: f) =
      some (ofDecimal negative (Nat.ofDigitChars 10 (w ++ f) 0) (-(f.length : Int))) := by
  obtain ⟨hinf, hinfinity, hnan⟩ := not_named hw hne ('.' :: f)
  obtain ⟨htake, hdrop⟩ := takeWhile_digits ('.' :: f) hw (by simp)
  obtain ⟨htake', hdrop'⟩ := takeWhile_digits [] hf (by simp)
  rw [List.append_nil] at htake' hdrop'
  have hempty : (w.isEmpty && f.isEmpty) = false := by
    cases w with
    | nil => exact absurd rfl hne
    | cons c w => rfl
  simp only [readUnsigned?, beq_iff_eq, hinf, hinfinity, hnan, if_false, htake, hdrop, htake',
    hdrop', hempty, Bool.false_eq_true, or_self, Bool.or_eq_true, readExponent?,
    digitsValue?_eq (isDigit_append hw hf), Option.bind_eq_bind, Option.bind_some, zero_sub]

theorem toLower_digit (h : c.isDigit = true) : c.toLower = c := by
  rw [Char.isDigit, Bool.and_eq_true, decide_eq_true_eq, decide_eq_true_eq, ge_iff_le,
    UInt32.le_iff_toNat_le, UInt32.le_iff_toNat_le] at h
  have hhigh : c.toNat ≤ 0x39 := h.2
  refine Char.toNat_inj.mp ?_
  rw [toNat_toLower, if_neg (by omega)]

/-- A literal of digits, with or without a point, is a decimal unless it starts with a zero. -/
theorem ofLiteral?_decimal (h : ∀ c ∈ cs, c.isDigit = true ∨ c = '.')
    (hzero : ∀ d ds, cs = '0' :: d :: ds → d = '.') :
    ofLiteral? (String.ofList cs) = readUnsigned? false cs := by
  have hlower : ((String.ofList cs).toList.filter (· != '_')).map Char.toLower = cs := by
    rw [String.toList_ofList, List.filter_eq_self.mpr]
    · refine (List.map_congr_left fun c hc => ?_).trans (List.map_id cs)
      rcases h c hc with hd | rfl
      · exact toLower_digit hd
      · rfl
    · intro c hc
      rcases h c hc with hd | rfl
      · rw [bne_iff_ne]
        rintro rfl
        exact absurd hd (by decide)
      · rfl
  have hsign : readDecimal? cs = readUnsigned? false cs := by
    unfold readDecimal?
    split
    · next => rcases h '-' List.mem_cons_self with hd | hd <;> exact absurd hd (by decide)
    · next => rcases h '+' List.mem_cons_self with hd | hd <;> exact absurd hd (by decide)
    · rfl
  unfold ofLiteral?
  simp only [hlower]
  split
  · exact absurd (hzero _ _ rfl) (by decide)
  · exact absurd (hzero _ _ rfl) (by decide)
  · exact absurd (hzero _ _ rfl) (by decide)
  · next d ds _ _ _ =>
    obtain rfl := hzero d ds rfl
    exact (if_neg (by simp [digitValue?])).trans hsign
  · exact hsign

end Digits

/-! ### Numbers read back -/

section ReadBack

variable {m D : Nat} {e E : Int} {negative : Bool}

/-- A decimal that rounds to a double is read as the double. -/
theorem ofDecimal_of_roundsTo (hx : (finite negative m e).IsDouble) (hpos : 0 < m) (hD : 0 < D)
    (h : RoundsTo m e (D * 10 ^ E)) : ofDecimal negative D E = .finite negative m e := by
  obtain ⟨hm, hmin, hmax, hlead⟩ := hx
  obtain ⟨hlow, hhigh⟩ := pow_length_toDigits hD
  have hpow : (0 : ℚ) < 10 ^ E := by positivity
  have hsize : (10 : ℚ) ^ (E + (Nat.toDigits 10 D).length - 1) ≤ D * 10 ^ E := by
    rw [show E + ((Nat.toDigits 10 D).length : Int) - 1 = (Nat.toDigits 10 D).length - 1 + E by
      omega, zpow_add₀ (by norm_num)]
    exact mul_le_mul_of_nonneg_right hlow hpow.le
  have hsize' : (D : ℚ) * 10 ^ E < 10 ^ (E + ((Nat.toDigits 10 D).length : Int)) := by
    rw [add_comm, zpow_add₀ (by norm_num)]
    exact mul_lt_mul_of_pos_right hhigh hpow
  have hgreat : (D : ℚ) * 10 ^ E < 2 ^ 1024 := by
    have hm' : (m : ℚ) + 1 ≤ 2 ^ 53 := by exact_mod_cast hm
    have he : (2 : ℚ) ^ e ≤ 2 ^ (971 : Int) := zpow_le_zpow_right₀ one_le_two hmax
    calc (D : ℚ) * 10 ^ E ≤ (m + 1 / 2) * 2 ^ e := h.high
      _ < 2 ^ 53 * 2 ^ e := mul_lt_mul_of_pos_right (by linarith) (by positivity)
      _ ≤ 2 ^ 53 * 2 ^ (971 : Int) := mul_le_mul_of_nonneg_left he (by positivity)
      _ = 2 ^ 1024 := by rw [← zpow_natCast, ← zpow_natCast, ← zpow_add₀ two_ne_zero]; rfl
  have hsmall : (2 : ℚ) ^ (-1075 : Int) ≤ D * 10 ^ E := by
    have hm' : (1 : ℚ) ≤ m := by exact_mod_cast hpos
    have he : (2 : ℚ) ^ (-1074 : Int) ≤ 2 ^ e := zpow_le_zpow_right₀ one_le_two hmin
    have hhalf := lowerHalf_le m e
    calc (2 : ℚ) ^ (-1075 : Int) = 1 / 2 * 2 ^ (-1074 : Int) := by
          rw [show (-1075 : Int) = -1 + -1074 by rfl, zpow_add₀ two_ne_zero, zpow_neg_one, one_div]
      _ ≤ 1 / 2 * 2 ^ e := mul_le_mul_of_nonneg_left he (by norm_num)
      _ ≤ (m - lowerHalf m e) * 2 ^ e := mul_le_mul_of_nonneg_right (by linarith) (by positivity)
      _ ≤ D * 10 ^ E := h.low
  unfold ofDecimal
  generalize E + ((Nat.toDigits 10 D).length : Int) = size at *
  have hzero : ¬(D == 0) = true := by simpa using hD.ne'
  have hinfinite : ¬310 < size := by
    intro hlt
    have hle : (10 : ℚ) ^ (310 : Int) ≤ 10 ^ (size - 1) :=
      zpow_le_zpow_right₀ (by norm_num) (by omega)
    have hpow : (2 : ℚ) ^ 1024 < 10 ^ (310 : Int) := by
      exact_mod_cast (by decide +kernel : 2 ^ 1024 < 10 ^ 310)
    exact absurd (hle.trans hsize) (hgreat.trans hpow).not_ge
  have hnormal : ¬size < -330 := by
    intro hlt
    have hle : (10 : ℚ) ^ size ≤ 10 ^ (-331 : Int) :=
      zpow_le_zpow_right₀ (by norm_num) (by omega)
    have hpow : (10 : ℚ) ^ (-331 : Int) < 2 ^ (-1075 : Int) := by
      rw [zpow_neg, zpow_neg, inv_lt_inv₀ (by positivity) (by positivity)]
      exact_mod_cast (by decide +kernel : 2 ^ 1075 < 10 ^ 331)
    exact absurd hsmall (hsize'.trans_le hle |>.trans hpow).not_ge
  simp only [hzero, hinfinite, hnormal, if_false]
  obtain ⟨hd, hvalue⟩ := scaleTen_value D Nat.one_pos (-E)
  rw [zpow_neg, div_inv_eq_mul, Nat.cast_one, div_one] at hvalue
  exact ofRatio_of_roundsTo hm hpos hmin hmax hlead hd.ne' (hvalue ▸ h)

/-- A text of digits, with or without a point, and the decimal it denotes. -/
inductive IsDecimalText : List Char → Nat → Int → Prop
  | whole {w : List Char} (hw : ∀ c ∈ w, c.isDigit = true) (hne : w ≠ [])
      (hhead : w = ['0'] ∨ w.head? ≠ some '0') : IsDecimalText w (Nat.ofDigitChars 10 w 0) 0
  | point {w f : List Char} (hw : ∀ c ∈ w, c.isDigit = true) (hne : w ≠ [])
      (hhead : w = ['0'] ∨ w.head? ≠ some '0') (hf : ∀ c ∈ f, c.isDigit = true) :
      IsDecimalText (w ++ '.' :: f) (Nat.ofDigitChars 10 (w ++ f) 0) (-(f.length : Int))

/-- A decimal text is read as the decimal. -/
theorem IsDecimalText.ofLiteral {cs : List Char} (h : IsDecimalText cs D E) :
    ofLiteral? (String.ofList cs) = some (ofDecimal false D E) := by
  cases h with
  | whole hw hne hhead =>
    rw [ofLiteral?_decimal (fun c hc => .inl (hw c hc)) (fun d ds hcs => ?_),
      readUnsigned?_whole hw hne]
    subst hcs
    exact hhead.elim (fun h => nomatch h) fun h => absurd rfl h
  | @point w f hw hne hhead hf =>
    rw [ofLiteral?_decimal (fun c hc => ?_) (fun d ds hcs => ?_), readUnsigned?_point hw hne hf]
    · rcases List.mem_append.mp hc with hc | hc
      · exact .inl (hw c hc)
      · exact (List.mem_cons.mp hc).elim .inr fun hc => .inl (hf c hc)
    · rcases hhead with rfl | hhead
      · exact ((List.cons.inj (List.cons.inj hcs).2).1).symm
      · cases w with
        | nil => exact absurd rfl hne
        | cons c w =>
          obtain ⟨rfl, -⟩ := List.cons.inj hcs
          exact absurd rfl hhead

/-- A decimal is written so that it is read with its value. -/
theorem positional_text (d : Decimal) (hd : 0 < d.digits) :
    ∃ D E, IsDecimalText (positional d) D E ∧ (D : ℚ) * 10 ^ E = d.digits * 10 ^ d.exponent := by
  obtain ⟨c, cs, hdigits, hc⟩ := head_toDigits d.digits hd
  have hisdigit := isDigit_toDigits d.digits
  have hvalue : Nat.ofDigitChars 10 (Nat.toDigits 10 d.digits) 0 = d.digits :=
    Nat.ofDigitChars_toDigits (by decide) (by decide)
  have hlen : 0 < (Nat.toDigits 10 d.digits).length := Nat.length_toDigits_pos
  unfold positional
  generalize Nat.toDigits 10 d.digits = ds at *
  have hhead : ds.head? ≠ some '0' := by
    rw [hdigits]
    exact fun h => hc (Option.some.inj h)
  have hzero : Nat.ofDigitChars 10 ['0'] 0 = 0 := rfl
  dsimp only
  split
  · -- zeros behind the point
    next hleft =>
    generalize hk : (-((ds.length : Int) + d.exponent)).toNat = k
    have hf := isDigit_append (isDigit_zeros k) hisdigit
    refine ⟨_, _, .point (w := ['0']) (by simp) (by simp) (.inl rfl) hf, ?_⟩
    show (Nat.ofDigitChars 10 (['0'] ++ (List.replicate k '0' ++ ds)) 0 : ℚ) *
      10 ^ (-((List.replicate k '0' ++ ds).length : Int)) = _
    rw [ofDigitChars_append, ofDigitChars_append, hzero, ofDigitChars_zeros, Nat.zero_mul, hvalue,
      List.length_append, List.length_replicate]
    congr 2
    omega
  split
  · -- zeros behind the digits
    next hright =>
    generalize hk : ((ds.length : Int) + d.exponent).toNat - ds.length = k
    refine ⟨_, _, .whole (isDigit_append hisdigit (isDigit_zeros k)) (by simp [hdigits])
      (.inr (by rwa [List.head?_append_of_ne_nil _ (by simp [hdigits])])), ?_⟩
    rw [ofDigitChars_append, hvalue, ofDigitChars_zeros, zpow_zero, mul_one,
      show d.exponent = (k : Int) by omega, zpow_natCast]
    push_cast
    rfl
  · -- a point between the digits
    next hleft hright =>
    generalize hk : ((ds.length : Int) + d.exponent).toNat = k
    have hne : ds.take k ≠ [] := by
      rw [Ne, List.take_eq_nil_iff]
      exact fun h => h.elim (by omega) (by simp [hdigits])
    refine ⟨_, _, .point (fun c hc => hisdigit c (List.mem_of_mem_take hc)) hne (.inr ?_)
      fun c hc => hisdigit c (List.mem_of_mem_drop hc), ?_⟩
    · rwa [List.head?_take, if_neg (by omega)]
    · rw [List.take_append_drop, hvalue, List.length_drop]
      congr 2
      omega

/-- **A finite number is read back from its text.** -/
theorem text_decimal {x : Number} (hx : x.IsDouble) (hsign : ∀ negative m e,
    x = .finite negative m e → negative = false) :
    ∃ cs D E, x.text = String.ofList cs ∧ IsDecimalText cs D E ∧ ofDecimal false D E = x := by
  obtain @⟨negative, m, e, hm, hmin, hmax, hlead⟩ := hx
  obtain rfl := hsign _ _ _ rfl
  by_cases hzero : m = 0
  · subst hzero
    obtain rfl : e = minExponent := hlead.resolve_left (by decide)
    exact ⟨['0'], _, _, rfl, .whole (by simp) (by simp) (.inl rfl), rfl⟩
  have hpos := Nat.pos_of_ne_zero hzero
  have hdouble : (finite false m e).IsDouble := ⟨hm, hmin, hmax, hlead⟩
  have htext : text (.finite false m e) = String.ofList
      (if ((ratio m e).1 % (ratio m e).2 == 0 &&
        decide ((ratio m e).1 / (ratio m e).2 < Nat.pow 10 21)) = true
      then Nat.toDigits 10 ((ratio m e).1 / (ratio m e).2) else positional (shortest m e)) := by
    simp [text, hzero]
  rw [htext]
  split
  · next hwhole =>
    -- a whole number is written exactly
    rw [Bool.and_eq_true, beq_iff_eq] at hwhole
    have hvalue : (((ratio m e).1 / (ratio m e).2 : Nat) : ℚ) = m * 2 ^ e := by
      rw [← ratio_value]
      refine eq_div_of_mul_eq (by exact_mod_cast (ratio_snd_pos m e).ne') ?_
      exact_mod_cast Nat.div_mul_cancel (Nat.dvd_of_mod_eq_zero hwhole.1)
    generalize (ratio m e).1 / (ratio m e).2 = n at *
    have hn : 0 < n := by
      refine Nat.pos_of_ne_zero fun hn => ?_
      rw [hn, Nat.cast_zero] at hvalue
      have : (0 : ℚ) < m * 2 ^ e := by positivity
      exact this.ne hvalue
    obtain ⟨c, cs, hdigits, hc⟩ := head_toDigits n hn
    refine ⟨_, _, _, rfl, .whole (isDigit_toDigits n) (by simp [hdigits]) (.inr ?_), ?_⟩
    · rw [hdigits]
      exact fun h => hc (Option.some.inj h)
    · rw [Nat.ofDigitChars_toDigits (by decide) (by decide)]
      refine ofDecimal_of_roundsTo hdouble hpos hn ?_
      rw [zpow_zero, mul_one, hvalue]
      exact roundsTo_self m e
  · have hround := roundsTo_shortest (e := e) hpos hm
    have hdigits : 0 < (shortest m e).digits := by
      refine Nat.pos_of_ne_zero fun hn => ?_
      have hlow := hround.low
      rw [hn, Nat.cast_zero, zero_mul] at hlow
      have hm1 : (1 : ℚ) ≤ m := by exact_mod_cast hpos
      have hhalf := lowerHalf_le m e
      have : (0 : ℚ) < (m - lowerHalf m e) * 2 ^ e := mul_pos (by linarith) (by positivity)
      exact this.not_ge hlow
    obtain ⟨D, E, htext, hDE⟩ := positional_text (shortest m e) hdigits
    refine ⟨_, D, E, rfl, htext, ofDecimal_of_roundsTo hdouble hpos ?_ (hDE ▸ hround)⟩
    refine Nat.pos_of_ne_zero fun hn => ?_
    rw [hn, Nat.cast_zero, zero_mul] at hDE
    have hpow : (0 : ℚ) < (shortest m e).digits * 10 ^ (shortest m e).exponent := by
      positivity
    exact hpow.ne hDE

/-- **A finite number is read back from its text.** -/
theorem ofLiteral?_text {x : Number} (hx : x.IsDouble) (hsign : ∀ negative m e,
    x = .finite negative m e → negative = false) : ofLiteral? x.text = some x := by
  obtain ⟨cs, D, E, htext, hcs, hread⟩ := text_decimal hx hsign
  rw [htext, hcs.ofLiteral, hread]

end ReadBack

/-! ### Numbers that literals denote -/

section Literals

variable {x : Number} {num den n : Nat} {D : Nat} {E : Int} {cs : List Char}

/-- The number is no negative one, and a double if it is finite. -/
def IsUnsigned (x : Number) : Prop :=
  ∀ negative m e, x = .finite negative m e → negative = false ∧ x.IsDouble

theorem isUnsigned_zero : (zero false).IsUnsigned := by
  intro negative m e h
  cases h
  exact ⟨rfl, .finite (by decide) (by decide) (by decide) (.inr rfl)⟩

theorem isUnsigned_ofRatio (hden : den ≠ 0) : (ofRatio false num den).IsUnsigned := by
  intro negative m e h
  obtain ⟨hsign, hdouble⟩ := isDouble_ofRatio hden h
  exact ⟨hsign, h ▸ hdouble⟩

theorem IsUnsigned.mulNat (h : x.IsUnsigned) : (x.mulNat n).IsUnsigned := by
  cases x with
  | finite negative m e =>
    obtain ⟨rfl, -⟩ := h _ _ _ rfl
    exact isUnsigned_ofRatio (ratio_snd_pos m e).ne'
  | nan => exact h
  | infinite negative => exact h

theorem IsUnsigned.addNat (h : x.IsUnsigned) : (x.addNat n).IsUnsigned := by
  cases x with
  | finite negative m e =>
    obtain ⟨rfl, -⟩ := h _ _ _ rfl
    exact isUnsigned_ofRatio (ratio_snd_pos m e).ne'
  | nan => exact h
  | infinite negative => exact h

theorem isUnsigned_ofDecimal : (ofDecimal false D E).IsUnsigned := by
  unfold ofDecimal
  dsimp only
  split
  · exact isUnsigned_zero
  split
  · exact nofun
  split
  · exact isUnsigned_zero
  · exact isUnsigned_ofRatio (scaleTen_value D Nat.one_pos (-E)).1.ne'

theorem isUnsigned_ofDigits? {radix : Nat} (h : ofDigits? radix cs = some x) : x.IsUnsigned := by
  have hfold : ∀ (cs : List Char) (y : Number), y.IsUnsigned →
      cs.foldlM (fun x c => (digitValue? radix c).map ((x.mulNat radix).addNat ·)) y = some x →
      x.IsUnsigned := by
    intro cs
    induction cs with
    | nil =>
      intro y hy h
      obtain rfl := Option.some.inj h
      exact hy
    | cons c cs ih =>
      intro y hy h
      rw [List.foldlM_cons] at h
      cases hd : digitValue? radix c with
      | none =>
        rw [hd] at h
        exact nomatch h
      | some d =>
        rw [hd] at h
        exact ih _ hy.mulNat.addNat h
  unfold ofDigits? at h
  split at h
  · exact nomatch h
  · exact hfold cs _ isUnsigned_zero h

theorem isUnsigned_readUnsigned? (h : readUnsigned? false cs = some x) : x.IsUnsigned := by
  unfold readUnsigned? at h
  split at h
  · obtain rfl := Option.some.inj h
    exact nofun
  split at h
  · obtain rfl := Option.some.inj h
    exact nofun
  have hparts : ∀ whole fraction after : List Char,
      (if (whole.isEmpty && fraction.isEmpty) = true then none
        else (readExponent? after).bind fun e => (digitsValue? 10 (whole ++ fraction)).bind
          fun digits => some (ofDecimal false digits (e - fraction.length))) = some x →
      x.IsUnsigned := by
    intro whole fraction after h
    split at h
    · exact nomatch h
    obtain ⟨e, -, h⟩ := Option.bind_eq_some_iff.mp h
    obtain ⟨digits, -, h⟩ := Option.bind_eq_some_iff.mp h
    obtain rfl := Option.some.inj h
    exact isUnsigned_ofDecimal
  dsimp only at h
  split at h
  · exact hparts _ _ _ h
  · exact hparts _ _ _ h

/-- **A literal that starts with a digit or a point** denotes no negative number. -/
theorem isUnsigned_ofLiteral? {raw : String}
    (hhead : ∃ c cs, raw.toList = c :: cs ∧ (c.isDigit = true ∨ c = '.'))
    (h : ofLiteral? raw = some x) : x.IsUnsigned := by
  obtain ⟨c, cs, hraw, hc⟩ := hhead
  have hkept : (c != '_') = true ∧ c.toLower = c ∧ c ≠ '-' := by
    rcases hc with hc | rfl
    · refine ⟨?_, toLower_digit hc, ?_⟩
      · rw [bne_iff_ne]
        rintro rfl
        exact absurd hc (by decide)
      · rintro rfl
        exact absurd hc (by decide)
    · decide
  obtain ⟨ds, hlower⟩ : ∃ ds, (raw.toList.filter (· != '_')).map Char.toLower = c :: ds := by
    refine ⟨(cs.filter (· != '_')).map Char.toLower, ?_⟩
    simp only [hraw, List.filter_cons, hkept.1, if_true, List.map_cons, hkept.2.1]
  have hdecimal : ∀ x, readDecimal? (c :: ds) = some x → x.IsUnsigned := by
    intro x hx
    unfold readDecimal? at hx
    split at hx
    · next heq => exact absurd (List.cons.inj heq).1 hkept.2.2
    · exact isUnsigned_readUnsigned? hx
    · exact isUnsigned_readUnsigned? hx
  unfold ofLiteral? at h
  rw [hlower] at h
  dsimp only at h
  split at h
  · exact isUnsigned_ofDigits? h
  · exact isUnsigned_ofDigits? h
  · exact isUnsigned_ofDigits? h
  · split at h
    · exact isUnsigned_ofDigits? h
    · exact hdecimal x h
  · exact hdecimal x h

/-- Whether a number is finite. -/
def isFinite : Number → Bool
  | .finite _ _ _ => true
  | _ => false

theorem IsUnsigned.of_isFinite (h : x.IsUnsigned) (hx : x.isFinite = true) :
    x.IsDouble ∧ ∀ negative m e, x = .finite negative m e → negative = false := by
  cases x with
  | finite negative m e => exact ⟨(h _ _ _ rfl).2, fun _ _ _ heq => (h _ _ _ heq).1⟩
  | nan => exact nomatch hx
  | infinite negative => exact nomatch hx

/-- **The number that a literal denotes is read back from its text** if it is finite. -/
theorem ofLiteral?_text_of_literal {raw : String}
    (hhead : ∃ c cs, raw.toList = c :: cs ∧ (c.isDigit = true ∨ c = '.'))
    (h : ofLiteral? raw = some x) (hx : x.isFinite = true) : ofLiteral? x.text = some x := by
  obtain ⟨hdouble, hsign⟩ := (isUnsigned_ofLiteral? hhead h).of_isFinite hx
  exact ofLiteral?_text hdouble hsign

end Literals

end ImportSeam.Number
