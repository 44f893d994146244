import ImportSeam.Proofs.Require.Literal

/-!
# The text of a token

Reading goes on as long as a token can, so what stands behind a token decides where it ends.  Once
it is cut off there, nothing stands behind it any more, and it is read as it was: the same kind, and
all of its characters.  So whether some source has a token of this text can be decided by reading
the text.

## Main results

* `scan_take` — a token that was cut off is read as it was.
* `isToken_iff` — a text is a token of some source if it is one by itself.
-/

namespace ImportSeam

open Text

variable {cs rest : List Char} {mode : LexMode} {kind : TokenKind} {text : String}

namespace Scan

/-- The scanner reads the token it finds again where the text ends with the token. -/
structure Stable (s : List Char → Scan) (cs : List Char) : Prop where
  again : s (cs.take (s cs).length) = s cs
  le : (s cs).length ≤ cs.length

/-- Characters before the token do not matter. -/
theorem Stable.after {s t : List Char → Scan} (pre : List Char)
    (hs : ∀ cs, s (pre ++ cs) = (t cs).after pre.length) (h : Stable t cs) :
    Stable s (pre ++ cs) := by
  have hlength : (s (pre ++ cs)).length = pre.length + (t cs).length := by rw [hs, after_length]
  refine ⟨?_, ?_⟩
  · rw [hlength, List.take_length_add_append, hs, hs, h.again]
  · rw [hlength, List.length_append]
    exact Nat.add_le_add_left h.le _

/-- A token with a first character. -/
theorem eq_after {s : Scan} (h : 0 < s.length) : s = (Scan.mk s.kind (s.length - 1)).after 1 := by
  obtain ⟨kind, n⟩ := s
  have hn : 0 < n := h
  simp only [after, Scan.mk.injEq, true_and]
  omega

/-! ### Numbers -/

/-- Where the suffix stands behind the digits. -/
theorem lt_of_suffix {n : Nat} {u : List Char} (h : ((u.drop n).head? == some 'n') = true) :
    n < u.length := by
  refine Nat.lt_of_not_le fun hle => ?_
  rw [List.drop_eq_nil_iff.mpr hle] at h
  exact absurd h Bool.false_ne_true

theorem run_le (p : Char → Bool) (cs : List Char) : run p cs ≤ cs.length :=
  (List.takeWhile_prefix _).length_le

theorem radixDigits_le (radix : Nat) (cs : List Char) :
    (radixDigits radix cs).length ≤ cs.length := by
  unfold radixDigits
  dsimp only
  split
  · next hs => exact lt_of_suffix hs
  · exact run_le _ _

theorem exponent_le (cs : List Char) : exponent cs ≤ cs.length := by
  match cs with
  | [] => exact Nat.le_refl 0
  | [c] =>
    unfold exponent
    dsimp only
    split
    · exact Nat.le_refl 1
    · exact Nat.zero_le 1
  | c :: d :: r =>
    have hr := run_le (isNumberPart 10) r
    have hdr := run_le (isNumberPart 10) (d :: r)
    unfold exponent
    dsimp only
    simp only [List.length_cons] at hdr ⊢
    split
    · split <;> omega
    · exact Nat.zero_le _

theorem fraction_le (cs : List Char) : fraction cs ≤ cs.length := by
  unfold fraction
  split
  · next r =>
    have hr := run_le (isNumberPart 10) r
    rw [List.length_cons]
    omega
  · exact Nat.zero_le _

theorem decimal_le (cs : List Char) : (decimal cs).length ≤ cs.length := by
  unfold decimal
  dsimp only
  split
  · next hs => exact lt_of_suffix hs
  · have hn := run_le (isNumberPart 10) cs
    generalize run (isNumberPart 10) cs = n at *
    have hdrop : (cs.drop n).length = cs.length - n := List.length_drop
    have hf : (if isOldOctal (cs.take n) = true then 0 else fraction (cs.drop n)) ≤
        (cs.drop n).length := by
      split
      · exact Nat.zero_le _
      · exact fraction_le _
    generalize (if isOldOctal (cs.take n) = true then 0 else fraction (cs.drop n)) = f at *
    have he := exponent_le ((cs.drop n).drop f)
    rw [List.length_drop] at he
    show n + f + exponent ((cs.drop n).drop f) ≤ cs.length
    omega

theorem number_le (cs : List Char) : (number cs).length ≤ cs.length := by
  unfold number
  split
  · next c r =>
    split
    · next radix _ =>
      have hr := radixDigits_le radix r
      rw [after_length, List.length_cons, List.length_cons]
      omega
    · exact decimal_le _
  · exact decimal_le _

theorem run_take {p : Char → Bool} {n : Nat} (h : run p cs ≤ n) : run p (cs.take n) = run p cs := by
  induction cs generalizing n with
  | nil => rw [List.take_nil]
  | cons c cs ih =>
    by_cases hc : p c = true
    · have hrun : ∀ cs, run p (c :: cs) = run p cs + 1 := fun cs => by simp [run, hc]
      rw [hrun] at h ⊢
      obtain ⟨n, rfl⟩ := Nat.exists_eq_succ_of_ne_zero (show n ≠ 0 by omega)
      rw [List.take_succ_cons, hrun, ih (by omega)]
    · cases n with
      | zero => simp [run, hc]
      | succ n => simp [run, hc]

theorem head?_drop_take {n m : Nat} (h : n < m) :
    ((cs.take m).drop n).head? = (cs.drop n).head? := by
  rw [List.drop_take, List.head?_take, if_neg (by omega)]

theorem radixDigits_take {radix : Nat} : radixDigits radix
    (cs.take (radixDigits radix cs).length) = radixDigits radix cs := by
  unfold radixDigits
  dsimp only
  by_cases hn : (cs.drop (run (isNumberPart radix) cs)).head? == some 'n'
  · simp only [hn, if_true, run_take (Nat.le_succ _), head?_drop_take (Nat.lt_succ_self _)]
  · have hrun := run_take (Nat.le_refl (run (isNumberPart radix) cs))
    have hnone : ((cs.take (run (isNumberPart radix) cs)).drop
        (run (isNumberPart radix) cs)).head? = none := by
      rw [List.drop_take, Nat.sub_self, List.take_zero]
      rfl
    simp only [hn, Bool.false_eq_true, if_false, hrun, hnone]
    rfl

theorem exponent_take : exponent (cs.take (exponent cs)) = exponent cs := by
  match cs with
  | [] => rfl
  | [c] =>
    by_cases hc : (c == 'e' || c == 'E') = true
    · simp [exponent, hc]
    · rw [Bool.not_eq_true] at hc
      rw [exponent_eq_zero hc]
      rfl
  | c :: d :: r =>
    by_cases hc : (c == 'e' || c == 'E') = true
    · by_cases hd : (d == '+' || d == '-') = true
      · have hlong : ∀ r, exponent (c :: d :: r) = 2 + run (isNumberPart 10) r := fun r => by
          simp only [exponent, hc, hd, if_true]
        rw [hlong, Nat.add_comm, List.take_succ_cons, List.take_succ_cons, hlong,
          run_take (Nat.le_refl _), Nat.add_comm]
      · have hlong : ∀ r, exponent (c :: d :: r) = 1 + run (isNumberPart 10) (d :: r) := fun r => by
          simp only [exponent, hc, hd, if_true, Bool.false_eq_true, if_false]
        rw [hlong, Nat.add_comm, List.take_succ_cons]
        by_cases hpart : isNumberPart 10 d = true
        · have hrun : ∀ r, run (isNumberPart 10) (d :: r) = run (isNumberPart 10) r + 1 :=
            fun r => by simp [run, hpart]
          rw [hrun, List.take_succ_cons, hlong, hrun, run_take (Nat.le_refl _), Nat.add_comm]
        · have hrun : run (isNumberPart 10) (d :: r) = 0 := by simp [run, hpart]
          rw [hrun]
          simp [exponent, hc]
    · rw [Bool.not_eq_true] at hc
      rw [exponent_eq_zero hc]
      rfl

theorem fraction_take {n : Nat} (h : fraction cs ≤ n) : fraction (cs.take n) = fraction cs := by
  cases cs with
  | nil => rw [List.take_nil]
  | cons c r =>
    by_cases hc : c = '.'
    · subst hc
      rw [fraction] at h
      obtain ⟨n, rfl⟩ := Nat.exists_eq_succ_of_ne_zero (show n ≠ 0 by omega)
      rw [List.take_succ_cons, fraction, fraction, run_take (by omega)]
    · rw [fraction_eq_zero hc]
      cases n with
      | zero => rfl
      | succ n => rw [List.take_succ_cons, fraction_eq_zero hc]

theorem decimal_take : decimal (cs.take (decimal cs).length) = decimal cs := by
  obtain ⟨n, hn⟩ : ∃ n, run (isNumberPart 10) cs = n := ⟨_, rfl⟩
  by_cases hsuffix : ((cs.drop n).head? == some 'n') = true
  · have hall : ∀ cs, run (isNumberPart 10) cs = n → ((cs.drop n).head? == some 'n') = true →
        decimal cs = ⟨some .bigInt, n + 1⟩ := fun cs hn hs => by
      simp only [decimal, hn, hs, if_true]
    rw [hall cs hn hsuffix]
    refine hall _ ((run_take (hn ▸ Nat.le_succ n)).trans hn) ?_
    rw [head?_drop_take (Nat.lt_succ_self n)]
    exact hsuffix
  · -- the digits, the fraction and the exponent are all that is left
    have hall : ∀ cs f e, run (isNumberPart 10) cs = n → ¬((cs.drop n).head? == some 'n') = true →
        (if isOldOctal (cs.take n) = true then 0 else fraction (cs.drop n)) = f →
        exponent ((cs.drop n).drop f) = e → decimal cs = ⟨some .num, n + f + e⟩ := by
      rintro cs f e hn hs rfl rfl
      simp only [decimal, hn, hs, Bool.false_eq_true, if_false]
    obtain ⟨f, hf⟩ : ∃ f, (if isOldOctal (cs.take n) = true then 0 else fraction (cs.drop n)) = f :=
      ⟨_, rfl⟩
    obtain ⟨e, he⟩ : ∃ e, exponent ((cs.drop n).drop f) = e := ⟨_, rfl⟩
    have hdrop : (cs.take (n + f + e)).drop n = (cs.drop n).take (f + e) := by
      rw [List.drop_take, Nat.add_assoc, Nat.add_sub_cancel_left]
    have htake : (cs.take (n + f + e)).take n = cs.take n := by
      rw [List.take_take, Nat.min_eq_left (by omega)]
    rw [hall cs f e hn hsuffix hf he]
    refine hall _ f e ((run_take (hn ▸ (by omega : n ≤ n + f + e))).trans hn) ?_ ?_ ?_
    · rw [hdrop, List.head?_take]
      split
      · exact Bool.false_ne_true
      · exact hsuffix
    · rw [htake, hdrop, ← hf]
      split
      · rfl
      · next hold =>
        rw [if_neg hold] at hf
        exact fraction_take (by omega)
    · rw [hdrop, List.drop_take, Nat.add_sub_cancel_left, ← he, exponent_take]

theorem number_take : number (cs.take (number cs).length) = number cs := by
  -- a decimal stays one
  have hdecimal : ∀ cs, (∀ c r, cs = '0' :: c :: r → radixMark? c = none) →
      number cs = decimal cs := by
    intro cs h
    unfold number
    split
    · next c r => rw [h c r rfl]
    · rfl
  by_cases hmark : ∃ c r radix, cs = '0' :: c :: r ∧ radixMark? c = some radix
  · obtain ⟨c, r, radix, rfl, hradix⟩ := hmark
    have hall : ∀ r, number ('0' :: c :: r) = (radixDigits radix r).after 2 := fun r => by
      rw [number, hradix]
    rw [hall, after_length, Nat.add_comm, List.take_succ_cons, List.take_succ_cons, hall,
      radixDigits_take]
  · have hnone : ∀ c r, cs = '0' :: c :: r → radixMark? c = none := by
      intro c r hcs
      cases hradix : radixMark? c with
      | none => rfl
      | some radix => exact absurd ⟨c, r, radix, hcs, hradix⟩ hmark
    rw [hdecimal cs hnone]
    rw [hdecimal, decimal_take]
    intro c r hcs
    obtain ⟨t, ht⟩ := List.take_prefix (decimal cs).length cs
    exact hnone c (r ++ t) (by rw [← ht, hcs]; rfl)

theorem stable_number (cs : List Char) : Stable number cs := ⟨number_take, number_le cs⟩

/-- A number that starts with a point has a digit behind it. -/
theorem two_le_number {d : Char} (hd : isDecimalDigit d = true) (r : List Char) :
    2 ≤ (number ('.' :: d :: r)).length := by
  have hpart : isNumberPart 10 d = true := by
    rw [isNumberPart, Bool.or_eq_true]
    exact .inr hd
  have hrun : run (isNumberPart 10) (d :: r) = run (isNumberPart 10) r + 1 := by
    simp [run, hpart]
  have hnone : run (isNumberPart 10) ('.' :: d :: r) = 0 := by
    have : isNumberPart 10 '.' = false := by decide
    simp [run, this]
  show 2 ≤ (decimal ('.' :: d :: r)).length
  have hscan : decimal ('.' :: d :: r) = ⟨some .num, 0 + (1 + (run (isNumberPart 10) r + 1)) +
      exponent (('.' :: d :: r).drop (1 + (run (isNumberPart 10) r + 1)))⟩ := by
    rw [decimal, hnone, ← hrun]
    rfl
  rw [hscan]
  show 2 ≤ 0 + (1 + (run (isNumberPart 10) r + 1)) + _
  omega

/-! ### Delimited text -/

/-- A regular expression is closed where it was, whatever follows. -/
theorem regexRest_take {inClass : Bool} {n : Nat} (h : regexRest inClass cs = (true, n))
    (rest : List Char) : regexRest inClass (cs.take n ++ rest) = (true, n) ∧ n ≤ cs.length := by
  fun_induction regexRest inClass cs generalizing n with
  | case1 => cases h
  | case2 => cases h
  | case3 inClass c r hline => cases h
  | case4 inClass c r hline ok m heq ih =>
    obtain ⟨rfl, rfl⟩ := Prod.mk.inj h
    obtain ⟨ihrest, ihle⟩ := ih heq
    refine ⟨?_, by simp only [List.length_cons]; omega⟩
    rw [List.take_succ_cons, List.take_succ_cons, List.cons_append, List.cons_append, regexRest,
      if_neg hline, ihrest]
  | case5 inClass c r hlast hescape hslash =>
    obtain ⟨-, rfl⟩ := Prod.mk.inj h
    have hc : c ≠ '\\' := ne_backslash hlast hescape
    refine ⟨?_, by simp⟩
    rw [List.take_succ_cons, List.take_zero, List.singleton_append, regexRest_cons hc,
      if_pos hslash]
  | case6 inClass c r hlast hescape hslash hline => cases h
  | case7 inClass c r hlast hescape hslash hline ok m heq ih =>
    obtain ⟨rfl, rfl⟩ := Prod.mk.inj h
    have hc : c ≠ '\\' := ne_backslash hlast hescape
    obtain ⟨ihrest, ihle⟩ := ih heq
    refine ⟨?_, by simp only [List.length_cons]; omega⟩
    rw [List.take_succ_cons, List.cons_append, regexRest_cons hc, if_neg hslash, if_neg hline,
      ihrest]

/-- A string is closed where it was. -/
theorem stringRest_take {quote : Char} {n : Nat} (h : stringRest quote cs = (true, n)) :
    stringRest quote (cs.take n) = (true, n) ∧ n ≤ cs.length := by
  fun_induction stringRest quote cs generalizing n with
  | case1 => cases h
  | case2 => cases h
  | case3 r ok m heq ih =>
    obtain ⟨rfl, rfl⟩ := Prod.mk.inj h
    obtain ⟨ihrest, ihle⟩ := ih heq
    refine ⟨?_, by simp only [List.length_cons]; omega⟩
    simp only [List.take_succ_cons, stringRest, ihrest]
  | case4 d r hreturn ok m heq ih =>
    obtain ⟨rfl, rfl⟩ := Prod.mk.inj h
    obtain ⟨ihrest, ihle⟩ := ih heq
    refine ⟨?_, by simp only [List.length_cons]; omega⟩
    have hlinefeed : ∀ t, d = '\r' → r.take m = '\n' :: t → False := by
      intro t hd ht
      obtain ⟨u, hu⟩ := List.take_prefix m r
      exact hreturn (t ++ u) hd (by rw [← hu, ht]; rfl)
    rw [List.take_succ_cons, List.take_succ_cons, stringRest_escape hlinefeed, ihrest]
  | case5 c r hlast hreturn hescape hquote =>
    obtain ⟨-, rfl⟩ := Prod.mk.inj h
    have hc : c ≠ '\\' := ne_backslash hlast hescape
    refine ⟨?_, by simp⟩
    rw [List.take_succ_cons, List.take_zero, stringRest_cons hc, if_pos hquote]
  | case6 => cases h
  | case7 c r hlast hreturn hescape hquote hlinefeed ok m heq ih =>
    obtain ⟨rfl, rfl⟩ := Prod.mk.inj h
    have hc : c ≠ '\\' := ne_backslash hlast hescape
    obtain ⟨ihrest, ihle⟩ := ih heq
    refine ⟨?_, by simp only [List.length_cons]; omega⟩
    rw [List.take_succ_cons, stringRest_cons hc, if_neg hquote, if_neg hlinefeed, ihrest]

/-- The rest of a string behind its quote. -/
theorem stable_string {quote : Char} (h : (string quote cs).kind.isSome = true) :
    ∃ t, (∀ cs, string quote cs = (t cs).after 1) ∧ Stable t cs := by
  refine ⟨fun cs => ⟨(string quote cs).kind, (stringRest quote cs).2⟩, fun cs => ?_, ?_⟩
  · rw [after, Nat.add_comm]
    rfl
  · unfold string at h
    dsimp only at h
    obtain ⟨⟨ok, n⟩, hrest⟩ : ∃ x, stringRest quote cs = x := ⟨_, rfl⟩
    rw [hrest] at h
    cases ok with
    | false => exact absurd h Bool.false_ne_true
    | true =>
      obtain ⟨htake, hle⟩ := stringRest_take hrest
      refine ⟨?_, ?_⟩
      · simp only [string, hrest, htake]
      · simpa only [hrest] using hle

theorem stable_attributeString {quote : Char} (h : (attributeString quote cs).kind.isSome = true) :
    ∃ t, (∀ cs, attributeString quote cs = (t cs).after 1) ∧ Stable t cs := by
  refine ⟨fun cs => ⟨(attributeString quote cs).kind, (attributeString quote cs).length - 1⟩,
    fun cs => eq_after ?_, ?_⟩
  · unfold attributeString
    dsimp only
    split <;> exact Nat.succ_pos _
  · have hlt : run (· != quote) cs < cs.length := by
      unfold attributeString at h
      dsimp only at h
      split at h
      · assumption
      · exact absurd h Bool.false_ne_true
    have hlength : ∀ cs, run (· != quote) cs < cs.length →
        attributeString quote cs = ⟨some .str, run (· != quote) cs + 2⟩ := fun cs hcs => if_pos hcs
    have htake : run (· != quote) (cs.take (run (· != quote) cs + 1)) = run (· != quote) cs :=
      run_take (Nat.le_succ _)
    refine ⟨?_, ?_⟩
    · simp only [hlength cs hlt]
      rw [hlength]
      · rw [show run (· != quote) cs + 2 - 1 = run (· != quote) cs + 1 from rfl, htake]
        rfl
      · rw [show run (· != quote) cs + 2 - 1 = run (· != quote) cs + 1 from rfl, htake,
          List.length_take, Nat.min_eq_left hlt]
        exact Nat.lt_succ_self _
    · simp only [hlength cs hlt]
      exact hlt

theorem stable_regex (h : (regex cs).kind.isSome = true) :
    ∃ t, (∀ cs, regex cs = (t cs).after 1) ∧ Stable t cs := by
  refine ⟨fun cs => ⟨(regex cs).kind, (regex cs).length - 1⟩,
    fun cs => eq_after ?_, ?_⟩
  · unfold regex
    split <;> (dsimp only; omega)
  · obtain ⟨⟨ok, n⟩, hrest⟩ : ∃ x, regexRest false cs = x := ⟨_, rfl⟩
    have hall : ∀ {cs n}, regexRest false cs = (true, n) →
        regex cs = ⟨some .regex, n + 1 + run isIdContinue (cs.drop n)⟩ := fun hrest => by
      rw [regex, hrest]
    cases ok with
    | false =>
      unfold regex at h
      rw [hrest] at h
      exact absurd h Bool.false_ne_true
    | true =>
      obtain ⟨hagain, hle⟩ := regexRest_take hrest
        ((cs.drop n).take (run isIdContinue (cs.drop n)))
      rw [← List.take_add] at hagain
      have hlength : (regex cs).length - 1 = n + run isIdContinue (cs.drop n) := by
        rw [hall hrest]
        show n + 1 + _ - 1 = _
        omega
      have hdrop : (cs.take (n + run isIdContinue (cs.drop n))).drop n =
          (cs.drop n).take (run isIdContinue (cs.drop n)) := by
        rw [List.drop_take, Nat.add_sub_cancel_left]
      refine ⟨?_, ?_⟩
      · simp only [hlength]
        rw [hall hagain, hall hrest, hdrop, run_take (Nat.le_refl _)]
        simp only [Scan.mk.injEq, true_and]
        omega
      · simp only [hlength]
        have := run_le isIdContinue (cs.drop n)
        rw [List.length_drop] at this
        omega

theorem stable_template (h : (template cs).kind.isSome = true) : Stable template cs := by
  obtain ⟨kind, hkind⟩ := Option.isSome_iff_exists.mp h
  obtain ⟨raw, rest, hraw, ⟨rfl, rfl, hlength⟩ | ⟨rfl, rfl, hlength⟩⟩ := template_eq hkind
  · refine ⟨?_, ?_⟩
    · rw [hlength, (hraw rest).1, List.take_length_add_append]
      exact (hraw []).1
    · rw [hlength, List.length_append, List.length_cons]
      omega
  · refine ⟨?_, ?_⟩
    · rw [hlength, (hraw rest).2, List.take_length_add_append]
      exact (hraw []).2
    · rw [hlength, List.length_append, List.length_cons, List.length_cons]
      omega

/-! ### Words and signs -/

theorem stable_privateName (h : (privateName cs).kind.isSome = true) : Stable privateName cs := by
  cases cs with
  | nil => exact absurd h Bool.false_ne_true
  | cons c r =>
    by_cases hc : isIdStart c = true
    · have hall : ∀ r, privateName (c :: r) = ⟨some .privateName, run isIdContinue (c :: r)⟩ :=
        fun r => if_pos hc
      have hcontinue : isIdContinue c = true := by simp [isIdContinue, hc]
      have hrun : ∀ r, run isIdContinue (c :: r) = run isIdContinue r + 1 := fun r => by
        simp [run, hcontinue]
      refine ⟨?_, ?_⟩
      · rw [hall, hrun, List.take_succ_cons, hall, hrun, run_take (Nat.le_refl _)]
      · rw [hall]
        exact run_le _ _
    · have hnone : privateName (c :: r) = ⟨none, 0⟩ := if_neg hc
      rw [hnone] at h
      exact absurd h Bool.false_ne_true

theorem longest?_chars (p : Punctuator) : Punctuator.longest? p.chars = some p := by
  have h : Punctuator.longest? (p.chars ++ []) = some p :=
    Punctuator.longest?_append fun _ hc => by cases hc
  rwa [List.append_nil] at h

theorem stable_punctuator (h : (punctuator cs).kind.isSome = true) : Stable punctuator cs := by
  cases hp : Punctuator.longest? cs with
  | none =>
    unfold punctuator at h
    rw [hp] at h
    exact absurd h Bool.false_ne_true
  | some p =>
    obtain ⟨r, rfl⟩ := prefix_of_longest? hp
    have hchars : (p.chars ++ r).take p.chars.length = p.chars := List.take_left
    by_cases hlong : punctuator (p.chars ++ r) = ⟨some (.punct p), p.chars.length⟩
    · refine ⟨?_, ?_⟩
      · rw [hlong, hchars]
        unfold punctuator
        rw [longest?_chars]
        cases p <;> rfl
      · rw [hlong, List.length_append]
        exact Nat.le_add_right _ _
    · -- only a question mark is read for less than the longest sign
      obtain rfl : p = .questionDot := by
        by_contra hne
        refine hlong ?_
        unfold punctuator
        rw [hp]
        cases p <;> first | rfl | exact absurd rfl hne
      have hshort : punctuator ('?' :: '.' :: r) = ⟨some (.punct .question), 1⟩ := by
        have hp : Punctuator.longest? ('?' :: '.' :: r) = some .questionDot := hp
        have hlong : punctuator ('?' :: '.' :: r) ≠ ⟨some (.punct .questionDot), 2⟩ := hlong
        unfold punctuator at hlong ⊢
        rw [hp] at hlong ⊢
        dsimp only at hlong ⊢
        split
        · rfl
        · next hdigit => exact absurd (if_neg hdigit) hlong
      show Stable punctuator ('?' :: '.' :: r)
      refine ⟨?_, ?_⟩
      · rw [hshort]
        rfl
      · rw [hshort]
        exact Nat.succ_le_succ (Nat.zero_le _)

theorem stable_word {inTag : Bool} (h : (word inTag cs).kind.isSome = true) :
    Stable (word inTag) cs := by
  obtain ⟨⟨n, escaped, ok⟩, hrun⟩ :
      ∃ x, nameRun (if inTag = true then isTagNameContinue else isIdContinue) cs = x := ⟨_, rfl⟩
  cases ok with
  | false =>
    unfold word at h
    rw [hrun] at h
    exact absurd h Bool.false_ne_true
  | true =>
    obtain ⟨hagain, hle⟩ : nameRun _ (cs.take n ++ []) = (n, escaped, true) ∧ n ≤ cs.length :=
      nameRun_take hrun (by simp)
    rw [List.append_nil] at hagain
    have hlength : (word inTag cs).length = n := by
      unfold word
      rw [hrun]
      dsimp only
      split
      · rfl
      · split <;> rfl
    refine ⟨?_, hlength ▸ hle⟩
    rw [hlength]
    unfold word
    rw [hagain, hrun]
    dsimp only
    rw [List.take_take, Nat.min_self]

/-! ### All tokens -/

theorem stable_ordinary (h : (ordinary mode cs).kind.isSome = true) :
    Stable (ordinary mode) cs := by
  cases cs with
  | nil => exact ⟨rfl, Nat.le_refl 0⟩
  | cons c r =>
    have hcons : ∀ r, ordinary mode (c :: r) =
        if (c == '"' || c == '\'') = true then
          if (mode == .jsxTag) = true then attributeString c r else string c r
        else if (c == '\x60') = true then (template r).after 1
        else if isDecimalDigit c = true then number (c :: r)
        else if (c == '.' && (r.head?.map isDecimalDigit).getD false) = true then number (c :: r)
        else if (c == '#') = true then (privateName r).after 1
        else if (c == '/' && mode == .operand) = true then regex r
        else if (c == '\\' || isIdStart c) = true then word (mode == .jsxTag) (c :: r)
        else punctuator (c :: r) := fun _ => rfl
    -- the first character settles what reads the rest
    have hafter : ∀ {s : List Char → Scan}, (∀ r, ordinary mode (c :: r) = s r) →
        (∃ t, (∀ cs, s cs = (t cs).after 1) ∧ Stable t r) → Stable (ordinary mode) (c :: r) := by
      rintro s hs ⟨t, ht, hstable⟩
      exact hstable.after [c] fun cs => (hs cs).trans (ht cs)
    -- what reads the text reads it again
    have hsame : ∀ {s : List Char → Scan}, ordinary mode (c :: r) = s (c :: r) →
        (∀ n, (s (c :: r)).length = n + 1 → ordinary mode (c :: r.take n) = s (c :: r.take n)) →
        Stable s (c :: r) → Stable (ordinary mode) (c :: r) := by
      intro s hs htake hstable
      obtain ⟨n, hn⟩ := Nat.exists_eq_succ_of_ne_zero (ordinary_pos mode c r).ne'
      rw [hs] at hn
      have hagain := hstable.again
      rw [hn, List.take_succ_cons] at hagain
      refine ⟨?_, ?_⟩
      · rw [hs, hn, List.take_succ_cons, htake n hn, hagain]
      · rw [hs]
        exact hstable.le
    by_cases hquote : (c == '"' || c == '\'') = true
    · by_cases htag : (mode == .jsxTag) = true
      · have hall : ∀ r, ordinary mode (c :: r) = attributeString c r := fun r => by
          rw [hcons, if_pos hquote, if_pos htag]
        rw [hall] at h
        exact hafter hall (stable_attributeString h)
      · have hall : ∀ r, ordinary mode (c :: r) = string c r := fun r => by
          rw [hcons, if_pos hquote, if_neg htag]
        rw [hall] at h
        exact hafter hall (stable_string h)
    simp only [if_neg hquote] at hcons
    by_cases hback : (c == '\x60') = true
    · simp only [if_pos hback] at hcons
      rw [hcons] at h
      exact hafter hcons ⟨template, fun _ => rfl, stable_template h⟩
    simp only [if_neg hback] at hcons
    by_cases hdigit : isDecimalDigit c = true
    · simp only [if_pos hdigit] at hcons
      exact hsame (hcons r) (fun _ _ => hcons _) (stable_number _)
    simp only [if_neg hdigit] at hcons
    by_cases hdot : (c == '.' && (r.head?.map isDecimalDigit).getD false) = true
    · rw [Bool.and_eq_true, beq_iff_eq] at hdot
      obtain ⟨rfl, hnumber⟩ := hdot
      have hall : ∀ r, (r.head?.map isDecimalDigit).getD false = true →
          ordinary mode ('.' :: r) = number ('.' :: r) := fun r hr => by
        rw [hcons, if_pos (by rw [hr]; rfl)]
      refine hsame (hall r hnumber) (fun n hn => hall _ ?_) (stable_number _)
      cases r with
      | nil => exact absurd hnumber Bool.false_ne_true
      | cons d r =>
        obtain ⟨m, rfl⟩ : ∃ m, n = m + 1 := by
          have := two_le_number hnumber r
          exact ⟨n - 1, by omega⟩
        exact hnumber
    have hplain : ∀ n, ¬(c == '.' && ((r.take n).head?.map isDecimalDigit).getD false) = true := by
      intro n hn
      rw [List.head?_take] at hn
      split at hn
      · rw [Bool.and_eq_true] at hn
        exact absurd hn.2 Bool.false_ne_true
      · exact hdot hn
    by_cases hhash : (c == '#') = true
    · obtain rfl : c = '#' := beq_iff_eq.mp hhash
      exact hafter (fun _ => rfl) ⟨privateName, fun _ => rfl, stable_privateName h⟩
    by_cases hslash : (c == '/' && mode == .operand) = true
    · obtain ⟨rfl, hmode⟩ : c = '/' ∧ mode = .operand := by simpa using hslash
      subst hmode
      exact hafter (fun _ => rfl) (stable_regex h)
    -- a word or a sign, and no digit comes to stand behind a point
    have hshort : ∀ n, ordinary mode (c :: r.take n) =
        if (c == '\\' || isIdStart c) = true then word (mode == .jsxTag) (c :: r.take n)
        else punctuator (c :: r.take n) := fun n => by
      rw [hcons, if_neg (hplain n), if_neg hhash, if_neg hslash]
    have hall := hshort r.length
    rw [List.take_length] at hall
    by_cases hword : (c == '\\' || isIdStart c) = true
    · simp only [if_pos hword] at hshort hall
      rw [hall] at h
      exact hsame hall (fun n _ => hshort n) (stable_word h)
    · simp only [if_neg hword] at hshort hall
      rw [hall] at h
      exact hsame hall (fun n _ => hshort n) (stable_punctuator h)

theorem jsxText_text {c : Char} (hbrace : c ≠ '{') (hangle : c ≠ '<') (r : List Char) :
    jsxText (c :: r) = ⟨some .jsxText, run (fun c => c != '{' && c != '<') r + 1⟩ := by
  have htext : jsxText (c :: r) =
      ⟨some .jsxText, run (fun c => c != '{' && c != '<') (c :: r)⟩ := by
    unfold jsxText
    split <;> simp_all
  rw [htext]
  simp [run, hbrace, hangle]

theorem stable_jsxText (cs : List Char) : Stable jsxText cs := by
  cases cs with
  | nil => exact ⟨rfl, Nat.le_refl 0⟩
  | cons c r =>
    by_cases hbrace : c = '{'
    · subst hbrace
      exact ⟨rfl, Nat.succ_le_succ (Nat.zero_le _)⟩
    by_cases hangle : c = '<'
    · subst hangle
      by_cases hslash : ∃ t, r = '/' :: t
      · obtain ⟨t, rfl⟩ := hslash
        exact ⟨rfl, Nat.succ_le_succ (Nat.succ_le_succ (Nat.zero_le _))⟩
      · have hopen : jsxText ('<' :: r) = ⟨some (.punct .lt), 1⟩ := by
          unfold jsxText
          split <;> simp_all
        refine ⟨?_, ?_⟩
        · rw [hopen]
          rfl
        · rw [hopen]
          exact Nat.succ_le_succ (Nat.zero_le _)
    have htext := jsxText_text hbrace hangle
    refine ⟨?_, ?_⟩
    · rw [htext r, List.take_succ_cons, htext, run_take (Nat.le_refl _)]
    · rw [htext r]
      exact Nat.succ_le_succ (run_le _ r)

end Scan

/-- **A token that was cut off is read as it was.** -/
theorem scan_take (h : (scan mode cs).kind.isSome = true) :
    scan mode (cs.take (scan mode cs).length) = scan mode cs ∧
      (scan mode cs).length ≤ cs.length := by
  have hstable : Scan.Stable (scan mode) cs := by
    cases mode with
    | jsxText => exact Scan.stable_jsxText cs
    | templateTail => exact Scan.stable_template h
    | _ => exact Scan.stable_ordinary h
  exact ⟨hstable.again, hstable.le⟩

/-- **A text is a token of some source if it is one by itself.** -/
theorem isToken_iff :
    IsToken mode kind text ↔ scan mode text.toList = ⟨some kind, text.toList.length⟩ := by
  constructor
  · rintro ⟨cs, hkind, rfl⟩
    obtain ⟨hagain, hle⟩ := scan_take (hkind ▸ rfl : (scan mode cs).kind.isSome = true)
    rw [String.toList_ofList, hagain, List.length_take, Nat.min_eq_left hle, ← hkind]
  · intro h
    refine ⟨text.toList, by rw [h], ?_⟩
    rw [h, List.take_length, String.ofList_toList]

instance : Decidable (IsToken mode kind text) := decidable_of_iff _ isToken_iff.symm

theorem IsToken.isWhole (h : IsToken .standard kind text) : IsWhole kind text := isToken_iff.mp h

end ImportSeam
