import ImportSeam.Proofs.Reread.Lexeme

/-!
# Text that is closed before a tail

A pattern that ends with its closing bracket or brace may stand at the end of a source or in front of
an assignment.  Reading goes on in the same way in both: a token either ends inside the pattern, where
it does not see what follows, or it takes everything that is left, closed or not.

## Main definitions

* `IsTail` — nothing, or the rest of an assignment in parentheses.
* `Shut` — a text that ends with a closing bracket or brace.
* `Scan.Grows` — a token in front of nothing and the same token in front of a tail.

## Main results

* `Scan.grows_scan` — every token is read alike with and without a tail.
-/

namespace ImportSeam

open Text

/-- What follows a pattern that is assigned to. -/
def assigning : List Char := [' ', '=', ' ', 'x', ')']

/-- Nothing, or what follows a pattern that is assigned to. -/
def IsTail (w : List Char) : Prop := w = [] ∨ w = assigning

/-- What holds of the characters of an assignment holds of those of a tail. -/
theorem IsTail.forall {w : List Char} {p : Char → Bool} (hw : IsTail w)
    (hp : assigning.all p = true) : ∀ c ∈ w, p c = true := by
  rcases hw with rfl | rfl
  · simp
  · exact List.all_eq_true.mp hp

/-- A closing bracket or brace. -/
def Closes (c : Char) : Prop := c = ']' ∨ c = '}'

/-- The text ends with a closing bracket or brace. -/
def Shut (u : List Char) : Prop := ∃ v c, u = v ++ [c] ∧ Closes c

namespace Shut

variable {c : Char} {u v r : List Char}

theorem ne_nil (h : Shut u) : u ≠ [] := by
  obtain ⟨v, c, rfl, -⟩ := h
  simp

theorem length_pos (h : Shut u) : 0 < u.length := List.length_pos_iff.mpr h.ne_nil

/-- What is left of a closed text is nothing or closed. -/
theorem suffix (h : Shut u) (hv : v <:+ u) : v = [] ∨ Shut v := by
  obtain ⟨x, c, rfl, hc⟩ := h
  rcases List.eq_nil_or_concat v with rfl | ⟨y, d, rfl⟩
  · exact .inl rfl
  · obtain ⟨z, hz⟩ := hv
    rw [List.concat_eq_append] at hz ⊢
    rw [← List.append_assoc] at hz
    obtain ⟨-, hd⟩ := List.append_inj' hz rfl
    obtain rfl := (List.cons.inj hd).1
    exact .inr ⟨y, d, rfl, hc⟩

theorem drop (h : Shut u) {n : Nat} (hn : n < u.length) : Shut (u.drop n) := by
  rcases h.suffix (List.drop_suffix n u) with hnil | hshut
  · have := List.drop_eq_nil_iff.mp hnil
    omega
  · exact hshut

/-- Only a closing character ends the text. -/
theorem tail (h : Shut (c :: r)) (hc : ¬Closes c) : Shut r := by
  rcases h.suffix (List.suffix_cons c r) with rfl | hr
  · obtain ⟨v, d, hv, hd⟩ := h
    cases v with
    | nil =>
      obtain rfl := (List.cons.inj hv).1
      exact absurd hd hc
    | cons e v => simp at hv
  · exact hr

theorem getLast? (h : Shut u) : u.getLast? = some ']' ∨ u.getLast? = some '}' := by
  obtain ⟨v, c, rfl, rfl | rfl⟩ := h <;> simp

theorem not_all (h : Shut u) {p : Char → Bool} (hp : ∀ c, Closes c → p c = false) :
    ∃ c ∈ u, p c = false := by
  obtain ⟨v, c, rfl, hc⟩ := h
  exact ⟨c, by simp, hp c hc⟩

end Shut

/-- A predicate that holds of neither closing character. -/
theorem closes_of {p : Char → Bool} (hbracket : p ']' = false) (hbrace : p '}' = false) :
    ∀ c, Closes c → p c = false := by
  rintro c (rfl | rfl)
  · exact hbracket
  · exact hbrace

theorem not_closes_of {p : Char → Bool} {c : Char} (hp : ∀ d, Closes d → p d = false)
    (hc : p c = true) : ¬Closes c := fun h => Bool.false_ne_true ((hp c h).symm.trans hc)

namespace Scan

variable {u w : List Char}

/-! ### Runs of characters -/

theorem run_append_of_mem {p : Char → Bool} (h : ∃ c ∈ u, p c = false) (w : List Char) :
    run p (u ++ w) = run p u ∧ run p u < u.length := by
  induction u with
  | nil =>
    obtain ⟨c, hc, -⟩ := h
    exact nomatch hc
  | cons d u ih =>
    by_cases hd : p d = true
    · obtain ⟨c, hc, hpc⟩ := h
      have hmem : ∃ c ∈ u, p c = false := by
        refine ⟨c, (List.mem_cons.mp hc).resolve_left ?_, hpc⟩
        rintro rfl
        exact Bool.false_ne_true (hpc.symm.trans hd)
      obtain ⟨hrun, hlt⟩ := ih hmem
      simp only [run, List.cons_append, List.takeWhile_cons, if_pos hd, List.length_cons] at hrun hlt ⊢
      exact ⟨congrArg (· + 1) hrun, Nat.succ_lt_succ hlt⟩
    · simp [run, hd]

/-- A run of characters that no closing one belongs to ends inside a closed text. -/
theorem run_shut {p : Char → Bool} (hu : Shut u) (hp : ∀ c, Closes c → p c = false)
    (w : List Char) : run p (u ++ w) = run p u ∧ run p u < u.length :=
  run_append_of_mem (hu.not_all hp) w

/-- A run goes on to the end if every character belongs to it. -/
theorem run_of_forall {p : Char → Bool} {cs : List Char} (h : ∀ c ∈ cs, p c = true) :
    run p cs = cs.length := by
  rw [run, List.takeWhile_eq_self_iff.mpr h]

theorem closes_hexDigit : ∀ c, Closes c → isHexDigit c = false := closes_of (by decide) (by decide)

theorem closes_idContinue : ∀ c, Closes c → isIdContinue c = false :=
  closes_of (by decide) (by decide)

theorem closes_tagNameContinue : ∀ c, Closes c → isTagNameContinue c = false :=
  closes_of (by decide) (by decide)

theorem closes_numberPart {radix : Nat} (h : radix ≤ 16) :
    ∀ c, Closes c → isNumberPart radix c = false := by
  refine closes_of ?_ ?_ <;> (revert h; revert radix; decide)

theorem closes_decimalPart : ∀ c, Closes c → isNumberPart 10 c = false :=
  closes_numberPart (by decide)

/-! ### Names -/

/-- The first four characters hold as many leading hexadecimal digits. -/
theorem run_take_shut {p : Char → Bool} (hu : Shut u) (hp : ∀ c, Closes c → p c = false) (n : Nat)
    (w : List Char) : run p ((u ++ w).take n) = run p (u.take n) ∧
      (run p (u.take n) = n ∨ run p (u.take n) < u.length) := by
  rcases Nat.lt_or_ge u.length n with hlt | hle
  · rw [List.take_append, List.take_of_length_le (Nat.le_of_lt hlt)]
    obtain ⟨hrun, hlen⟩ := run_shut hu hp (w.take (n - u.length))
    exact ⟨hrun, .inr hlen⟩
  · have hmost : run p (u.take n) ≤ (u.take n).length := (List.takeWhile_prefix _).length_le
    rw [List.length_take] at hmost
    rw [List.take_append_of_le_length hle]
    refine ⟨rfl, ?_⟩
    omega

theorem head?_drop_append {n : Nat} (hn : n < u.length) (w : List Char) :
    ((u ++ w).drop n).head? = (u.drop n).head? := by
  rw [List.head?_drop, List.head?_drop, List.getElem?_append_left hn]

/-- An escape in a name is read alike in front of a tail. -/
theorem nameEscape_shut {r : List Char} (h : Shut r) (w : List Char) :
    nameEscape (r ++ w) = nameEscape r ∧ (nameEscape r).2 ≤ r.length := by
  obtain ⟨c, r, rfl⟩ := List.exists_cons_of_ne_nil h.ne_nil
  by_cases hu : c = 'u'
  · subst hu
    have hr : Shut r := h.tail (by simp [Closes])
    obtain ⟨d, t, rfl⟩ := List.exists_cons_of_ne_nil hr.ne_nil
    by_cases hbrace : d = '{'
    · subst hbrace
      obtain ⟨hrun, hlt⟩ := run_shut (hr.tail (by simp [Closes])) closes_hexDigit w
      simp only [List.cons_append, nameEscape, hrun, head?_drop_append hlt, List.length_cons,
        true_and]
      split <;> simp only <;> omega
    · have hnot : ∀ r t', d :: r = '{' :: t' → False := fun r t' ht => hbrace (List.cons.inj ht).1
      have hunfold : ∀ r, nameEscape ('u' :: d :: r) =
          if run isHexDigit ((d :: r).take 4) == 4 then (true, 5)
          else (false, 1 + min (run isHexDigit ((d :: r).take 4) + 1) (d :: r).length) := fun r => by
        rw [nameEscape]
        exact hnot r
      obtain ⟨hrun, hcases⟩ := run_take_shut hr closes_hexDigit 4 w
      rw [List.cons_append] at hrun
      have hmost : run isHexDigit ((d :: t).take 4) ≤ (d :: t).length :=
        Nat.le_trans (List.takeWhile_prefix _).length_le (List.take_prefix _ _).length_le
      rw [List.cons_append, List.cons_append, hunfold, hunfold, hrun]
      simp only [List.length_cons, List.length_append] at hcases hmost ⊢
      split
      · next hfour =>
        rw [beq_iff_eq] at hfour
        exact ⟨rfl, by simp only; omega⟩
      · next hfour =>
        rw [beq_iff_eq] at hfour
        refine ⟨?_, by simp only; omega⟩
        congr 2
        omega
  · have hunfold : ∀ r, nameEscape (c :: r) = (false, min 1 (c :: r).length) := fun r => by
      unfold nameEscape
      split
      · next heq => exact absurd (List.cons.inj heq).1 hu
      · next heq => exact absurd (List.cons.inj heq).1 hu
      · rfl
    rw [List.cons_append, hunfold, hunfold]
    simp

/-- No name goes on with a tail. -/
theorem nameRun_tail {p : Char → Bool} (hp : p ' ' = false) (hw : IsTail w) :
    nameRun p w = (0, false, true) := by
  rcases hw with rfl | rfl
  · rw [nameRun]
  · rw [assigning, nameRun.eq_def]
    simp [hp]

/-- A name is read alike in front of a tail.  Only an escape can take the last character of a closed
text. -/
theorem nameRun_shut {p : Char → Bool} (hp : ∀ c, Closes c → p c = false) (hblank : p ' ' = false)
    (hw : IsTail w) : ∀ {u : List Char}, u = [] ∨ Shut u →
      nameRun p (u ++ w) = nameRun p u ∧ (nameRun p u).1 ≤ u.length ∧
        (u ≠ [] → (nameRun p u).1 = u.length → (nameRun p u).2.1 = true) := by
  intro u hu
  fun_induction nameRun p u with
  | case1 => exact ⟨nameRun_tail hblank hw, Nat.le_refl 0, fun h => absurd rfl h⟩
  | case2 r k hk =>
    have hr : Shut r := (hu.resolve_left (List.cons_ne_nil _ _)).tail (by simp [Closes])
    obtain ⟨hescape, hle⟩ := nameEscape_shut hr w
    rw [hk] at hescape hle
    rw [List.cons_append, nameRun, hescape]
    exact ⟨rfl, Nat.succ_le_succ hle, fun _ _ => rfl⟩
  | case3 r k hk m e ok hm ih =>
    have hr : Shut r := (hu.resolve_left (List.cons_ne_nil _ _)).tail (by simp [Closes])
    obtain ⟨hescape, hle⟩ := nameEscape_shut hr w
    rw [hk] at hescape hle
    have hdrop : (r ++ w).drop k = r.drop k ++ w := List.drop_append_of_le_length hle
    obtain ⟨hrun, hlen, -⟩ := ih (hr.suffix (List.drop_suffix k r))
    rw [hm, List.length_drop] at hlen
    rw [List.cons_append, nameRun_escape hescape, hdrop, hrun, hm]
    refine ⟨rfl, ?_, fun _ _ => rfl⟩
    simp only [List.length_cons] at hle hlen ⊢
    omega
  | case4 c r hb hc m e ok hm ih =>
    have hr : Shut r :=
      (hu.resolve_left (List.cons_ne_nil _ _)).tail fun h => Bool.false_ne_true ((hp c h).symm.trans hc)
    obtain ⟨hrun, hlen, hescaped⟩ := ih (.inr hr)
    rw [hm] at hlen hescaped
    rw [List.cons_append, nameRun_cons _ hb hc, hrun, hm]
    exact ⟨rfl, Nat.succ_le_succ hlen, fun _ h => hescaped hr.ne_nil (Nat.succ.inj h)⟩
  | case5 c r hb hc =>
    rw [List.cons_append, nameRun.eq_def]
    refine ⟨?_, Nat.zero_le _, fun _ h => absurd h.symm (Nat.succ_ne_zero _)⟩
    split
    · next heq => exact absurd heq (List.cons_ne_nil _ _)
    · next heq => exact absurd (List.cons.inj heq).1 hb
    · next heq =>
      obtain ⟨rfl, rfl⟩ := List.cons.inj heq
      rw [if_neg hc]

/-! ### A token and what follows -/

/-- A token that is read from a text, and the one that is read if the tail follows.  They are the same
and end inside the text; or they are the same and end with it, being a closing sign, a name or
malformed; or each takes everything that is left and is not a proper token. -/
inductive Grows (u w : List Char) (s s' : Scan) : Prop
  | inside (h : s' = s) (hlt : s.length < u.length)
  | whole (h : s' = s) (hlen : s.length = u.length)
      (hkind : s.kind ∈ [none, some .ident, some (.punct .rBracket), some (.punct .rBrace)])
  | beyond (h : s'.kind = s.kind) (hkind : s.kind = none ∨ s.kind = some .jsxText)
      (hlen : s.length = u.length) (hlen' : s'.length = u.length + w.length)

theorem Grows.after {s s' : Scan} (h : Grows u w s s') (pre : List Char) :
    Grows (pre ++ u) w (s.after pre.length) (s'.after pre.length) := by
  cases h with
  | inside h hlt =>
    subst h
    exact .inside rfl (by simpa using hlt)
  | whole h hlen hkind =>
    subst h
    exact .whole rfl (by simpa using hlen) hkind
  | beyond h hkind hlen hlen' =>
    refine .beyond h hkind (by simpa using hlen) ?_
    rw [after_length, hlen', List.length_append, Nat.add_assoc]

theorem Grows.of_inside {s s' : Scan} (h : s' = s ∧ s.length < u.length) : Grows u w s s' :=
  .inside h.1 h.2

/-- A token that is the same with and without the tail and does not pass the end of the text. -/
theorem Grows.of_le {s s' : Scan} (h : s' = s) (hle : s.length ≤ u.length)
    (hkind : s.length = u.length →
      s.kind ∈ [none, some .ident, some (.punct .rBracket), some (.punct .rBrace)]) :
    Grows u w s s' := by
  rcases Nat.lt_or_eq_of_le hle with hlt | heq
  · exact .inside h hlt
  · exact .whole h heq (hkind heq)

theorem grows_word (inTag : Bool) (hu : Shut u) (hw : IsTail w) :
    Grows u w (word inTag u) (word inTag (u ++ w)) := by
  have hp : ∀ c, Closes c → (if inTag then isTagNameContinue else isIdContinue) c = false := by
    cases inTag
    · exact closes_idContinue
    · exact closes_tagNameContinue
  have hblank : (if inTag then isTagNameContinue else isIdContinue) ' ' = false := by
    cases inTag <;> decide
  obtain ⟨hrun, hle, hescaped⟩ := nameRun_shut hp hblank hw (.inr hu)
  unfold word
  rw [hrun]
  generalize nameRun (if inTag then isTagNameContinue else isIdContinue) u = x at hle hescaped
  obtain ⟨n, escaped, ok⟩ := x
  have htake : (u ++ w).take n = u.take n := List.take_append_of_le_length hle
  cases ok with
  | false => exact .of_le rfl hle fun _ => by simp
  | true =>
    simp only [htake]
    refine .of_le rfl ?_ fun hn => ?_
    · split
      · exact hle
      · split <;> exact hle
    · -- what takes the last character is an escape, so the word is no keyword
      have hlen : n = u.length := by
        revert hn
        split
        · exact id
        · split <;> exact id
      obtain rfl : escaped = true := hescaped hu.ne_nil hlen
      simp

theorem grows_privateName (hu : Shut u) (w : List Char) :
    Grows u w (privateName u) (privateName (u ++ w)) := by
  obtain ⟨c, r, rfl⟩ := List.exists_cons_of_ne_nil hu.ne_nil
  obtain ⟨hrun, hlt⟩ := run_shut hu closes_idContinue w
  refine .inside ?_ ?_
  · simp only [List.cons_append] at hrun ⊢
    simp only [privateName, hrun]
  · rw [privateName]
    split
    · exact hlt
    · exact Nat.succ_pos _

/-! ### Numbers -/

theorem drop_append_shut (hu : Shut u) {n : Nat} (hn : n < u.length) (w : List Char) :
    (u ++ w).drop n = u.drop n ++ w ∧ Shut (u.drop n) :=
  ⟨List.drop_append_of_le_length (Nat.le_of_lt hn), hu.drop hn⟩

theorem head?_append_shut (hu : Shut u) (w : List Char) : (u ++ w).head? = u.head? := by
  obtain ⟨c, r, rfl⟩ := List.exists_cons_of_ne_nil hu.ne_nil
  rfl

/-- A closed text that starts with another character goes on. -/
theorem drop_lt_of_head? {c : Char} {n : Nat} (hu : Shut u) (hc : ¬Closes c)
    (h : (u.drop n).head? = some c) : n + 1 < u.length := by
  obtain ⟨t, ht⟩ := List.head?_eq_some_iff.mp h
  have hshut : Shut (u.drop n) :=
    (hu.suffix (List.drop_suffix n u)).resolve_left (by rw [ht]; exact List.cons_ne_nil _ _)
  rw [ht] at hshut
  have hlen := congrArg List.length ht
  have hpos := (hshut.tail hc).length_pos
  rw [List.length_drop, List.length_cons] at hlen
  omega

theorem radixDigits_shut {radix : Nat} (h : radix ≤ 16) (hu : Shut u) (w : List Char) :
    radixDigits radix (u ++ w) = radixDigits radix u ∧ (radixDigits radix u).length < u.length := by
  obtain ⟨hrun, hlt⟩ := run_shut hu (closes_numberPart h) w
  unfold radixDigits
  simp only [hrun, head?_drop_append hlt, true_and]
  split
  · next hn => exact drop_lt_of_head? (c := 'n') hu (by simp [Closes]) (by simpa using hn)
  · exact hlt

theorem exponent_eq_zero {c : Char} (hc : (c == 'e' || c == 'E') = false) (r : List Char) :
    exponent (c :: r) = 0 := by
  cases r <;> simp [exponent, hc]

theorem exponent_shut (hu : Shut u) (w : List Char) :
    exponent (u ++ w) = exponent u ∧ exponent u < u.length := by
  obtain ⟨c, r, rfl⟩ := List.exists_cons_of_ne_nil hu.ne_nil
  rw [List.cons_append]
  cases hc : c == 'e' || c == 'E' with
  | false =>
    rw [exponent_eq_zero hc, exponent_eq_zero hc]
    exact ⟨rfl, Nat.succ_pos _⟩
  | true =>
    have hletter : ∀ d, Closes d → (d == 'e' || d == 'E') = false :=
      closes_of (by decide) (by decide)
    have hr : Shut r := hu.tail (not_closes_of hletter hc)
    obtain ⟨s, t, rfl⟩ := List.exists_cons_of_ne_nil hr.ne_nil
    cases hs : s == '+' || s == '-' with
    | true =>
      have hsign : ∀ d, Closes d → (d == '+' || d == '-') = false :=
        closes_of (by decide) (by decide)
      have ht : Shut t := hr.tail (not_closes_of hsign hs)
      obtain ⟨hrun, hlt⟩ := run_shut ht closes_decimalPart w
      simp only [List.cons_append, exponent, hc, hs, if_true, hrun, List.length_cons, true_and]
      omega
    | false =>
      obtain ⟨hrun, hlt⟩ := run_shut hr closes_decimalPart w
      simp only [List.cons_append] at hrun
      simp only [List.cons_append, exponent, hc, hs, if_true, Bool.false_eq_true, if_false, hrun,
        List.length_cons, true_and] at hlt ⊢
      omega

theorem fraction_shut (hu : Shut u) (w : List Char) :
    fraction (u ++ w) = fraction u ∧ fraction u < u.length := by
  obtain ⟨c, r, rfl⟩ := List.exists_cons_of_ne_nil hu.ne_nil
  rw [List.cons_append]
  by_cases hc : c = '.'
  · subst hc
    obtain ⟨hrun, hlt⟩ := run_shut (hu.tail (by simp [Closes])) closes_decimalPart w
    simp only [fraction, hrun, List.length_cons, true_and]
    omega
  · have hnone : ∀ r, fraction (c :: r) = 0 := fun r => by
      unfold fraction
      split
      · next heq => exact absurd (List.cons.inj heq).1 hc
      · rfl
    rw [hnone, hnone]
    exact ⟨rfl, Nat.succ_pos _⟩

theorem decimal_shut (hu : Shut u) (w : List Char) :
    decimal (u ++ w) = decimal u ∧ (decimal u).length < u.length := by
  obtain ⟨hrun, hlt⟩ := run_shut hu closes_decimalPart w
  obtain ⟨hdrop, hshut⟩ := drop_append_shut hu hlt w
  have htake : (u ++ w).take (run (isNumberPart 10) u) = u.take (run (isNumberPart 10) u) :=
    List.take_append_of_le_length (Nat.le_of_lt hlt)
  obtain ⟨hfraction, hflt⟩ := fraction_shut hshut w
  -- the point and its digits may be left out
  have hexponent : ∀ f, f < (u.drop (run (isNumberPart 10) u)).length →
      exponent ((u.drop (run (isNumberPart 10) u) ++ w).drop f) =
          exponent ((u.drop (run (isNumberPart 10) u)).drop f) ∧
        run (isNumberPart 10) u + f + exponent ((u.drop (run (isNumberPart 10) u)).drop f) <
          u.length := by
    intro f hf
    obtain ⟨hdrop, hshut⟩ := drop_append_shut hshut hf w
    obtain ⟨heq, hlen⟩ := exponent_shut hshut w
    rw [hdrop]
    refine ⟨heq, ?_⟩
    simp only [List.length_drop] at hf hlen
    omega
  unfold decimal
  simp only [hrun, hdrop, htake, head?_append_shut hshut, hfraction]
  split
  · next hn =>
    exact ⟨rfl, drop_lt_of_head? (c := 'n') hu (by simp [Closes]) (by simpa using hn)⟩
  · split
    · obtain ⟨heq, hlen⟩ := hexponent 0 (by rw [List.length_drop]; omega)
      rw [heq]
      exact ⟨rfl, hlen⟩
    · obtain ⟨heq, hlen⟩ := hexponent _ hflt
      rw [heq]
      exact ⟨rfl, hlen⟩

theorem radix_le_of_mark {c : Char} {radix : Nat} (h : radixMark? c = some radix) : radix ≤ 16 := by
  unfold radixMark? at h
  split at h
  · exact Nat.le_of_eq (Option.some.inj h).symm
  · split at h
    · obtain rfl := Option.some.inj h
      decide
    · split at h
      · obtain rfl := Option.some.inj h
        decide
      · exact nomatch h

theorem number_shut (hu : Shut u) (w : List Char) :
    number (u ++ w) = number u ∧ (number u).length < u.length := by
  have hdecimal := decimal_shut hu w
  obtain ⟨c, r, rfl⟩ := List.exists_cons_of_ne_nil hu.ne_nil
  by_cases hc : c = '0'
  · subst hc
    have hr : Shut r := hu.tail (by simp [Closes])
    obtain ⟨d, t, rfl⟩ := List.exists_cons_of_ne_nil hr.ne_nil
    rw [List.cons_append, List.cons_append] at hdecimal ⊢
    rw [number, number]
    cases hmark : radixMark? d with
    | none => exact hdecimal
    | some radix =>
      have hclose : ∀ d, Closes d → radixMark? d = none := by
        rintro d (rfl | rfl) <;> rfl
      have hd : ¬Closes d := fun h => by rw [hclose d h] at hmark; exact nomatch hmark
      obtain ⟨heq, hlt⟩ := radixDigits_shut (radix_le_of_mark hmark) (hr.tail hd) w
      simp only [heq, after_length, List.length_cons, true_and]
      omega
  · have hunfold : ∀ r, number (c :: r) = decimal (c :: r) := fun r => by
      unfold number
      split
      · next heq => exact absurd (List.cons.inj heq).1 hc
      · rfl
    rw [List.cons_append] at hdecimal ⊢
    rw [hunfold, hunfold]
    exact hdecimal

/-! ### Delimited text -/

/-- The rest of a delimited text: it ends inside a closed text, or nothing closes it. -/
def EndsOrRuns (u w : List Char) (x x' : Bool × Nat) : Prop :=
  (x' = x ∧ x.2 < u.length) ∨
    (x.1 = false ∧ x.2 = u.length ∧ x'.1 = false ∧ x'.2 = u.length + w.length)

namespace EndsOrRuns

variable {x x' : Bool × Nat}

theorem nil (h : x' = (false, w.length)) : EndsOrRuns [] w (false, 0) x' := by
  subst h
  exact .inr ⟨rfl, rfl, rfl, (Nat.zero_add _).symm⟩

theorem cons (h : EndsOrRuns u w x x') (pre : List Char) :
    EndsOrRuns (pre ++ u) w (x.1, x.2 + pre.length) (x'.1, x'.2 + pre.length) := by
  rcases h with ⟨rfl, hlt⟩ | ⟨hx, hlen, hx', hlen'⟩
  · refine .inl ⟨rfl, ?_⟩
    rw [List.length_append]
    omega
  · refine .inr ⟨hx, ?_, hx', ?_⟩ <;> rw [List.length_append] <;> omega

/-- A character that closes nothing is not the last one. -/
theorem ended {c : Char} {r : List Char} (hu : Shut (c :: r)) (hc : ¬Closes c) (ok : Bool) :
    EndsOrRuns (c :: r) w (ok, 1) (ok, 1) :=
  .inl ⟨rfl, Nat.succ_lt_succ (hu.tail hc).length_pos⟩

/-- A delimited text as a token. -/
theorem grows (h : EndsOrRuns u w x x') (kind : TokenKind) :
    Grows u w ⟨if x.1 then some kind else none, x.2⟩ ⟨if x'.1 then some kind else none, x'.2⟩ := by
  rcases h with ⟨rfl, hlt⟩ | ⟨hx, hlen, hx', hlen'⟩
  · exact .inside rfl hlt
  · rw [hx, hx']
    exact .beyond rfl (.inl rfl) hlen hlen'

end EndsOrRuns

/-- A character that starts neither form of an escape is no backslash. -/
theorem ne_backslash {c : Char} {r : List Char} (hlast : c = '\\' → r = [] → False)
    (hesc : ∀ d t, c = '\\' → r = d :: t → False) : c ≠ '\\' := by
  intro hc
  cases r with
  | nil => exact hlast hc rfl
  | cons d t => exact hesc d t hc rfl

theorem not_shut_backslash : ¬(['\\'] = [] ∨ Shut ['\\']) := by
  rintro (h | h)
  · exact nomatch h
  · exact (h.tail (by simp [Closes])).ne_nil rfl

theorem stringRest_escape {quote c : Char} {r : List Char}
    (h : ∀ t, c = '\r' → r = '\n' :: t → False) : stringRest quote ('\\' :: c :: r) =
      ((stringRest quote r).1, (stringRest quote r).2 + 2) := by
  rw [stringRest]
  exact h

theorem stringRest_cons {quote c : Char} (hc : c ≠ '\\') (r : List Char) :
    stringRest quote (c :: r) =
      if c == quote then (true, 1)
      else if c == '\n' then (false, 1)
      else ((stringRest quote r).1, (stringRest quote r).2 + 1) := by
  rw [stringRest]
  all_goals
    intros
    exact hc ‹_›

theorem stringRest_tail {quote : Char} (hq : quote = '"' ∨ quote = '\'') (hw : IsTail w) :
    stringRest quote w = (false, w.length) := by
  rcases hq with rfl | rfl <;> rcases hw with rfl | rfl <;> rfl

theorem stringRest_shut {quote : Char} (hq : quote = '"' ∨ quote = '\'') (hw : IsTail w)
    {u : List Char} (hu : u = [] ∨ Shut u) :
    EndsOrRuns u w (stringRest quote u) (stringRest quote (u ++ w)) := by
  fun_induction stringRest quote u with
  | case1 => exact .nil (stringRest_tail hq hw)
  | case2 => exact absurd hu not_shut_backslash
  | case3 r ok n hr ih =>
    have hshut := (hu.resolve_left (by simp)).suffix (List.suffix_append ['\\', '\r', '\n'] r)
    have hrest := (ih hshut).cons ['\\', '\r', '\n']
    rw [hr] at hrest
    rw [List.cons_append, List.cons_append, List.cons_append, stringRest]
    exact hrest
  | case4 c r hcr ok n hr ih =>
    have hclosed := hu.resolve_left (by simp)
    have hrest := (ih (hclosed.suffix (List.suffix_append ['\\', c] r))).cons ['\\', c]
    rw [hr] at hrest
    rw [List.cons_append, List.cons_append, stringRest_escape]
    · exact hrest
    · rintro t rfl ht
      cases r with
      | nil => exact absurd rfl ((hclosed.tail (by simp [Closes])).tail (by simp [Closes])).ne_nil
      | cons d r =>
        obtain ⟨rfl, -⟩ := List.cons.inj ht
        exact hcr r rfl rfl
  | case5 c r hlast _ hesc hc =>
    have hquote : ¬Closes c := by
      obtain rfl : c = quote := by simpa using hc
      rcases hq with rfl | rfl <;> simp [Closes]
    rw [List.cons_append, stringRest_cons (ne_backslash hlast hesc), if_pos hc]
    exact .ended (hu.resolve_left (by simp)) hquote true
  | case6 c r hlast _ hesc hc hline =>
    have hopen : ¬Closes c := by
      obtain rfl : c = '\n' := by simpa using hline
      simp [Closes]
    rw [List.cons_append, stringRest_cons (ne_backslash hlast hesc), if_neg hc, if_pos hline]
    exact .ended (hu.resolve_left (by simp)) hopen false
  | case7 c r hlast _ hesc hc hline ok n hr ih =>
    have hshut := (hu.resolve_left (by simp)).suffix (List.suffix_cons c r)
    have hrest := (ih hshut).cons [c]
    rw [hr] at hrest
    rw [List.cons_append, stringRest_cons (ne_backslash hlast hesc), if_neg hc, if_neg hline]
    exact hrest

theorem grows_string {quote : Char} (hq : quote = '"' ∨ quote = '\'') (hw : IsTail w) {r : List Char}
    (hr : Shut r) : Grows (quote :: r) w (string quote r) (string quote (r ++ w)) :=
  ((stringRest_shut hq hw (.inr hr)).cons [quote]).grows .str

/-- An attribute string is read up to its quote wherever that is. -/
theorem grows_attributeString {quote : Char} (hq : quote = '"' ∨ quote = '\'') (hw : IsTail w)
    {r : List Char} (hr : Shut r) :
    Grows (quote :: r) w (attributeString quote r) (attributeString quote (r ++ w)) := by
  by_cases hmem : quote ∈ r
  · obtain ⟨hrun, hlt⟩ := run_append_of_mem (p := (· != quote)) ⟨quote, hmem, by simp⟩ w
    refine .inside ?_ ?_
    · unfold attributeString
      rw [hrun, if_pos hlt, if_pos (by rw [List.length_append]; omega)]
    · rw [attributeString, if_pos hlt, List.length_cons]
      -- the quote is not the last character of a closed text
      have hquote : ¬Closes quote := by rcases hq with rfl | rfl <;> simp [Closes]
      have hhead : (r.drop (run (· != quote) r)).head? = some quote := by
        have hne : r.drop (run (· != quote) r) ≠ [] := by
          rw [ne_eq, List.drop_eq_nil_iff]
          omega
        rw [drop_run] at hne ⊢
        have hstop := List.head_dropWhile_not (· != quote) hne
        rw [List.head?_eq_some_head hne]
        exact congrArg some (by simpa using hstop)
      have := drop_lt_of_head? hr hquote hhead
      simp only
      omega
  · have hnone : ∀ c ∈ r, (c != quote) = true := by
      rintro c hc
      rw [bne_iff_ne]
      rintro rfl
      exact hmem hc
    have hw' : ∀ c ∈ w, (c != quote) = true := by
      rcases hq with rfl | rfl <;> exact hw.forall rfl
    have hboth : ∀ c ∈ r ++ w, (c != quote) = true := fun c hc =>
      (List.mem_append.mp hc).elim (hnone c) (hw' c)
    unfold attributeString
    rw [run_of_forall hnone, run_of_forall hboth, if_neg (Nat.lt_irrefl _), if_neg (Nat.lt_irrefl _)]
    refine .beyond rfl (.inl rfl) rfl ?_
    simp only [List.length_append, List.length_cons]
    omega

theorem template_tail (hw : IsTail w) : template w = ⟨none, w.length⟩ := by
  rcases hw with rfl | rfl
  · rfl
  · rfl

theorem template_quote (r : List Char) : template ('\x60' :: r) = ⟨some .templateEnd, 1⟩ := by
  rw [template.eq_def]
  rfl

theorem grows_template (hw : IsTail w) {u : List Char} (hu : u = [] ∨ Shut u) :
    Grows u w (template u) (template (u ++ w)) := by
  fun_induction template u with
  | case1 =>
    rw [List.nil_append, template_tail hw]
    exact .beyond rfl (.inl rfl) rfl (Nat.zero_add _).symm
  | case2 => exact absurd hu not_shut_backslash
  | case3 c r ih =>
    have hclosed := hu.resolve_left (by simp)
    rw [List.cons_append, List.cons_append, template_escape]
    exact (ih (hclosed.suffix (List.suffix_append ['\\', c] r))).after ['\\', c]
  | case4 t =>
    have ht : Shut t := ((hu.resolve_left (by simp)).tail (by simp [Closes])).tail (by simp [Closes])
    have hpos := ht.length_pos
    rw [List.cons_append, List.cons_append, template]
    exact .inside rfl (by simp only [List.length_cons]; omega)
  | case5 c r _ _ _ hc =>
    obtain rfl : c = '\x60' := by simpa using hc
    have hpos := ((hu.resolve_left (by simp)).tail (by simp [Closes])).length_pos
    rw [List.cons_append, template_quote]
    exact .inside rfl (by simp only [List.length_cons]; omega)
  | case6 c r hlast hesc hsub hq ih =>
    have hclosed := hu.resolve_left (by simp)
    rw [List.cons_append, template_cons (ne_backslash hlast hesc) (by simpa using hq)]
    · exact (ih (hclosed.suffix (List.suffix_cons c r))).after [c]
    · rintro rfl t ht
      cases r with
      | nil => exact absurd rfl (hclosed.tail (by simp [Closes])).ne_nil
      | cons d r =>
        obtain ⟨rfl, -⟩ := List.cons.inj ht
        exact hsub r rfl rfl

theorem regexRest_cons {inClass : Bool} {c : Char} (hc : c ≠ '\\') (r : List Char) :
    regexRest inClass (c :: r) =
      if c == '/' && !inClass then (true, 1)
      else if isLineTerminator c then (false, 1)
      else ((regexRest (c == '[' || (inClass && c != ']')) r).1,
        (regexRest (c == '[' || (inClass && c != ']')) r).2 + 1) := by
  rw [regexRest]
  all_goals
    intros
    exact hc ‹_›

theorem regexRest_tail (inClass : Bool) (hw : IsTail w) :
    regexRest inClass w = (false, w.length) := by
  rcases hw with rfl | rfl
  · rfl
  · cases inClass <;> rfl

theorem regexRest_shut (inClass : Bool) (hw : IsTail w) {u : List Char} (hu : u = [] ∨ Shut u) :
    EndsOrRuns u w (regexRest inClass u) (regexRest inClass (u ++ w)) := by
  have hline : ∀ c, isLineTerminator c = true → ¬Closes c := fun c =>
    not_closes_of (closes_of (by decide) (by decide))
  fun_induction regexRest inClass u with
  | case1 inClass => exact .nil (regexRest_tail inClass hw)
  | case2 => exact absurd hu not_shut_backslash
  | case3 inClass c r hc =>
    have hpos := (((hu.resolve_left (by simp)).tail (by simp [Closes])).tail (hline c hc)).length_pos
    rw [List.cons_append, List.cons_append, regexRest, if_pos hc]
    exact .inl ⟨rfl, by simp only [List.length_cons]; omega⟩
  | case4 inClass c r hc ok n hr ih =>
    have hclosed := hu.resolve_left (by simp)
    have hrest := (ih (hclosed.suffix (List.suffix_append ['\\', c] r))).cons ['\\', c]
    rw [hr] at hrest
    rw [List.cons_append, List.cons_append, regexRest, if_neg hc]
    exact hrest
  | case5 inClass c r hlast hesc hc =>
    have hslash : ¬Closes c := by
      simp only [Bool.and_eq_true, beq_iff_eq] at hc
      rw [hc.1]
      simp [Closes]
    rw [List.cons_append, regexRest_cons (ne_backslash hlast hesc), if_pos hc]
    exact .ended (hu.resolve_left (by simp)) hslash true
  | case6 inClass c r hlast hesc hc hterm =>
    rw [List.cons_append, regexRest_cons (ne_backslash hlast hesc), if_neg hc, if_pos hterm]
    exact .ended (hu.resolve_left (by simp)) (hline c hterm) false
  | case7 inClass c r hlast hesc hc hterm ok n hr ih =>
    have hclosed := hu.resolve_left (by simp)
    have hrest := (ih (hclosed.suffix (List.suffix_cons c r))).cons [c]
    rw [hr] at hrest
    rw [List.cons_append, regexRest_cons (ne_backslash hlast hesc), if_neg hc, if_neg hterm]
    exact hrest

theorem grows_regex (hw : IsTail w) {r : List Char} (hr : Shut r) :
    Grows ('/' :: r) w (regex r) (regex (r ++ w)) := by
  unfold regex
  rcases regexRest_shut false hw (.inr hr) with ⟨heq, hlt⟩ | ⟨hx, hlen, hx', hlen'⟩
  · rw [heq]
    generalize regexRest false r = x at hlt
    obtain ⟨ok, n⟩ := x
    cases ok with
    | false => exact .inside rfl (by simp only [List.length_cons] at hlt ⊢; omega)
    | true =>
      obtain ⟨hdrop, hshut⟩ := drop_append_shut hr hlt w
      obtain ⟨hrun, hflags⟩ := run_shut hshut closes_idContinue w
      simp only [hdrop, hrun, List.length_drop] at hflags ⊢
      exact .inside rfl (by simp only [List.length_cons] at hlt ⊢; omega)
  · generalize regexRest false r = x at hx hlen
    generalize regexRest false (r ++ w) = x' at hx' hlen'
    obtain ⟨ok, n⟩ := x
    obtain ⟨ok', n'⟩ := x'
    simp only at hx hlen hx' hlen'
    subst hx hlen hx' hlen'
    exact .beyond rfl (.inl rfl) rfl (by simp only [List.length_cons]; omega)

/-! ### Signs and element text -/

/-- A closing character stands at the end of its sign only. -/
theorem not_closes_of_mem_dropLast (p : Punctuator) : ∀ c ∈ p.chars.dropLast, ¬Closes c := by
  cases p <;> simp [Punctuator.chars, Closes]

theorem closing_of_shut {p : Punctuator} (h : Shut p.chars) : p = .rBracket ∨ p = .rBrace := by
  have hlast := h.getLast?
  revert hlast
  cases p <;> simp [Punctuator.chars]

/-- A sign that stands at the start of a closed text with a tail stands in the text. -/
theorem prefix_shut (hu : Shut u) {p : Punctuator} (h : p.chars <+: u ++ w) : p.chars <+: u := by
  rcases Nat.lt_or_ge u.length p.chars.length with hlt | hle
  · -- the closing character would stand inside the sign
    have hprefix : u <+: p.chars :=
      List.prefix_of_prefix_length_le (List.prefix_append _ _) h (Nat.le_of_lt hlt)
    have hinside : u <+: p.chars.dropLast :=
      List.prefix_of_prefix_length_le hprefix (List.dropLast_prefix _)
        (by rw [List.length_dropLast]; omega)
    obtain ⟨v, c, rfl, hc⟩ := hu
    exact absurd hc (not_closes_of_mem_dropLast p c (hinside.subset (by simp)))
  · exact List.prefix_of_prefix_length_le h (List.prefix_append _ _) hle

theorem longest?_shut (hu : Shut u) (w : List Char) :
    Punctuator.longest? (u ++ w) = Punctuator.longest? u := by
  unfold Punctuator.longest?
  congr 1
  funext p
  rw [Bool.eq_iff_iff, List.isPrefixOf_iff_prefix, List.isPrefixOf_iff_prefix]
  exact ⟨prefix_shut hu, fun h => h.trans (List.prefix_append _ _)⟩

theorem prefix_of_longest? {p : Punctuator} (h : Punctuator.longest? u = some p) : p.chars <+: u := by
  unfold Punctuator.longest? at h
  have hprefix := List.find?_some h
  exact List.isPrefixOf_iff_prefix.mp hprefix

theorem grows_punctuator (hu : Shut u) (w : List Char) :
    Grows u w (punctuator u) (punctuator (u ++ w)) := by
  have hpos := hu.length_pos
  unfold punctuator
  rw [longest?_shut hu w]
  split
  · next h =>
    have hprefix := prefix_of_longest? h
    have htwo : 2 < u.length := by
      rcases Nat.lt_or_eq_of_le hprefix.length_le with hlt | heq
      · exact hlt
      · rw [← hprefix.eq_of_length heq] at hu
        rcases closing_of_shut hu with h | h <;> exact nomatch h
    rw [head?_drop_append htwo]
    split
    · exact .inside rfl (by simp only; omega)
    · exact .inside rfl htwo
  · next p _ h =>
    have hprefix := prefix_of_longest? h
    refine .of_le rfl hprefix.length_le fun hlen => ?_
    rw [← hprefix.eq_of_length hlen] at hu
    rcases closing_of_shut hu with rfl | rfl <;> simp
  · rw [List.length_append, Nat.min_eq_left hpos, Nat.min_eq_left (by omega)]
    exact .of_le rfl hpos fun _ => by simp

theorem grows_jsxText (hu : Shut u) (hw : IsTail w) :
    Grows u w (jsxText u) (jsxText (u ++ w)) := by
  obtain ⟨c, r, rfl⟩ := List.exists_cons_of_ne_nil hu.ne_nil
  by_cases hbrace : c = '{'
  · subst hbrace
    exact .inside rfl (Nat.succ_lt_succ (hu.tail (by simp [Closes])).length_pos)
  by_cases htag : c = '<'
  · subst htag
    have hr : Shut r := hu.tail (by simp [Closes])
    obtain ⟨d, t, rfl⟩ := List.exists_cons_of_ne_nil hr.ne_nil
    by_cases hslash : d = '/'
    · subst hslash
      have hpos := (hr.tail (by simp [Closes])).length_pos
      exact .inside rfl (by simp only [jsxText, List.length_cons]; omega)
    · have hopen : ∀ r, jsxText ('<' :: d :: r) = ⟨some (.punct .lt), 1⟩ := fun r => by
        rw [jsxText]
        rintro t ht
        exact hslash (List.cons.inj ht).1
      rw [List.cons_append, List.cons_append, hopen, hopen]
      exact .inside rfl (by simp only [List.length_cons]; omega)
  -- text goes on up to the next brace or tag, which may not come
  have htext : ∀ r, jsxText (c :: r) =
      ⟨some .jsxText, run (fun c => c != '{' && c != '<') (c :: r)⟩ := fun r => by
    unfold jsxText
    split
    · next heq => exact absurd heq (List.cons_ne_nil _ _)
    · next heq => exact absurd (List.cons.inj heq).1 hbrace
    · next heq => exact absurd (List.cons.inj heq).1 htag
    · next heq => exact absurd (List.cons.inj heq).1 htag
    · rfl
  rw [List.cons_append, htext, htext, ← List.cons_append]
  by_cases hmem : ∃ d ∈ c :: r, (d != '{' && d != '<') = false
  · obtain ⟨hrun, hlt⟩ := run_append_of_mem hmem w
    rw [hrun]
    exact .inside rfl hlt
  · have hall : ∀ d ∈ c :: r, (d != '{' && d != '<') = true := by
      intro d hd
      rw [← Bool.not_eq_false]
      exact fun hfalse => hmem ⟨d, hd, hfalse⟩
    have hw' : ∀ d ∈ w, (d != '{' && d != '<') = true := hw.forall rfl
    have hboth : ∀ d ∈ c :: r ++ w, (d != '{' && d != '<') = true := fun d hd =>
      (List.mem_append.mp hd).elim (hall d) (hw' d)
    rw [run_of_forall hall, run_of_forall hboth]
    exact .beyond rfl (.inr rfl) rfl List.length_append

theorem grows_ordinary (mode : LexMode) (hu : Shut u) (hw : IsTail w) :
    Grows u w (ordinary mode u) (ordinary mode (u ++ w)) := by
  have hnumber : Grows u w (number u) (number (u ++ w)) := .of_inside (number_shut hu w)
  have hword := grows_word (mode == .jsxTag) hu hw
  have hsign := grows_punctuator hu w
  obtain ⟨c, r, rfl⟩ := List.exists_cons_of_ne_nil hu.ne_nil
  have hrest : ∀ {d : Char}, (c == d) = true → ¬Closes d → Shut r := by
    intro d hc hd
    obtain rfl : c = d := by simpa using hc
    exact hu.tail hd
  have hpoint : (c == '.' && ((r ++ w).head?.map isDecimalDigit).getD false) =
      (c == '.' && (r.head?.map isDecimalDigit).getD false) := by
    cases hc : c == '.' with
    | false => rfl
    | true => rw [head?_append_shut (hrest hc (by simp [Closes]))]
  rw [List.cons_append] at hnumber hword hsign ⊢
  unfold ordinary
  simp only [hpoint]
  split
  · next hc =>
    have hq : c = '"' ∨ c = '\'' := by simpa using hc
    have hr : Shut r := hu.tail (by rcases hq with rfl | rfl <;> simp [Closes])
    split
    · exact grows_attributeString hq hw hr
    · exact grows_string hq hw hr
  split
  · next hc => exact (grows_template hw (.inr (hrest hc (by simp [Closes])))).after [c]
  split
  · exact hnumber
  split
  · exact hnumber
  split
  · next hc => exact (grows_privateName (hrest hc (by simp [Closes])) w).after [c]
  split
  · next hc =>
    simp only [Bool.and_eq_true, beq_iff_eq] at hc
    obtain ⟨rfl, -⟩ := hc
    exact grows_regex hw (hu.tail (by simp [Closes]))
  split
  · exact hword
  · exact hsign

/-- **Every token** of a closed text is read alike in front of a tail. -/
theorem grows_scan (mode : LexMode) (hu : Shut u) (hw : IsTail w) :
    Grows u w (scan mode u) (scan mode (u ++ w)) := by
  cases mode with
  | jsxText => exact grows_jsxText hu hw
  | templateTail => exact grows_template hw (.inr hu)
  | standard => exact grows_ordinary .standard hu hw
  | operand => exact grows_ordinary .operand hu hw
  | jsxTag => exact grows_ordinary .jsxTag hu hw

end Scan

end ImportSeam
