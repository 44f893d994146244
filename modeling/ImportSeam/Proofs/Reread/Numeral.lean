import ImportSeam.Proofs.Number.ReadBack
import ImportSeam.Proofs.Require.Reading
import ImportSeam.Proofs.Reread.Whole

/-!
# Numbers as literals

A number is kept as its value, not as it stood in the source, and its text is written for it.  The
text of a finite number is one token: digits with no zero in front of them, and a point and more
digits if it is no whole number.  So the number is read back where an operand is.  A literal too
large for a double denotes an infinity, whose text is a name: it is no literal any more.

## Main results

* `Number.IsDecimalText.isWhole` — a decimal text is one token.
* `IsNumberLiteral.text_iff` — what a literal denotes is printed as a literal exactly if it is
  finite.
* `IsToken.answers_text` — the number of a source is read back from its text.
-/

namespace ImportSeam

open Text Scan

variable {w f : List Char} {raw : String} {x : Number}

/-! ### Decimals -/

theorem isNumberPart_digit {c : Char} (h : c.isDigit = true) : isNumberPart 10 c = true := by
  simp [isNumberPart, Number.digitValue?_ten h]

theorem run_digits (hw : ∀ c ∈ w, c.isDigit = true) (rest : List Char)
    (hr : ∀ c ∈ rest.head?, isNumberPart 10 c = false) :
    run (isNumberPart 10) (w ++ rest) = w.length :=
  run_append (fun c hc => isNumberPart_digit (hw c hc)) hr

theorem isOldOctal_of_head (hhead : w = ['0'] ∨ w.head? ≠ some '0') : isOldOctal w = false := by
  rcases hhead with rfl | hhead
  · rfl
  · simp [isOldOctal, hhead]

theorem decimal_whole (hw : ∀ c ∈ w, c.isDigit = true) : decimal w = ⟨some .num, w.length⟩ := by
  have hrun := run_digits hw [] (by simp)
  rw [List.append_nil] at hrun
  have hnone : (none == some 'n') = false := rfl
  simp only [decimal, hrun, List.drop_length, List.head?_nil, hnone, fraction, ite_self,
    List.drop_nil, exponent, Nat.add_zero, Bool.false_eq_true, if_false]

theorem decimal_point (hw : ∀ c ∈ w, c.isDigit = true)
    (hhead : w = ['0'] ∨ w.head? ≠ some '0') (hf : ∀ c ∈ f, c.isDigit = true) :
    decimal (w ++ '.' :: f) = ⟨some .num, (w ++ '.' :: f).length⟩ := by
  have hdot : ∀ c ∈ ('.' :: f).head?, isNumberPart 10 c = false := by
    rintro c ⟨⟩
    decide
  have hrun := run_digits hf [] (by simp)
  rw [List.append_nil] at hrun
  have hfraction : fraction ('.' :: f) = f.length + 1 := by rw [fraction, hrun, Nat.add_comm]
  have hsuffix : (('.' :: f).head? == some 'n') = false := rfl
  simp only [decimal, run_digits hw _ hdot, List.drop_left, List.take_left, hsuffix,
    isOldOctal_of_head hhead, hfraction, List.drop_succ_cons, List.drop_length, exponent,
    Nat.add_zero, Bool.false_eq_true, if_false, List.length_append, List.length_cons]

/-- Digits with no zero in front have no radix of their own. -/
theorem number_eq_decimal (hne : w ≠ []) (hhead : w = ['0'] ∨ w.head? ≠ some '0')
    (rest : List Char) (hr : ∀ c r, rest = c :: r → radixMark? c = none) :
    number (w ++ rest) = decimal (w ++ rest) := by
  unfold number
  split
  · next c r heq =>
    rcases hhead with rfl | hhead
    · rw [hr c r (List.cons.inj heq).2]
    · obtain ⟨d, w, rfl⟩ := List.exists_cons_of_ne_nil hne
      obtain ⟨rfl, -⟩ := List.cons.inj heq
      exact absurd rfl hhead
  · rfl

theorem ordinary_digits (hw : ∀ c ∈ w, c.isDigit = true) (hne : w ≠ []) (rest : List Char) :
    scan .standard (w ++ rest) = number (w ++ rest) := by
  obtain ⟨c, w, rfl⟩ := List.exists_cons_of_ne_nil hne
  exact ordinary_number (.inl (Number.isDecimalDigit_of_isDigit (hw c List.mem_cons_self)))

/-- **A decimal text is one token.** -/
theorem Number.IsDecimalText.isWhole {cs : List Char} {D : Nat} {E : Int}
    (h : Number.IsDecimalText cs D E) : IsWhole .num (String.ofList cs) := by
  rw [IsWhole, String.toList_ofList]
  cases h with
  | whole hw hne hhead =>
    have hscan := ordinary_digits hw hne []
    rw [number_eq_decimal hne hhead [] (by simp), List.append_nil] at hscan
    rw [hscan, decimal_whole hw]
  | point hw hne hhead hf =>
    rw [ordinary_digits hw hne, number_eq_decimal hne hhead _, decimal_point hw hhead hf]
    rintro c r ⟨⟩
    rfl

/-! ### Numbers of a source -/

/-- A literal starts with a digit or a point. -/
theorem IsNumberLiteral.head (h : IsNumberLiteral raw x) :
    ∃ c cs, raw.toList = c :: cs ∧ (c.isDigit = true ∨ c = '.') := by
  obtain ⟨hwhole, -⟩ := h
  rw [IsWhole] at hwhole
  obtain ⟨c, cs, hcs⟩ : ∃ c cs, raw.toList = c :: cs := by
    refine List.exists_cons_of_ne_nil fun hnil => ?_
    rw [hnil] at hwhole
    cases hwhole
  rw [hcs] at hwhole
  refine ⟨c, cs, hcs, ?_⟩
  rcases startsNumber_of_kind (.inl rfl) (congrArg Scan.kind hwhole) with hdigit | ⟨rfl, -⟩
  · obtain ⟨hlow, hhigh⟩ := toNat_of_isDecimalDigit hdigit
    left
    rw [Char.isDigit, Bool.and_eq_true, decide_eq_true_eq, decide_eq_true_eq, ge_iff_le,
      UInt32.le_iff_toNat_le, UInt32.le_iff_toNat_le]
    exact ⟨hlow, hhigh⟩
  · exact .inr rfl

/-- The text of a double that is not negative is a literal. -/
theorem isNumberLiteral_text (hx : x.IsDouble)
    (hsign : ∀ negative m e, x = .finite negative m e → negative = false) :
    IsNumberLiteral x.text x := by
  obtain ⟨cs, D, E, htext, hcs, hread⟩ := Number.text_decimal hx hsign
  refine ⟨?_, Number.ofLiteral?_text hx hsign⟩
  rw [htext]
  exact hcs.isWhole

/-- **What a literal denotes is printed as a literal exactly if it is finite**, and the two
literals denote the same number. -/
theorem IsNumberLiteral.text_iff (h : IsNumberLiteral raw x) :
    IsNumberLiteral x.text x ↔ x.isFinite = true := by
  constructor
  · rintro ⟨hwhole, -⟩
    cases x with
    | finite negative m e => rfl
    | nan => exact absurd hwhole (by decide +kernel)
    | infinite negative => cases negative <;> exact absurd hwhole (by decide +kernel)
  · intro hfinite
    obtain ⟨hdouble, hsign⟩ := (Number.isUnsigned_ofLiteral? h.head h.value).of_isFinite hfinite
    exact isNumberLiteral_text hdouble hsign

/-- **The number of a source is read back from its text**, in front of a text that it does not go on
with. -/
theorem IsToken.answers_text {ctx : Context} {ends : List TokenKind} {b : TokenBuffer}
    {rest : List Char} (hraw : IsToken .standard .num raw)
    (hvalue : Number.ofLiteral? raw = some x) (hfinite : x.isFinite = true) (hr : EndsNumber rest)
    (h : b.Before (x.text.toList ++ rest)) (r : Rules) :
    Answers (TokenBuffer.Before rest) (∃ loc, · = .num loc x) (r.operandExpr ctx ends b) := by
  have hliteral : IsNumberLiteral raw x := ⟨hraw.isWhole, hvalue⟩
  exact (hliteral.text_iff.mpr hfinite).answers_operand hr h r

end ImportSeam
