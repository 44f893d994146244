import ImportSeam.Proofs.Cover.Tail

/-!
# Literals in front of a text

A string ends with its quote, whatever follows.  A number goes on as long as it can, so it is read
again as it was written only if the text behind it does not go on with it.

## Main definitions

* `IsStringLiteral`, `IsNumberLiteral` — texts that are literals, and their values.
* `IsKeyLiteral` — literals as keys of an object and in brackets.
* `EndsNumber` — a text that no number goes on with.

## Main results

* `lexesTo_string`, `lexesTo_number` — literals in front of a text.
-/

namespace ImportSeam

open Text

/-! ### Literals -/

/-- All of the text is one token. -/
def IsWhole (kind : TokenKind) (text : String) : Prop :=
  scan .standard text.toList = ⟨some kind, text.toList.length⟩

instance (kind : TokenKind) (text : String) : Decidable (IsWhole kind text) :=
  inferInstanceAs (Decidable (_ = _))

/-- The text is a string literal with the value. -/
structure IsStringLiteral (text value : String) : Prop where
  whole : IsWhole .str text
  value : decodeString ((text.toList.drop 1).dropLast) = some value

/-- The text is a numeric literal with the value. -/
structure IsNumberLiteral (text : String) (value : Number) : Prop where
  whole : IsWhole .num text
  value : Number.ofLiteral? text = some value

/-- The text is a literal, with what it is kept as where it is a direct key, and with the property
that it names where it stands in brackets. -/
inductive IsKeyLiteral (text : String) : String → String → Prop
  | string {value : String} (h : IsStringLiteral text value) : IsKeyLiteral text value value
  | number {value : Number} (h : IsNumberLiteral text value) : IsKeyLiteral text text value.text

/-! ### Strings -/

namespace Scan

/-- The quote that ends a string is found whatever follows. -/
theorem stringRest_append {quote : Char} {cs : List Char} {n : Nat}
    (h : stringRest quote cs = (true, n)) (rest : List Char) :
    stringRest quote (cs ++ rest) = (true, n) := by
  fun_induction stringRest quote cs generalizing n with
  | case1 => cases h
  | case2 => cases h
  | case3 r ok m heq ih =>
    obtain ⟨rfl, rfl⟩ := Prod.mk.inj h
    simp only [List.cons_append, stringRest, ih heq]
  | case4 c r hreturn ok m heq ih =>
    obtain ⟨rfl, rfl⟩ := Prod.mk.inj h
    -- the string goes on behind the escape, so the line feed does not come from what follows
    have hlinefeed : ∀ t, c = '\r' → r ++ rest = '\n' :: t → False := by
      intro t hc ht
      cases r with
      | nil => cases heq
      | cons d r =>
        obtain ⟨rfl, -⟩ := List.cons.inj ht
        exact hreturn r hc rfl
    rw [List.cons_append, List.cons_append, stringRest_escape hlinefeed, ih heq]
  | case5 c r hlast hreturn hescape hquote =>
    have hc : c ≠ '\\' := ne_backslash hlast hescape
    rw [List.cons_append, stringRest_cons hc, if_pos hquote]
    exact h
  | case6 => cases h
  | case7 c r hlast hreturn hescape hquote hlinefeed ok m heq ih =>
    obtain ⟨rfl, rfl⟩ := Prod.mk.inj h
    have hc : c ≠ '\\' := ne_backslash hlast hescape
    rw [List.cons_append, stringRest_cons hc, if_neg hquote, if_neg hlinefeed, ih heq]

theorem string_append {quote : Char} {cs : List Char} (h : (string quote cs).kind = some .str)
    (rest : List Char) : string quote (cs ++ rest) = string quote cs := by
  unfold string at h ⊢
  generalize hcs : stringRest quote cs = result at h ⊢
  obtain ⟨ok, n⟩ := result
  cases ok with
  | false => cases h
  | true => rw [stringRest_append hcs]

end Scan

/-! ### Numbers -/

/-- Characters behind which nothing of a number before them is looked for. -/
def numberEnds : List Char :=
  [' ', '\n', '(', ')', '[', ']', '}', ',', ';', ':', '?', '\x60']

/-- The text does not go on with a number. -/
def EndsNumber (rest : List Char) : Prop := ∀ c ∈ rest.head?, c ∈ numberEnds

/-- What is checked for each of the characters holds for them. -/
theorem forall_numberEnds {p : Char → Prop} [DecidablePred p]
    (h : numberEnds.all (fun c => decide (p c)) = true) : ∀ c ∈ numberEnds, p c := by
  simpa using h

namespace Scan

variable {u rest : List Char}

theorem run_append_of_head {p : Char → Bool} (h : ∀ c ∈ rest.head?, p c = false) :
    run p (u ++ rest) = run p u := by
  have hrest : rest.takeWhile p = [] := by
    cases rest with
    | nil => rfl
    | cons c r => rw [List.takeWhile_cons, if_neg (by simp [h c rfl])]
  induction u with
  | nil => simp [run, hrest]
  | cons c u ih =>
    by_cases hc : p c = true
    · simpa [run, hc] using ih
    · simp [run, hc]

theorem fraction_eq_zero {c : Char} (hc : c ≠ '.') (r : List Char) : fraction (c :: r) = 0 := by
  unfold fraction
  split
  · next heq => exact absurd (List.cons.inj heq).1 hc
  · rfl

variable (hr : EndsNumber rest)
include hr

theorem run_numberPart {radix : Nat} (hradix : radix ≤ 16) (u : List Char) :
    run (isNumberPart radix) (u ++ rest) = run (isNumberPart radix) u := by
  have hends : ∀ c ∈ numberEnds, ∀ radix ≤ 16, isNumberPart radix c = false :=
    forall_numberEnds (by decide)
  exact run_append_of_head fun c hc => hends c (hr c hc) radix hradix

/-- No suffix comes from what follows. -/
theorem head?_append_suffix (u : List Char) :
    ((u ++ rest).head? == some 'n') = (u.head? == some 'n') := by
  cases u with
  | nil =>
    cases rest with
    | nil => rfl
    | cons d r =>
      have hends : ∀ c ∈ numberEnds, (some c == some 'n') = false := forall_numberEnds (by decide)
      exact hends d (hr d rfl)
  | cons d r => rfl

theorem radixDigits_append {radix : Nat} (hradix : radix ≤ 16) (u : List Char) :
    radixDigits radix (u ++ rest) = radixDigits radix u := by
  have hle : run (isNumberPart radix) u ≤ u.length := (List.takeWhile_prefix _).length_le
  unfold radixDigits
  simp only [run_numberPart hr hradix, List.drop_append_of_le_length hle, head?_append_suffix hr]

theorem exponent_append (u : List Char) : exponent (u ++ rest) = exponent u := by
  have hrun : ∀ u, run (isNumberPart 10) (u ++ rest) = run (isNumberPart 10) u :=
    run_numberPart hr (by decide)
  match u with
  | [] =>
    cases rest with
    | nil => rfl
    | cons d r =>
      have hends : ∀ c ∈ numberEnds, (c == 'e' || c == 'E') = false := forall_numberEnds (by decide)
      exact exponent_eq_zero (hends d (hr d rfl)) r
  | [c] =>
    cases rest with
    | nil => rfl
    | cons d r =>
      have hends : ∀ c ∈ numberEnds, (c == '+' || c == '-') = false := forall_numberEnds (by decide)
      have hsign := hends d (hr d rfl)
      have hnone : run (isNumberPart 10) (d :: r) = 0 := hrun []
      simp [exponent, hsign, hnone]
  | c :: s :: r =>
    have hshort := hrun r
    have hlong := hrun (s :: r)
    rw [List.cons_append] at hlong
    simp only [List.cons_append, exponent, hshort, hlong]

theorem fraction_append (u : List Char) : fraction (u ++ rest) = fraction u := by
  cases u with
  | nil =>
    cases rest with
    | nil => rfl
    | cons d r =>
      have hends : ∀ c ∈ numberEnds, c ≠ '.' := forall_numberEnds (by decide)
      exact fraction_eq_zero (hends d (hr d rfl)) r
  | cons c u =>
    rw [List.cons_append]
    by_cases hc : c = '.'
    · subst hc
      rw [fraction, fraction, run_numberPart hr (by decide)]
    · rw [fraction_eq_zero hc, fraction_eq_zero hc]

theorem decimal_append (u : List Char) : decimal (u ++ rest) = decimal u := by
  have hle : run (isNumberPart 10) u ≤ u.length := (List.takeWhile_prefix _).length_le
  unfold decimal
  rw [run_numberPart hr (by decide)]
  simp only [List.take_append_of_le_length hle, List.drop_append_of_le_length hle,
    head?_append_suffix hr, fraction_append hr]
  generalize u.drop (run (isNumberPart 10) u) = after
  -- neither the fraction nor the exponent goes on
  have hexponent : ∀ f, f ≤ after.length →
      exponent ((after ++ rest).drop f) = exponent (after.drop f) := by
    intro f hf
    rw [List.drop_append_of_le_length hf, exponent_append hr]
  have hfraction : fraction after ≤ after.length := by
    unfold fraction
    split
    · next r =>
      have hrun : run (isNumberPart 10) r ≤ r.length := (List.takeWhile_prefix _).length_le
      rw [List.length_cons]
      omega
    · exact Nat.zero_le _
  rw [hexponent]
  split
  · exact Nat.zero_le _
  · exact hfraction

/-- **A number** in front of a text that it does not go on with. -/
theorem number_append (u : List Char) : number (u ++ rest) = number u := by
  have hdecimal := decimal_append hr
  have hunfold : ∀ {v : List Char}, (∀ c r, v = '0' :: c :: r → radixMark? c = none) →
      number v = decimal v := by
    intro v hv
    unfold number
    split
    · next c r => rw [hv c r rfl]
    · rfl
  have hends : ∀ v, (∀ c r, v = '0' :: c :: r → radixMark? c = none) →
      (∀ c r, v ++ rest = '0' :: c :: r → radixMark? c = none) →
      number (v ++ rest) = number v := fun v hv hvr => by
    rw [hunfold hv, hunfold hvr, hdecimal]
  match u with
  | [] =>
    refine hends [] nofun fun c r hc => ?_
    have hrest : rest = '0' :: c :: r := hc
    exact absurd (hr '0' (by rw [hrest]; rfl)) (by decide)
  | [d] =>
    refine hends [d] nofun fun c r hc => ?_
    have hrest : rest = c :: r := (List.cons.inj hc).2
    have hends : ∀ c ∈ numberEnds, radixMark? c = none := forall_numberEnds (by decide)
    exact hends c (hr c (by rw [hrest]; rfl))
  | d :: c :: r =>
    by_cases hd : d = '0'
    · subst hd
      have hrest := hdecimal ('0' :: c :: r)
      simp only [List.cons_append] at hrest ⊢
      rw [number, number]
      cases hmark : radixMark? c with
      | none => exact hrest
      | some radix =>
        exact congrArg (Scan.after 2) (radixDigits_append hr (radix_le_of_mark hmark) r)
    · refine hends _ ?_ ?_ <;> exact fun c r hc => absurd (List.cons.inj hc).1 hd

end Scan

/-! ### Tokens in front of a text -/

namespace Scan

/-- A number starts with a digit, or with a point and a digit. -/
def StartsNumber (c : Char) (r : List Char) : Prop :=
  isDecimalDigit c = true ∨ c = '.' ∧ (r.head?.map isDecimalDigit).getD false = true

theorem ordinary_number {c : Char} {r : List Char} (h : StartsNumber c r) :
    ordinary .standard (c :: r) = number (c :: r) := by
  rcases h with hdigit | ⟨rfl, hnext⟩
  · have hquote : (c == '"' || c == '\'') = false := by
      rw [← Bool.not_eq_true, Bool.or_eq_true, beq_iff_eq, beq_iff_eq]
      rintro (rfl | rfl) <;> exact absurd hdigit (by decide)
    have hback : (c == '\x60') = false := by
      rw [beq_eq_false_iff_ne]
      rintro rfl
      exact absurd hdigit (by decide)
    simp only [ordinary, hquote, hback, hdigit, if_true, Bool.false_eq_true, if_false]
  · have hdot : isDecimalDigit '.' = false := by decide
    simp [ordinary, hdot, hnext]

/-- The token is a number or a big integer. -/
def IsNumeric (kind : TokenKind) : Prop := kind = .num ∨ kind = .bigInt

theorem startsNumber_of_kind {c : Char} {r : List Char} {kind : TokenKind} (hn : IsNumeric kind)
    (h : (ordinary .standard (c :: r)).kind = some kind) : StartsNumber c r := by
  have hkinds : kind ≠ .str ∧ kind ≠ .templateChunk ∧ kind ≠ .templateEnd ∧ kind ≠ .privateName ∧
      kind ≠ .regex ∧ kind ≠ .ident ∧ (∀ k, kind ≠ .keyword k) ∧ ∀ p, kind ≠ .punct p := by
    rcases hn with rfl | rfl <;> simp
  obtain ⟨hstr, hchunk, hend, hprivate, hregex, hident, hkeyword, hpunct⟩ := hkinds
  unfold ordinary at h
  dsimp only at h
  split at h
  · split at h
    · rcases attributeString_kind c r with hk | hk <;> simp [hk, eq_comm, hstr] at h
    · rcases string_kind c r with hk | hk <;> simp [hk, eq_comm, hstr] at h
  split at h
  · rcases template_kind r with hk | hk | hk <;> simp [hk, eq_comm, hchunk, hend] at h
  split at h
  · next hdigit => exact .inl hdigit
  split at h
  · next hdot => exact .inr (by simpa using hdot)
  split at h
  · rcases privateName_kind r with hk | hk <;> simp [hk, eq_comm, hprivate] at h
  split at h
  · rcases regex_kind r with hk | hk <;> simp [hk, eq_comm, hregex] at h
  split at h
  · rcases word_kind (LexMode.standard == .jsxTag) (c :: r) with hk | hk | ⟨k, hk⟩ <;>
      simp [hk, eq_comm, hident, hkeyword] at h
  · rcases punctuator_kind (c :: r) with hk | ⟨p, hk⟩ <;> simp [hk, eq_comm, hpunct] at h

/-- Nothing that is skipped starts a number. -/
theorem StartsNumber.not_skipped {c : Char} {r : List Char} (h : StartsNumber c r) :
    (isLineTerminator c = false ∧ isSkipped c = false) ∧ c ≠ '/' := by
  rcases h with hdigit | ⟨rfl, -⟩
  · have hrange := toNat_of_isDecimalDigit hdigit
    refine ⟨?_, ?_⟩
    · by_contra hskip
      simp only [isLineTerminator, isSkipped, isBlank, not_and_or, Bool.not_eq_false,
        Bool.or_eq_true, Bool.and_eq_true, beq_iff_eq, decide_eq_true_eq] at hskip
      rcases hskip with (((rfl | rfl) | h) | h) | h
      · exact absurd hdigit (by decide)
      · exact absurd hdigit (by decide)
      all_goals omega
    · rintro rfl
      exact absurd hdigit (by decide)
  · decide

end Scan

/-- A string in front of a text. -/
theorem IsWhole.lexesTo_string {text : String} (h : IsWhole .str text) (rest : List Char) :
    LexesTo .standard (text.toList ++ rest) .str text rest ∧
      ∃ c r, text.toList = c :: r ∧ c ≠ '/' := by
  have hkind : (Scan.ordinary .standard text.toList).kind = some .str := congrArg Scan.kind h
  obtain ⟨quote, r, hquote, hr, -⟩ := Scan.ordinary_str hkind
  have hscan : ∀ r, scan .standard (quote :: r) = Scan.string quote r := by
    intro r
    rcases hquote with rfl | rfl <;> rfl
  rw [IsWhole, hr, hscan] at h
  have hplain : (Text.isLineTerminator quote = false ∧ isSkipped quote = false) ∧ quote ≠ '/' := by
    rcases hquote with rfl | rfl <;> decide
  refine ⟨.token ?_ ?_, quote, r, hr, hplain.2⟩
  · rw [hr]
    exact noTrivia_of_ne_slash hplain.1 hplain.2
  · rw [hr, List.cons_append, hscan, Scan.string_append (by rw [h]), h]

/-- A number in front of a text that it does not go on with. -/
theorem IsWhole.lexesTo_number {kind : TokenKind} {text : String} (h : IsWhole kind text)
    (hn : Scan.IsNumeric kind) {rest : List Char} (hr : EndsNumber rest) :
    LexesTo .standard (text.toList ++ rest) kind text rest ∧
      ∃ c r, text.toList = c :: r ∧ c ≠ '/' := by
  obtain ⟨c, r, hcs⟩ : ∃ c r, text.toList = c :: r := by
    refine List.exists_cons_of_ne_nil fun hnil => ?_
    rw [IsWhole, hnil] at h
    rcases hn with rfl | rfl <;> cases h
  rw [IsWhole, hcs] at h
  have hstart : Scan.StartsNumber c r := Scan.startsNumber_of_kind hn (congrArg Scan.kind h)
  have hstart' : Scan.StartsNumber c (r ++ rest) := by
    refine hstart.imp_right fun hdot => ⟨hdot.1, ?_⟩
    cases r with
    | nil => exact absurd hdot.2 (by simp)
    | cons d r => exact hdot.2
  obtain ⟨hskip, hslash⟩ := hstart.not_skipped
  have hwhole : Scan.number (c :: r) = ⟨some kind, (c :: r).length⟩ :=
    (Scan.ordinary_number hstart).symm.trans h
  have hnumber : scan .standard (c :: r ++ rest) = Scan.number (c :: r ++ rest) :=
    Scan.ordinary_number hstart'
  refine ⟨.token ?_ ?_, c, r, hcs, hslash⟩
  · rw [hcs]
    exact noTrivia_of_ne_slash hskip hslash
  · rw [hcs, hnumber, Scan.number_append hr, hwhole]

end ImportSeam
