import ImportSeam.Proofs.Reread.Formula
import ImportSeam.Proofs.Reread.Lexeme
import Mathlib.Data.List.Chain

/-!
# The text of a formula

What is printed for a formula starts with a word, a sign before an operand or a parenthesis, and
every sign in it is read again as the operator that it was printed for.  No arrow stands in it, so
nothing in it is taken for the parameters of a function.

## Main definitions

* `Arrowless`, `Plain` — texts without an arrow, also when they are put together.

## Main results

* `isToken_ident`, `isToken_keyword` — plain names and keywords are read as what they are.
* `Expr.IsFormula.plain_chars` — no arrow stands in the text of a formula.
* `lexesTo_binarySign`, `lexesTo_unarySign` — the signs of operators.
-/

namespace ImportSeam

open Text Layout

/-! ### Words -/

namespace Scan

/-- A row of characters of a name is a name. -/
theorem nameRun_of_forall {w : List Char} (h : ∀ c ∈ w, isIdContinue c = true) :
    nameRun isIdContinue w = (w.length, false, true) := by
  induction w with
  | nil => rw [nameRun]; rfl
  | cons c w ih =>
    obtain ⟨hc, hw⟩ := List.forall_mem_cons.mp h
    have hb : c ≠ '\\' := by
      rintro rfl
      exact absurd hc (by decide)
    rw [nameRun_cons w hb hc, ih hw, List.length_cons]

/-- No angle bracket stands in an escape. -/
theorem Escape.ne_gt {e : List Char} (h : Escape e) : ∀ c ∈ e, c ≠ '>' := by
  have hhex : ∀ c, isHexDigit c = true → c ≠ '>' := by
    rintro c hc rfl
    exact absurd hc (by decide)
  cases h with
  | braced hne hd =>
    simp only [List.mem_cons, List.mem_append, List.not_mem_nil, or_false]
    rintro c (rfl | rfl | hc | rfl)
    · decide
    · decide
    · exact hhex c (hd c hc)
    · decide
  | four hlen hd =>
    simp only [List.mem_cons]
    rintro c (rfl | hc)
    · decide
    · exact hhex c (hd c hc)

/-- No angle bracket stands in a name. -/
theorem ne_gt_of_nameRun {cs : List Char} {n : Nat} {escaped : Bool}
    (h : nameRun isIdContinue cs = (n, escaped, true)) : ∀ c ∈ cs.take n, c ≠ '>' := by
  fun_induction nameRun isIdContinue cs generalizing n escaped with
  | case1 => simp
  | case2 r k hk => exact absurd (congrArg (·.2.2) h) Bool.false_ne_true
  | case3 r k hk m e ok hm ih =>
    obtain ⟨rfl, rfl, rfl⟩ : k + 1 + m = n ∧ true = escaped ∧ ok = true := by simpa using h
    rw [Nat.add_right_comm, List.take_succ_cons, List.take_add]
    simp only [List.mem_cons, List.mem_append]
    rintro c (rfl | hc | hc)
    · decide
    · exact (escape_of_nameEscape hk).1.ne_gt c hc
    · exact ih hm c hc
  | case4 c r hb hc m e ok hm ih =>
    obtain ⟨rfl, rfl, rfl⟩ : m + 1 = n ∧ e = escaped ∧ ok = true := by simpa using h
    rw [List.take_succ_cons]
    simp only [List.mem_cons]
    rintro d (rfl | hd)
    · rintro rfl
      exact absurd hc (by decide)
    · exact ih hm d hd
  | case5 c r hb hc =>
    obtain ⟨rfl, rfl⟩ : 0 = n ∧ false = escaped := by simpa using h
    simp

end Scan

/-- A plain name is read as the word that it spells. -/
theorem isToken_word {name : String} (h : isIdentifierName name = true) :
    IsToken .standard (Scan.wordKind false name.toList) name := by
  refine ⟨name.toList, ?_⟩
  unfold isIdentifierName at h
  cases hname : name.toList with
  | nil =>
    rw [hname] at h
    exact nomatch h
  | cons c cs =>
    rw [hname] at h
    simp only [Bool.and_eq_true, List.all_eq_true] at h
    have hall : ∀ d ∈ c :: cs, isIdContinue d = true := by
      intro d hd
      rcases List.mem_cons.mp hd with rfl | hd
      · simp [isIdContinue, h.1]
      · exact h.2 d hd
    have hscan : scan .standard (c :: cs) =
        ⟨some (Scan.wordKind false (c :: cs)), (c :: cs).length⟩ := by
      have hword := Scan.word_eq (Scan.nameRun_of_forall hall)
      rw [List.take_length] at hword
      exact (Scan.ordinary_word (.inr h.1) cs).trans hword
    rw [hscan, List.take_length, ← hname, String.ofList_toList]
    exact ⟨rfl, rfl⟩

/-- A plain name that is no keyword is read as a name. -/
theorem isToken_ident {name : String} (h : isIdentifierName name = true)
    (hk : Keyword.ofWord? name = none) : IsToken .standard .ident name := by
  have hkind : Scan.wordKind false name.toList = .ident := by
    simp [Scan.wordKind, hk]
  exact hkind ▸ isToken_word h

theorem isToken_keyword (k : Keyword) : IsToken .standard (.keyword k) k.spelling := by
  have hk : Keyword.ofWord? k.spelling = some k := by cases k <;> decide
  have hkind : Scan.wordKind false k.spelling.toList = .keyword k := by
    simp [Scan.wordKind, hk]
  refine hkind ▸ isToken_word ?_
  cases k <;> decide

/-- A word starts with a character that nothing else starts with. -/
theorem IsToken.cons_of_word {kind : TokenKind} {text : String} (h : IsToken .standard kind text)
    (hk : isMemberName kind = true) : ∃ c r, text.toList = c :: r ∧ StartsWord c := by
  have hend : EndsWord [] := nofun
  exact (Scan.scan_word h hk hend).2

/-- No angle bracket stands in a word. -/
theorem IsToken.ne_gt {kind : TokenKind} {text : String} (h : IsToken .standard kind text)
    (hk : isMemberName kind = true) : ∀ c ∈ text.toList, c ≠ '>' := by
  obtain ⟨cs, hkind, rfl⟩ := h
  obtain ⟨c, r, rfl, hc⟩ := Scan.cons_of_isMemberName hkind hk
  rw [String.toList_ofList]
  rcases hc with rfl | hc
  · have hprivate : scan .standard ('#' :: r) = (Scan.privateName r).after 1 := rfl
    have hlength : (Scan.privateName r).length ≤ Scan.run isIdContinue r := by
      unfold Scan.privateName
      split
      · split
        · exact Nat.le_refl _
        · exact Nat.zero_le _
      · exact Nat.zero_le _
    have htake : r.take (Scan.run isIdContinue r) = r.takeWhile isIdContinue :=
      (List.prefix_iff_eq_take.1 (List.takeWhile_prefix _)).symm
    rw [hprivate, Scan.after_length, Nat.add_comm, List.take_succ_cons]
    intro d hd
    rcases List.mem_cons.mp hd with rfl | hd
    · decide
    · have hmem := List.take_subset_take_left r hlength hd
      rw [htake] at hmem
      rintro rfl
      exact absurd (List.mem_takeWhile_imp hmem) (by decide)
  · have hword : scan .standard (c :: r) = Scan.word false (c :: r) := Scan.ordinary_word hc r
    rw [hword] at hkind ⊢
    obtain ⟨n, escaped, hrun⟩ := Scan.exists_nameRun_of_word hkind
    rw [Scan.word_eq hrun]
    exact Scan.ne_gt_of_nameRun hrun

/-! ### Texts without an arrow -/

/-- No arrow stands in the text. -/
def Arrowless (cs : List Char) : Prop := cs.IsChain fun c d => ¬(c = '=' ∧ d = '>')

instance : DecidablePred Arrowless := fun cs =>
  inferInstanceAs (Decidable (cs.IsChain fun c d => ¬(c = '=' ∧ d = '>')))

/-- No arrow stands in the text, and none comes about when it is put behind another one. -/
structure Plain (cs : List Char) : Prop where
  arrowless : Arrowless cs
  head : cs.head? ≠ some '>'

namespace Plain

variable {cs ds : List Char}

theorem append (hc : Plain cs) (hd : Plain ds) : Plain (cs ++ ds) where
  arrowless := by
    rw [Arrowless, List.isChain_append]
    exact ⟨hc.arrowless, hd.arrowless, fun _ _ c hmem h => hd.head (h.2 ▸ hmem)⟩
  head := by
    cases cs with
    | nil => exact hd.head
    | cons c cs => exact hc.head

theorem of_ne_gt (h : ∀ c ∈ cs, c ≠ '>') : Plain cs where
  arrowless := by
    induction cs with
    | nil => exact .nil
    | cons c cs ih =>
      obtain ⟨-, hcs⟩ := List.forall_mem_cons.mp h
      refine List.isChain_cons.mpr ⟨fun d hd hcd => ?_, ih hcs⟩
      exact hcs d (List.mem_of_mem_head? hd) hcd.2
  head := fun hc => h _ (List.mem_of_mem_head? hc) rfl

/-- A text that can be looked through. -/
theorem of_all (h : cs.all (· != '>') = true) : Plain cs :=
  of_ne_gt fun c hc => bne_iff_ne.mp (List.all_eq_true.mp h c hc)

theorem nil : Plain [] := of_ne_gt nofun

/-- One more character in front. -/
theorem cons {c : Char} (hc : c ≠ '>') (hd : Plain ds) : Plain (c :: ds) := by
  have hone : Plain [c] := of_ne_gt (by simpa using hc)
  exact hone.append hd

end Plain

/-- Nothing that is read in the text is an arrow. -/
theorem Arrowless.not_prefix {cs : List Char} (h : Arrowless cs) {before rest : List Char} :
    cs ≠ before ++ '=' :: '>' :: rest := by
  rintro rfl
  have hpair := List.IsChain.suffix h (List.suffix_append before _)
  exact (List.isChain_cons_cons.mp hpair).1 ⟨rfl, rfl⟩

theorem plain_binarySign (op : Operator) : Plain (binarySign op).chars := by
  constructor <;> cases op <;> decide

theorem plain_unarySign {op : Operator} (hop : op.isPrefix = true) (e : Expr) :
    Plain (unarySign op e).chars := by
  have hsign : (op.spelling?.getD "").toList.all (· != '>') = true := by
    cases op <;> first | exact absurd hop Bool.false_ne_true | decide
  simp only [unarySign, chars_append, chars_word, chars_when]
  refine (Plain.of_all hsign).append ?_
  split
  · exact .of_all (by decide)
  · exact .nil

theorem plain_updateSign (op : Operator) : Plain (updateSign op).chars := by
  constructor <;> cases op <;> decide

namespace Expr

theorem plain_placed {e : Expr} (h : Plain e.chars) (wrap : Bool) (least : Nat) :
    Plain (e.placed wrap least) := by
  unfold placed
  split
  · exact .cons (by decide) (h.append (.of_all (by decide)))
  · exact h

theorem plain_args {args : List Arg} (h : ∀ a ∈ args, Plain a.value.chars) :
    Plain (argsChars args) := by
  have harg : ∀ a : Arg, Plain a.value.chars → Plain a.chars := by
    intro a ha
    refine Plain.append ?_ (plain_placed ha _ _)
    split
    · exact .of_all (by decide)
    · exact .nil
  induction args with
  | nil =>
    rw [argsChars_nil]
    exact .nil
  | cons a as ih =>
    obtain ⟨ha, has⟩ := List.forall_mem_cons.mp h
    cases as with
    | nil =>
      rw [argsChars_singleton]
      exact harg a ha
    | cons b bs =>
      rw [argsChars_cons]
      exact (harg a ha).append (.cons (by decide) (.cons (by decide) (ih has)))

/-- **No arrow stands in the text of a formula.** -/
theorem IsFormula.plain_chars {e : Expr} (h : e.IsFormula) : Plain e.chars := by
  induction h with
  | ident hid =>
    rw [chars_ident]
    exact .of_ne_gt (hid.ne_gt rfl)
  | this loc =>
    rw [chars_this]
    exact .of_all (by decide)
  | binary loc hop hl hr ihl ihr =>
    rw [chars_binary]
    exact (plain_placed ihl _ _).append ((plain_binarySign _).append (plain_placed ihr _ _))
  | @assignName loc op id r hop hid hr ihr =>
    have hname : Plain (Expr.target (.ident id)).chars := by
      rw [chars_target_ident]
      exact .of_ne_gt (hid.ne_gt rfl)
    rw [chars_binary]
    exact (plain_placed hname _ _).append ((plain_binarySign _).append (plain_placed ihr _ _))
  | assignAccess loc hop haccess hl hr ihl ihr =>
    rw [chars_binary]
    exact (plain_placed ihl _ _).append ((plain_binarySign _).append (plain_placed ihr _ _))
  | cond loc ht hc ha iht ihc iha =>
    have hsigns : Plain " ? ".toList ∧ Plain " : ".toList :=
      ⟨.of_all (by decide), .of_all (by decide)⟩
    rw [chars_cond]
    exact (plain_placed iht _ _).append (hsigns.1.append
      ((plain_placed ihc _ _).append (hsigns.2.append (plain_placed iha _ _))))
  | unary loc hop he ih =>
    rw [chars_unary]
    exact (plain_unarySign hop _).append (plain_placed ih _ _)
  | update loc hop he ih =>
    rw [chars_update]
    exact (plain_placed ih _ _).append (plain_updateSign _)
  | call loc optional hf hargs ihf ihargs =>
    rw [chars_call]
    refine (plain_placed ihf _ _).append (Plain.append ?_ ?_)
    · split
      · exact .of_all (by decide)
      · exact .nil
    · exact .cons (by decide) ((plain_args ihargs).append (.of_all (by decide)))
  | member loc optional he hproperty ih =>
    obtain ⟨kind, hkind, htoken⟩ := hproperty
    rw [chars_member loc optional he]
    refine (plain_placed ih _ _).append (Plain.append ?_ (.of_ne_gt (htoken.ne_gt hkind)))
    split
    · exact .of_all (by decide)
    · exact .of_all (by decide)
  | index loc optional he hk ihe ihk =>
    rw [chars_index]
    refine (plain_placed ihe _ _).append (Plain.append ?_ ?_)
    · split
      · exact .of_all (by decide)
      · exact .nil
    · exact .cons (by decide) ((plain_placed ihk _ _).append (.of_all (by decide)))

end Expr

/-! ### The signs of operators -/

/-- Every operator between operands is the sign or the word that it is spelled with. -/
theorem Operator.exists_sign {op : Operator} (h : (op.isBinary || op.isAssignment) = true) :
    (∃ p ∈ Punctuator.all, op.spelling? = some p.spelling ∧
      Rules.updateOperator? (.punct p) = none ∧ (TokenKind.punct p).infixOperator? = some op) ∨
    ∃ k ∈ Keyword.all, op.spelling? = some k.spelling ∧
      (TokenKind.keyword k).infixOperator? = some op := by
  cases op <;> first | exact absurd h Bool.false_ne_true | decide +kernel

theorem chars_binarySign {op : Operator} {text : String} (h : op.spelling? = some text)
    (hcomma : op ≠ .comma) : (binarySign op).chars = ' ' :: (text.toList ++ [' ']) := by
  rw [binarySign, h]
  · simp
  · exact hcomma

/-- **The sign between two operands** is read as the operator that it was printed for. -/
theorem lexesTo_binarySign {op : Operator} (h : (op.isBinary || op.isAssignment) = true) :
    ∃ kind text,
      (∀ rest, LexesTo .standard ((binarySign op).chars ++ rest) kind text (' ' :: rest)) ∧
      Rules.updateOperator? kind = none ∧ kind.infixOperator? = some op := by
  by_cases hcomma : op = .comma
  · subst hcomma
    exact ⟨_, _, fun rest => lexesTo_punct (p := .comma) (Punctuator.stands_blank _ rest), rfl, rfl⟩
  · rcases op.exists_sign h with ⟨p, -, hspelling, hu, hi⟩ | ⟨k, -, hspelling, hi⟩
    · refine ⟨_, p.spelling, fun rest => ?_, hu, hi⟩
      have htoken := lexesTo_punct (p.stands_blank rest)
      rw [← p.toList_spelling] at htoken
      rw [chars_binarySign hspelling hcomma, List.cons_append, List.append_assoc]
      exact .blank htoken
    · refine ⟨_, k.spelling, fun rest => ?_, rfl, hi⟩
      have htoken := lexesTo_word (isToken_keyword k) rfl
        (endsWord_cons (c := ' ') (by decide) rest)
      rw [chars_binarySign hspelling hcomma, List.cons_append, List.append_assoc]
      exact .blank htoken

namespace Expr

/-- What holds together like an operation behind its operand starts with a word or a
parenthesis. -/
theorem IsFormula.cons_of_sixteen_le {e : Expr} (h : e.IsFormula) (hm : 16 ≤ e.precedence) :
    ∃ c r, e.chars = c :: r ∧ (c = '(' ∨ StartsWord c) := by
  have hplaced : ∀ {e : Expr} {least : Nat} (rest : List Char), 16 ≤ least →
      (16 ≤ e.precedence → ∃ c r, e.chars = c :: r ∧ (c = '(' ∨ StartsWord c)) →
      ∃ c r, e.placed false least ++ rest = c :: r ∧ (c = '(' ∨ StartsWord c) := by
    intro e least rest hleast he
    cases hw : e.isWrapped false least with
    | true => exact ⟨_, _, by rw [placed_of hw]; rfl, .inl rfl⟩
    | false =>
      obtain ⟨c, r, hc, hstart⟩ := he (Nat.le_trans hleast (le_precedence_of_not hw))
      exact ⟨c, r ++ rest, by rw [placed_of_not hw, hc]; rfl, hstart⟩
  induction h with
  | ident hid =>
    obtain ⟨c, r, hc, hstart⟩ := hid.cons_of_word rfl
    exact ⟨c, r, by rw [chars_ident, hc], .inr hstart⟩
  | this loc => exact ⟨'t', _, by rw [chars_this]; rfl, .inr (.inr (.inr rfl))⟩
  | binary loc hop =>
    have := Operator.precedence_of_isBinary hop
    rw [precedence] at hm
    omega
  | assignName loc hop =>
    rw [precedence, Operator.precedence_of_isAssignment hop] at hm
    exact absurd hm (by decide)
  | assignAccess loc hop =>
    rw [precedence, Operator.precedence_of_isAssignment hop] at hm
    exact absurd hm (by decide)
  | cond loc => exact absurd hm (show ¬16 ≤ 3 by decide)
  | unary loc hop =>
    rw [precedence, Operator.precedence_of_isPrefix hop] at hm
    exact absurd hm (by decide)
  | update loc hop he ih =>
    rw [chars_update]
    exact hplaced _ (Nat.le_of_eq (Operator.precedence_of_isPostfix hop).symm) ih
  | call loc optional hf hargs ih =>
    rw [chars_call]
    exact hplaced _ (by decide) ih
  | member loc optional he hproperty ih =>
    rw [chars_member loc optional he]
    exact hplaced _ (by decide) ih
  | index loc optional he hk ih =>
    rw [chars_index]
    exact hplaced _ (by decide) ih

end Expr

/-- The signs that stand before an operand. -/
def prefixSigns : List Punctuator := [.bang, .minus, .minusMinus, .plus, .plusPlus, .tilde]

/-- Every operator before an operand is the sign or the word that it is spelled with. -/
theorem Operator.exists_prefixSign {op : Operator} (h : op.isPrefix = true) :
    (∃ p ∈ prefixSigns, op.spelling? = some p.spelling ∧
      (TokenKind.punct p).prefixOperator? = some op) ∨
    ∃ k ∈ Keyword.all, op.spelling? = some k.spelling ∧
      (TokenKind.keyword k).prefixOperator? = some op := by
  cases op <;> first | exact absurd h Bool.false_ne_true | decide +kernel

/-- A sign before an operand goes on only with an equals sign or another sign. -/
theorem joins_of_prefixSign {p : Punctuator} (hp : p ∈ prefixSigns) {c : Char}
    (hc : c ≠ '=' ∧ c ≠ '-' ∧ c ≠ '+') : p.joins c = false := by
  have hnext : ∀ p ∈ prefixSigns, ∀ q ∈ Punctuator.all, p.chars.isPrefixOf q.chars = true →
      q.chars[p.chars.length]?.all (['=', '-', '+'].contains ·) = true := by
    decide +kernel
  have hplain : ∀ p ∈ prefixSigns, p ≠ .dot ∧ p ≠ .questionDot ∧ p ≠ .slash := by decide
  obtain ⟨hdot, hquestion, hslash⟩ := hplain p hp
  refine Punctuator.joins_eq_false (fun q hq hstarts hchar => ?_)
    (fun h => (h.elim hdot hquestion).elim) fun h => absurd h hslash
  have hmem := hnext p hp q hq hstarts
  rw [hchar] at hmem
  simp [hc] at hmem

/-- Two signs before an operand are read as two where no blank stands between them. -/
theorem joins_of_not_merging : ∀ p ∈ prefixSigns, ∀ q ∈ prefixSigns,
    ∀ op ∈ (TokenKind.punct p).prefixOperator?, ∀ inner ∈ (TokenKind.punct q).prefixOperator?,
      ((op.spelling? == some "-" && (inner == .unaryNegation || inner == .prefixDecrement)) ||
        (op.spelling? == some "+" && (inner == .unaryPlus || inner == .prefixIncrement))) = false →
      p.joins (q.chars.headD ' ') = false := by
  decide +kernel

namespace Expr

/-- An operand that no blank is put before starts with a character that the sign before it does not
go on with. -/
theorem IsFormula.cons_of_operand {e : Expr} (he : e.IsFormula) {op : Operator} {p : Punctuator}
    (hp : p ∈ prefixSigns) (hop : (TokenKind.punct p).prefixOperator? = some op)
    (hmerge : e.mergesAfter op = false) :
    ∃ c r, e.placed false 15 = c :: r ∧ p.joins c = false := by
  cases hw : e.isWrapped false 15 with
  | true => exact ⟨_, _, by rw [placed_of hw], joins_of_prefixSign hp (by decide)⟩
  | false =>
    have hprec := le_precedence_of_not hw
    rw [placed_of_not hw]
    have hword : ∀ {c}, StartsWord c → p.joins c = false := by
      intro c hc
      exact joins_of_prefixSign hp ⟨hc.ne (by decide), hc.ne (by decide), hc.ne (by decide)⟩
    rcases he.precedence_cases with ⟨loc, bop, l, r, rfl, hbop⟩ | ⟨loc, t, c, a, rfl⟩ |
      ⟨loc, inner, arg, rfl, hinner⟩ | ⟨hm, -⟩
    · rw [precedence] at hprec
      rcases hbop with hbop | hbop
      · have := Operator.precedence_of_isBinary hbop
        omega
      · rw [Operator.precedence_of_isAssignment hbop] at hprec
        exact absurd hprec (by decide)
    · exact absurd hprec (show ¬15 ≤ 3 by decide)
    · rw [chars_unary, unarySign]
      simp only [chars_append, chars_word]
      rcases inner.exists_prefixSign hinner with ⟨q, hq, hspelling, hqop⟩ | ⟨k, -, hspelling, -⟩
      · have hjoins := joins_of_not_merging p hp q hq op hop inner hqop hmerge
        rw [hspelling, Option.getD_some, q.toList_spelling]
        cases hchars : q.chars with
        | nil =>
          have := Scan.chars_length_pos q
          rw [hchars] at this
          exact absurd this (by decide)
        | cons c r =>
          rw [hchars] at hjoins
          exact ⟨c, _, rfl, hjoins⟩
      · obtain ⟨c, r, hc, hstart⟩ := (isToken_keyword k).cons_of_word rfl
        rw [hspelling, Option.getD_some, hc]
        exact ⟨c, _, rfl, hword hstart⟩
    · obtain ⟨c, r, hc, hstart⟩ := he.cons_of_sixteen_le hm
      refine ⟨c, r, hc, ?_⟩
      rcases hstart with rfl | hstart
      · exact joins_of_prefixSign hp (by decide)
      · exact hword hstart

end Expr

/-- **The sign before an operand** is read as the operator that it was printed for, in front of the
operand or of a blank and the operand. -/
theorem lexesTo_unarySign {op : Operator} (hop : op.isPrefix = true) {e : Expr} (he : e.IsFormula)
    (rest : List Char) : ∃ kind text after,
      LexesTo .standard ((unarySign op e).chars ++ (e.placed false op.precedence ++ rest))
        kind text after ∧
      (after = e.placed false op.precedence ++ rest ∨
        after = ' ' :: (e.placed false op.precedence ++ rest)) ∧
      kind.prefixOperator? = some op ∧ ∃ c r, text.toList = c :: r ∧ c ≠ '/' := by
  simp only [unarySign, chars_append, chars_word, chars_when, List.append_assoc]
  rcases op.exists_prefixSign hop with ⟨p, hp, hspelling, hpop⟩ | ⟨k, -, hspelling, hkop⟩
  · have hletters : ∀ p ∈ prefixSigns, p.spelling.toList.all Char.isAlpha = false := by decide
    have hhead : ∀ p ∈ prefixSigns, ∃ c r, p.spelling.toList = c :: r ∧ c ≠ '/' := by
      intro p hp
      simp only [prefixSigns, List.mem_cons, List.not_mem_nil, or_false] at hp
      rcases hp with rfl | rfl | rfl | rfl | rfl | rfl <;> exact ⟨_, _, rfl, by decide⟩
    rw [hspelling, Option.getD_some, hletters p hp, Bool.false_or]
    cases hmerge : e.mergesAfter op with
    | true =>
      have htoken := lexesTo_punct (p.stands_blank (e.placed false op.precedence ++ rest))
      rw [← p.toList_spelling] at htoken
      exact ⟨_, p.spelling, _, htoken, .inr rfl, hpop, hhead p hp⟩
    | false =>
      obtain ⟨c, r, hc, hjoins⟩ := he.cons_of_operand hp hpop hmerge
      rw [← Operator.precedence_of_isPrefix hop] at hc
      have hstands : p.Stands (e.placed false op.precedence ++ rest) := by
        rw [hc]
        exact Punctuator.stands_cons hjoins _
      have htoken := lexesTo_punct hstands
      rw [← p.toList_spelling] at htoken
      exact ⟨_, p.spelling, _, htoken, .inl rfl, hpop, hhead p hp⟩
  · have hletters : k.spelling.toList.all Char.isAlpha = true := by cases k <;> decide
    obtain ⟨c, r, hc, hstart⟩ := (isToken_keyword k).cons_of_word rfl
    rw [hspelling, Option.getD_some, hletters]
    have htoken := lexesTo_word (isToken_keyword k) rfl
      (endsWord_cons (c := ' ') (by decide) (e.placed false op.precedence ++ rest))
    exact ⟨_, k.spelling, _, htoken, .inr rfl, hkop, c, r, hc, hstart.ne (by decide)⟩

end ImportSeam
