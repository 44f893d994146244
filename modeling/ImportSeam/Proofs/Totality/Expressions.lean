import ImportSeam.Proofs.Totality.Terms

/-!
# Expressions are read to an end

Where an operand is expected, the next token is looked at in one mode and consumed in another;
unless it is a regular expression, it is the same token in both.  An arrow that is given up, and an
operator that binds too loosely, are taken back, so what is left afterwards is what was left
before.

## Main results

* `upcoming_standard_of_operand` — a token that is the same in both modes.
* `Rules.Total.operatorExpr` — a whole expression.
-/

namespace ImportSeam

open TokenParser

variable {src : Cursor} {b b' : TokenBuffer} {ctx : Context} {r : Rules} {d : Nat}

/-! ### Tokens before an operand -/

/-- Only a slash is read differently where an operand is expected. -/
theorem scan_standard_of_operand {cs : List Char} {kind : TokenKind}
    (h : (scan .operand cs).kind = some kind) (hk : kind ≠ .regex) :
    scan .standard cs = scan .operand cs := by
  cases cs with
  | nil => rfl
  | cons c r =>
    by_cases hc : c = '/'
    · subst hc
      have hregex : scan .operand ('/' :: r) = Scan.regex r := rfl
      rw [hregex] at h
      rcases Scan.regex_kind r with hr | hr
      · exact nomatch hr.symm.trans h
      · exact absurd (Option.some.inj (hr.symm.trans h)).symm hk
    · have htag : (LexMode.standard == LexMode.jsxTag) = (LexMode.operand == LexMode.jsxTag) := rfl
      simp [scan, Scan.ordinary, hc, htag]

/-- A token that is not a regular expression is the same whether or not an operand is expected. -/
theorem upcoming_standard_of_operand (hi : (b.upcoming .operand).kind ≠ .invalid)
    (hk : (b.upcoming .operand).kind ≠ .regex) : b.upcoming .standard = b.upcoming .operand := by
  have hscan := scan_standard_of_operand (scan_kind_of_upcoming rfl hi) hk
  have htrivia : LexMode.trivia .standard = LexMode.trivia .operand := rfl
  simp only [TokenBuffer.upcoming, readToken, htrivia, hscan]

theorem solid_standard_of_operand {kind : TokenKind} (h : (b.upcoming .operand).kind = kind)
    (hs : kind.Solid) (hk : kind ≠ .regex) : (b.upcoming .standard).kind.Solid := by
  rw [upcoming_standard_of_operand (h ▸ hs.2) (h ▸ hk), h]
  exact hs

theorem solid_of_prefixOperator? {kind : TokenKind} {op : Operator}
    (h : kind.prefixOperator? = some op) : kind.Solid := by
  refine ⟨?_, ?_⟩ <;> rintro rfl <;> exact nomatch h

theorem solid_of_prefixAt? {kind : TokenKind} {op : Operator}
    (h : Rules.prefixAt? ctx kind = some op) : kind.Solid := by
  unfold Rules.prefixAt? at h
  split at h
  · exact nomatch h
  · exact solid_of_prefixOperator? h

theorem solid_of_infixOperator? {kind : TokenKind} {op : Operator}
    (h : kind.infixOperator? = some op) : kind.Solid := by
  refine ⟨?_, ?_⟩ <;> rintro rfl <;> exact nomatch h

theorem solid_of_updateOperator? {kind : TokenKind} {op : Operator}
    (h : Rules.updateOperator? kind = some op) : kind.Solid := by
  refine ⟨?_, ?_⟩ <;> rintro rfl <;> exact nomatch h

theorem solid_of_isMemberName {kind : TokenKind} (h : isMemberName kind = true) : kind.Solid := by
  refine ⟨?_, ?_⟩ <;> rintro rfl <;> exact nomatch h

theorem safe_ofExcept {α : Type} {x : Except SyntaxError α} {P : α → Prop}
    (hx : FailsSanely src x) (h : ∀ a, x = .ok a → P a) :
    Safe src b (TokenParser.ofExcept x) fun a _ => P a := by
  cases x with
  | ok a => exact .pure (h a rfl)
  | error e => exact .throw (hx e rfl)

theorem safe_nameExpr : Safe src b (nameExpr ctx) fun e b' => b'.left < b.left ∧ e.Inside src :=
  safe_bindingName.bind fun _ _ _ h => .pure h

theorem safe_memberAccess {e : Expr} (he : e.Inside src) (optional : Bool) :
    Safe src b (Rules.memberAccess e optional) fun e' b' => b'.left < b.left ∧ e'.Inside src := by
  refine .consume .standard (fun _ hw b₁ hlt => ?_) fun hbad hw b₁ _ => ?_
  · exact .ite (fun _ => .reject hw) fun _ => .pure ⟨hlt.1, he.within.join hw⟩
  · refine .ite (fun _ => .reject hw) fun h => absurd (solid_of_isMemberName ?_) hbad
    simpa using h

namespace Rules.Total

variable (hr : r.Total src d)
include hr

theorem args (hd : r.Room d b 2) : Safe src b (r.args ctx) fun _ b' => b'.left < b.left := by
  have harg : ∀ b₁, b₁.left ≤ b.left → Safe src b₁ (do
      let isSpread ← acceptPunct .ellipsis
      let value ← r.assignment ctx [.punct .comma, .punct .rParen]
      return (⟨isSpread, value⟩ : Arg)) fun _ _ => True := by
    intro b₁ hb₁
    refine (safe_acceptPunct _ _).bind fun _ b₂ _ _ => ?_
    exact (hr.assignment _ (by omega)).bind fun e b₃ _ _ => .pure trivial
  exact (Safe.separated .rParen _ _ (by omega) harg).mono fun _ _ _ h => h.1

/-! ### Arrow functions -/

/-- Parameters that are found were taken; whatever else was consumed may be taken back. -/
theorem arrowParams? (hd : r.Room d b 1) :
    SafeFrom src b b (r.arrowParams? ctx) fun o b' =>
      o.isSome = true → b.Takes b' ∧ b'.left < b.left := by
  rw [Rules.arrowParams?_eq]
  refine .chain (safe_peekKind _) fun k b₁ h₁ => ?_
  have hle := h₁.1.bounds
  refine .ite (fun _ => ?_) fun _ => ?_
  · have hparams : Safe src b₁ (some <$> r.params ctx) fun _ b' => b'.left < b.left :=
      .map ((hr.params (by omega)).mono fun _ _ _ h => by omega)
    -- a failure says that no parameters stand here, and what was consumed stays to be taken back
    refine .tryCatch ((hparams.after h₁.1).mono fun _ _ h _ => h) fun e b₂ he => ?_
    exact .ite (fun _ => .throw he) fun _ => .pure (by simp)
  · refine .chain (safeFrom_consume _) fun t b₂ h₂ => ?_
    obtain ⟨rfl, h₂⟩ := h₂
    refine .ite (fun hname => .pure fun _ => ?_) fun _ => .pure (by simp)
    have hsolid := Context.solid_of_isName hname
    refine ⟨h₁.1.trans (.of_read h₂ hsolid.2), ?_⟩
    have hlt := h₂.left_lt hsolid
    omega

theorem arrowHead? (hd : r.Room d b 1) :
    Safe src b (r.arrowHead? ctx) fun o b' => o.isSome = true → b'.left < b.left := by
  refine SafeFrom.chain safe_mark fun start b₁ h₁ => ?_
  obtain ⟨-, rfl, rfl⟩ := h₁
  refine .chain (hr.arrowParams? hd) fun o b₂ h₂ => ?_
  have back : ∀ b₃, SafeFrom src b₁ b₃ (do restore b₁.mark; return none) fun o b' =>
      b₁.Takes b' ∧ ((o : Option (List Param)).isSome = true → b'.left < b₁.left) := fun b₃ =>
    .chain .restore fun _ b₄ h₄ => .pure ⟨.of_nil h₄, by simp⟩
  cases o with
  | none => exact back b₂
  | some ps =>
    obtain ⟨ht, hlt⟩ := h₂ rfl
    -- parameters without an arrow behind them are taken back as well
    refine .chain ((safe_peek _).after ht) fun t b₃ h₃ => ?_
    obtain ⟨ht₃, rfl, hw, -⟩ := h₃
    refine .ite (fun _ => back b₃) fun harrow => ?_
    refine .ite (fun _ => .throw (Token.error_sane hw _)) fun _ => Safe.after ht₃ ?_
    have hkind : (b₃.upcoming .standard).kind = .punct .arrow := by simpa using harrow
    have hle := ht₃.bounds
    exact (safe_skip (hkind ▸ solid_punct _)).bind fun _ b₄ _ _ => .pure fun _ => by omega

theorem arrow? (isAsync : Bool) (ends : List TokenKind) (hd : r.Room d b 1) :
    Safe src b (r.arrow? ctx isAsync ends) fun o b' =>
      ∀ e ∈ o, b'.left < b.left ∧ e.Inside src := by
  refine safe_mark.bind fun start b₁ _ h₁ => ?_
  obtain ⟨rfl, rfl⟩ := h₁
  refine (hr.arrowHead? hd).bind fun o b₂ _ h₂ => ?_
  cases o with
  | none => exact .pure (by simp)
  | some ps =>
    have hlt := h₂ rfl
    refine (safe_peekKind _).bind fun k b₃ _ _ => .join ?_
    have hbody : Safe src b₃ (if (k == .punct .lBrace) = true then
        FuncBody.block <$> r.block (ctx.ofArrow isAsync)
        else FuncBody.expr <$> r.assignment (ctx.ofArrow isAsync) ends) fun _ _ => True :=
      .ite (fun _ => .map ((hr.block (by omega)).mono fun _ _ _ _ => trivial))
        fun _ => .map ((hr.assignment _ (by omega)).mono fun _ _ _ _ => trivial)
    refine hbody.bind fun body b₄ _ _ => ?_
    refine (safe_since (by omega)).bind fun loc b₅ _ h₅ => .pure ?_
    obtain ⟨hw, rfl⟩ := h₅
    rintro e he
    obtain rfl := Option.some.inj he
    exact ⟨by omega, hw⟩

theorem arrowOrParenthesized (ends : List TokenKind) (hd : r.Room d b 1) :
    Safe src b (r.arrowOrParenthesized ctx ends) fun e b' => b'.left < b.left ∧ e.Inside src := by
  refine (hr.arrow? false ends hd).bind fun o b₁ _ h₁ => ?_
  cases o with
  | some e => exact .pure (h₁ e rfl)
  | none => exact (hr.parenthesized (by omega)).mono fun e _ _ he => ⟨by omega, he.2⟩

theorem nameOrArrow (ends : List TokenKind) (hd : r.Room d b 1) :
    Safe src b (r.nameOrArrow ctx ends) fun e b' => b'.left < b.left ∧ e.Inside src := by
  refine safe_peekTwo.bind fun ts b₁ _ _ => ?_
  have name : ∀ b₂, b₂.left ≤ b.left → Safe src b₂ (nameExpr ctx) fun e b' =>
      b'.left < b.left ∧ e.Inside src := fun b₂ _ =>
    safe_nameExpr.mono fun e _ _ he => ⟨by omega, he.2⟩
  refine .ite (fun _ => ?_) fun _ => name b₁ (by omega)
  refine (hr.arrow? false ends (by omega)).bind fun o b₂ _ h₂ => ?_
  cases o with
  | some e =>
    have h := h₂ e rfl
    exact .pure ⟨by omega, h.2⟩
  | none => exact name b₂ (by omega)

theorem asyncOrName (hword : (b.upcoming .standard).isWord "async" = true) (ends : List TokenKind)
    (hd : r.Room d b 1) :
    Safe src b (r.asyncOrName ctx ends) fun e b' => b'.left < b.left ∧ e.Inside src := by
  refine safe_peekTwo.bind fun ts b₁ _ h₁ => ?_
  obtain ⟨rfl, -, hpos⟩ := h₁
  have hsolid : (b₁.upcoming .standard).kind.Solid := by
    rw [TokenBuffer.upcoming, hpos]
    exact Token.solid_of_isWord hword
  have name : ∀ b₂, b₂.left ≤ b.left → Safe src b₂ (r.nameOrArrow ctx ends) fun e b' =>
      b'.left < b.left ∧ e.Inside src := fun b₂ _ =>
    (hr.nameOrArrow ends (by omega)).mono fun e _ _ he => ⟨by omega, he.2⟩
  refine .ite (fun _ => .ite (fun _ => ?_) fun _ => .ite (fun _ => ?_) fun _ => name b₁ (by omega))
    fun _ => name b₁ (by omega)
  · exact (hr.funcExpr (by omega)).mono fun e _ _ he => ⟨by omega, he.2⟩
  refine safe_mark.bind fun start b₂ _ h₂ => ?_
  obtain ⟨rfl, rfl⟩ := h₂
  -- the word itself may be taken back
  refine SafeFrom.chain (safe_skip hsolid) fun _ b₃ h₃ => ?_
  refine .chain (Safe.after h₃.1 (hr.arrow? true ends (by omega))) fun o b₄ h₄ => ?_
  cases o with
  | some e =>
    have h := h₄.2 e rfl
    exact .pure ⟨h₄.1, by omega, h.2⟩
  | none =>
    refine .chain .restore fun _ b₅ h₅ => Safe.after (.of_nil h₅) (name b₅ ?_)
    have hle := h₅.left_le
    omega

/-! ### Parts of operands -/

theorem yieldExpr (ends : List TokenKind) (hd : r.Room d b 1) :
    Safe src b (r.yieldExpr ctx ends) fun e b' => b'.left < b.left ∧ e.Inside src := by
  refine .spanning ((safe_expectKeyword _).bind fun _ b₁ _ _ => ?_)
  refine (safe_acceptPunct _ _).bind fun delegate b₂ _ _ => ?_
  refine (safe_peek _).bind fun t b₃ _ _ => ?_
  have harg : Safe src b₃ (TokenParser.optionally (delegate || !endsYield ends t)
      (r.assignment ctx ends)) fun _ _ => True :=
    .optionally (fun _ => (hr.assignment _ (by omega)).mono fun _ _ _ _ => trivial) fun _ => trivial
  exact harg.bind fun arg b₄ _ _ => .pure fun _ hw => ⟨by omega, hw⟩

theorem importExpr (hd : r.Room d b 1) :
    Safe src b (r.importExpr ctx) fun e b' => b'.left < b.left ∧ e.Inside src := by
  refine .spanning ((safe_expectKeyword _).bind fun _ b₁ _ _ => ?_)
  refine (safe_acceptPunct _ _).bind fun _ b₂ _ _ => .ite (fun _ => ?_) fun _ => ?_
  · exact (safe_expectWord _).bind fun _ b₃ _ _ => .pure fun _ hw => ⟨by omega, hw⟩
  refine (safe_expectPunct _ _).bind fun _ b₃ _ _ => ?_
  refine (hr.assignment _ (by omega)).bind fun e b₄ _ _ => ?_
  refine (Safe.discard ((safe_acceptPunct _ _).mono fun _ _ _ _ => trivial)).bind fun _ b₅ _ _ => ?_
  exact (safe_expectPunct _ _).bind fun _ b₆ _ _ => .pure fun _ hw => ⟨by omega, hw⟩

theorem indexAccess {e : Expr} (he : e.Inside src) (optional : Bool) (hd : r.Room d b 2) :
    Safe src b (r.indexAccess ctx e optional) fun e' b' => b'.left < b.left ∧ e'.Inside src := by
  refine (hr.sequence _ hd.1).bind fun k b₁ _ _ => ?_
  refine (safe_expect (solid_punct _) _).bind fun t b₂ _ h₂ => .pure ⟨by omega, ?_⟩
  exact he.within.join h₂.2.2.1

theorem taggedTemplate {e : Expr} {t : Token} (he : e.Inside src) (hw : t.loc.Within src)
    (hd : r.Room d b 2) :
    Safe src b (r.taggedTemplate ctx e t) fun e' _ => e'.Inside src :=
  (hr.templateAfter hd hw).bind fun _ _ _ hps => .pure (he.within.join hps)

theorem calleeTail : ∀ (n : Nat) (b : TokenBuffer) (e : Expr), b.left < n →
    r.Room d b 1 → e.Inside src →
    Safe src b (r.calleeTail ctx e n) fun e' _ => e'.Inside src
  | 0, _, _, hn, _, _ => absurd hn (Nat.not_lt_zero _)
  | n + 1, b, e, hn, hd, he => by
    refine (safe_peekKind _).bind fun k b₁ _ h₁ => ?_
    obtain ⟨hk, -⟩ := h₁
    -- every link takes the token that it starts with
    split
    · refine (safe_skip (hk ▸ solid_punct _)).bind fun _ b₂ _ _ => ?_
      exact (safe_memberAccess he _).bind fun e' b₃ _ he' =>
        calleeTail n b₃ e' (by omega) (by omega) he'.2
    · refine (safe_skip (hk ▸ solid_punct _)).bind fun _ b₂ _ _ => ?_
      exact (hr.indexAccess he _ (by omega)).bind fun e' b₃ _ he' =>
        calleeTail n b₃ e' (by omega) (by omega) he'.2
    · refine (safe_take (hk ▸ solid_templateChunk)).bind fun t b₂ _ h₂ => ?_
      exact (hr.taggedTemplate he h₂.2.1 (by omega)).bind fun e' b₃ _ he' =>
        calleeTail n b₃ e' (by omega) (by omega) he'
    · refine (safe_take (hk ▸ solid_templateEnd)).bind fun t b₂ _ h₂ => ?_
      exact (hr.taggedTemplate he h₂.2.1 (by omega)).bind fun e' b₃ _ he' =>
        calleeTail n b₃ e' (by omega) (by omega) he'
    · exact .pure he

theorem constructExpr (hd : r.Room d b 1) :
    Safe src b (r.constructExpr ctx) fun e b' => b'.left < b.left ∧ e.Inside src := by
  refine .spanning ((safe_expectKeyword _).bind fun _ b₁ _ _ => ?_)
  refine (safe_acceptPunct _ _).bind fun _ b₂ _ _ => .ite (fun _ => ?_) fun _ => ?_
  · exact (safe_expectWord _).bind fun _ b₃ _ _ => .pure fun _ hw => ⟨by omega, hw⟩
  refine (safe_peekKind _).bind fun k b₃ _ _ => .join ?_
  have hstart : Safe src b₃ (if (k == .keyword .kNew) = true then r.construct ctx
      else r.operand ctx []) fun e b' => b'.left < b₃.left ∧ e.Inside src :=
    .ite (fun _ => hr.construct (by omega)) fun _ => hr.operand _ (by omega)
  refine hstart.bind fun e b₄ _ he => ?_
  refine (hr.calleeTail _ _ _ (by omega) (by omega) he.2).bind fun callee b₅ _ _ => ?_
  refine (safe_acceptPunct _ _).bind fun ok b₆ _ _ => ?_
  have hargs : Safe src b₆ (TokenParser.optionally ok (r.args ctx)) fun _ _ => True :=
    .optionally (fun _ => (hr.args (by omega)).mono fun _ _ _ _ => trivial) fun _ => trivial
  exact hargs.bind fun args b₇ _ _ => .pure fun _ hw => ⟨by omega, hw⟩

theorem arrayElems : ∀ (n : Nat) (b : TokenBuffer), b.left < n → r.Room d b 2 →
    Safe src b (r.arrayElems ctx n) fun es _ => elemsInside src es
  | 0, _, hn, _ => absurd hn (Nat.not_lt_zero _)
  | n + 1, b, hn, hd => by
    refine (safe_acceptPunct _ _).bind fun _ b₁ _ _ => .ite (fun _ => .pure trivial) fun _ => ?_
    refine (safe_acceptPunct _ _).bind fun _ b₂ _ h₂ => .ite (fun hok => ?_) fun _ => ?_
    · -- a hole is paid for by its comma
      have hlt := h₂ hok
      exact (arrayElems n b₂ (by omega) (by omega)).bind fun es b₃ _ h => .pure h
    refine (safe_acceptPunct _ _).bind fun isSpread b₃ _ _ => ?_
    refine (hr.assignment _ (by omega)).bind fun e b₄ _ he => ?_
    refine (safe_acceptPunct _ _).bind fun _ b₅ _ _ => .ite (fun _ => ?_) fun _ => ?_
    · refine (arrayElems n b₅ (by omega) (by omega)).bind fun es b₆ _ h => .pure ?_
      cases isSpread <;> exact ⟨he.2, h⟩
    · refine (safe_expectPunct _ _).bind fun _ b₆ _ _ => .pure ?_
      cases isSpread <;> exact ⟨he.2, trivial⟩

theorem arrayLiteral (hd : r.Room d b 1) :
    Safe src b (r.arrayLiteral ctx) fun e b' => b'.left < b.left ∧ e.Inside src := by
  refine .spanning ((safe_expectPunct _ _).bind fun _ b₁ _ _ => ?_)
  exact (hr.arrayElems _ _ (by omega) (by omega)).bind fun es b₂ _ h =>
    .pure fun _ hw => ⟨by omega, hw, h⟩

theorem unaryExpr (hk : (b.upcoming .operand).kind.Solid) (op : Operator) (ends : List TokenKind)
    (hd : r.Room d b 1) :
    Safe src b (r.unaryExpr ctx op ends) fun e b' => b'.left < b.left ∧ e.Inside src := by
  refine .spanning ((safe_skip hk).bind fun _ b₁ _ _ => ?_)
  exact (hr.expr _ _ (by omega)).bind fun e b₂ _ _ => .pure fun _ hw => ⟨by omega, hw⟩

/-! ### Whole expressions -/

/-- An operand whose first token is looked at where an operand is expected. -/
theorem primaryExpr (ends : List TokenKind) (hd : r.Room d b 1)
    (hw : (b.upcoming .operand).loc.Within src) :
    Safe src b (r.primaryExpr ctx ends (b.upcoming .operand)) fun e b' =>
      b'.left < b.left ∧ e.Inside src := by
  -- a word or the first token of a template is consumed in the standard mode
  have word : ∀ {k}, (b.upcoming .operand).kind = .keyword k →
      (b.upcoming .standard).kind.Solid := fun hk =>
    solid_standard_of_operand hk (solid_keyword _) (by simp)
  have template : (b.upcoming .standard).kind.Solid → Safe src b (do
      let first ← consume
      let text ← r.templateAfter ctx first
      return Expr.template text.2 text.1) fun e b' => b'.left < b.left ∧ e.Inside src := by
    intro hsolid
    refine (safe_take hsolid).bind fun t b₁ _ h₁ => ?_
    exact (hr.templateAfter (by omega) h₁.2.1).bind fun _ _ _ h => .pure ⟨by omega, h⟩
  unfold Rules.primaryExpr
  split
  · exact hr.constructExpr hd
  · exact hr.importExpr hd
  · exact .spanning ((hr.element hd).bind fun _ _ _ _ => .pure fun _ hw => ⟨by omega, hw⟩)
  · exact hr.arrowOrParenthesized ends hd
  · exact hr.arrayLiteral hd
  · exact hr.objectLiteral hd
  · exact hr.funcExpr hd
  · exact hr.classExpr hd
  · exact (safe_expect solid_bigInt _).bind fun u b₁ _ hu => .pure ⟨by omega, hu.2.2.1⟩
  · next hk => exact (safe_take (word hk)).bind fun _ _ _ h => .pure ⟨by omega, h.2.1⟩
  · next hk => exact (safe_take (word hk)).bind fun _ _ _ h => .pure ⟨by omega, h.2.1⟩
  · next hk => exact (safe_take (word hk)).bind fun _ _ _ h => .pure ⟨by omega, h.2.1⟩
  · refine (safe_expect solid_num _).bind fun u b₁ _ hu => ?_
    split
    · exact .pure ⟨by omega, hu.2.2.1⟩
    · exact .reject hu.2.2.1
  · exact (safe_expect solid_regex _).bind fun u b₁ _ hu => .pure ⟨by omega, hu.2.2.1⟩
  · exact safe_stringValue.bind fun _ _ _ h => .pure ⟨by omega, h.2⟩
  · next hk => exact template (solid_standard_of_operand hk solid_templateChunk (by simp))
  · next hk => exact template (solid_standard_of_operand hk solid_templateEnd (by simp))
  · next hk => exact (safe_take (word hk)).bind fun _ _ _ h => .pure ⟨by omega, h.2.1⟩
  · next hk => exact (safe_take (word hk)).bind fun _ _ _ h => .pure ⟨by omega, h.2.1⟩
  · refine .ite (fun hasync => hr.asyncOrName ?_ ends hd) fun _ => ?_
    · have hident : (b.upcoming .operand).kind = .ident := by
        simp only [Token.isWord, Bool.and_eq_true, beq_iff_eq] at hasync
        exact hasync.1
      rw [upcoming_standard_of_operand (by simp [hident]) (by simp [hident])]
      exact hasync
    refine .ite (fun _ => hr.nameOrArrow ends hd) fun _ => ?_
    exact .ite (fun _ => .reject hw) fun _ => .reject hw

theorem operandExpr (ends : List TokenKind) (hd : r.Room d b 1) :
    Safe src b (r.operandExpr ctx ends) fun e b' => b'.left < b.left ∧ e.Inside src := by
  refine (safe_peek _).bind fun t b₁ _ h₁ => ?_
  obtain ⟨rfl, hw, -⟩ := h₁
  have hmono : ∀ {p : TokenParser Expr},
      Safe src b₁ p (fun e b' => b'.left < b₁.left ∧ e.Inside src) →
      Safe src b₁ p fun e b' => b'.left < b.left ∧ e.Inside src := fun h =>
    h.mono fun _ _ _ he => ⟨by omega, he.2⟩
  cases hop : prefixAt? ctx (b₁.upcoming .operand).kind with
  | some op => exact hmono (hr.unaryExpr (solid_of_prefixAt? hop) op ends (by omega))
  | none =>
    exact .ite (fun _ => hmono (hr.yieldExpr ends (by omega)))
      fun _ => hmono (hr.primaryExpr ends (by omega) hw)

theorem binaryTail (op : Operator) {left : Expr} (hl : left.Inside src) (ends : List TokenKind)
    (hd : r.Room d b 2) :
    Safe src b (r.binaryTail ctx ends op left) fun e _ => e.Inside src := by
  refine .join ?_
  have hleft : Safe src b (if op.isAssignment then TokenParser.ofExcept (left.toTarget op)
      else pure left) fun l _ => l.Inside src :=
    .ite (fun _ => safe_ofExcept (Expr.toTarget_sane hl) fun l h => Expr.inside_toTarget hl h)
      fun _ => .pure hl
  refine hleft.bind fun l b₁ _ hl => ?_
  exact (hr.expr _ _ (by omega)).bind fun e b₂ _ he =>
    .pure ⟨hl.within.join he.2.within, hl⟩

theorem applyOperator (op : Operator) {t : Token} {left : Expr} {start : Nat}
    (hs : start ≤ b.mark) (ht : t.loc.Within src) (hl : left.Inside src) (ends : List TokenKind)
    (hd : r.Room d b 2) :
    Safe src b (r.applyOperator ctx ends start t op left) fun e _ => e.Inside src := by
  unfold Rules.applyOperator
  split
  · refine .ite (fun _ => ?_) fun _ => hr.taggedTemplate hl ht hd
    refine (hr.args hd).bind fun as b₁ _ _ => ?_
    exact (safe_since (by omega)).bind fun _ _ _ h => .pure (hl.within.join h.1)
  · refine (hr.args hd).bind fun as b₁ _ _ => ?_
    exact (safe_since (by omega)).bind fun _ _ _ h => .pure (hl.within.join h.1)
  · exact (safe_memberAccess hl _).mono fun _ _ _ h => h.2
  · exact (safe_memberAccess hl _).mono fun _ _ _ h => h.2
  · exact (hr.indexAccess hl _ hd).mono fun _ _ _ h => h.2
  · exact (hr.indexAccess hl _ hd).mono fun _ _ _ h => h.2
  · refine (hr.assignment _ hd.1).bind fun c b₁ _ _ => ?_
    refine (safe_expectPunct _ _).bind fun _ b₂ _ _ => ?_
    exact (hr.assignment _ (by omega)).bind fun a b₃ _ ha =>
      .pure (hl.within.join ha.2.within)
  · exact hr.binaryTail _ hl ends hd

/-- Every operator takes its own token; a token that is none is taken back. -/
theorem operatorTail (least : Nat) (ends : List TokenKind) :
    ∀ (n : Nat) (b : TokenBuffer) (left : Expr), b.left < n → r.Room d b 1 → left.Inside src →
      Safe src b (r.operatorTail ctx least ends left n) fun e _ => e.Inside src
  | 0, _, _, hn, _, _ => absurd hn (Nat.not_lt_zero _)
  | n + 1, b, left, hn, hd, hl => by
    refine .intro fun hsource hcoherent => ?_
    have hw : (b.upcoming .standard).loc.Within src := hsource ▸ hcoherent.upcoming_within _
    refine SafeFrom.chain safe_mark fun start b₁ h₁ => ?_
    obtain ⟨-, rfl, rfl⟩ := h₁
    refine .chain (safeFrom_consume _) fun t b₂ h₂ => ?_
    obtain ⟨rfl, h₂⟩ := h₂
    have stop : SafeFrom src b₁ b₂ (do restore b₁.mark; return left) fun e b' =>
        b₁.Takes b' ∧ e.Inside src := .chain .restore fun _ b₃ h₃ => .pure ⟨.of_nil h₃, hl⟩
    refine .ite (fun _ => stop) fun _ => ?_
    split
    · -- an operator behind its operand
      next op hop =>
      have hsolid := solid_of_updateOperator? hop
      have hlt := h₂.left_lt hsolid
      refine .ite (fun _ => stop) fun _ => Safe.after (.of_read h₂ hsolid.2) ?_
      exact operatorTail least ends n b₂ _ (by omega) (by omega) (hl.within.join hw)
    · split
      · -- an operator between operands, or a link to a member, an index or arguments
        next op hop =>
        have hsolid := solid_of_infixOperator? hop
        have ht : b₁.Takes b₂ := .of_read h₂ hsolid.2
        have hlt := h₂.left_lt hsolid
        refine .ite (fun _ => stop) fun _ => Safe.after ht ?_
        refine (hr.applyOperator op ht.bounds.2 hw hl ends (by omega)).bind fun e b₃ _ he => ?_
        exact operatorTail least ends n b₃ e (by omega) (by omega) he
      · exact stop

theorem operatorExpr (least : Nat) (ends : List TokenKind) (hd : r.Room d b 1) :
    Safe src b (r.operatorExpr ctx least ends) fun e b' => b'.left < b.left ∧ e.Inside src := by
  refine (hr.operandExpr ends hd).bind fun left b₁ _ hl => ?_
  refine (hr.operatorTail least ends _ b₁ left (by omega) (by omega) hl.2).mono fun e b₂ _ he => ?_
  exact ⟨by omega, he⟩

end Rules.Total

end ImportSeam
