import ImportSeam.Proofs.Grammar.Inside

/-!
# Terms are read to an end

A production is given rules that are total as long as twice the number of characters left is below a
number `d`, and shows that it is total itself up to `d + 1`.  Most productions consume a token
before they use a rule, which pays for the level; a statement may pass on to an expression at the
same place, so it needs one level more than the other rules.  Repetitions are bounded by the depth of
the rules, and one more than the number of characters left is enough for all of them.

## Main definitions

* `Rules.Total` — rules whose bound is not used up.
* `Rules.Room` — a bound that a production at a buffer does not use up.

## Main results

* `Rules.Total.pattern`, `Rules.Total.element` — patterns and elements.
* `Rules.Total.objectLiteral`, `Rules.Total.classExpr` — literals and classes.
-/

namespace ImportSeam

open TokenParser

variable {src : Cursor} {b b' : TokenBuffer} {ctx : Context} {r : Rules} {d : Nat}

/-! ### The rules -/

/-- The rules are total where `d` exceeds twice what is left, and each takes characters away. -/
structure Rules.Total (r : Rules) (src : Cursor) (d : Nat) : Prop where
  expr : ∀ {b ctx} least ends, 2 * b.left + 2 ≤ d →
    Safe src b (r.expr ctx least ends) fun e b' => b'.left < b.left ∧ e.Inside src
  operand : ∀ {b ctx} ends, 2 * b.left + 2 ≤ d →
    Safe src b (r.operand ctx ends) fun e b' => b'.left < b.left ∧ e.Inside src
  construct : ∀ {b ctx}, 2 * b.left + 2 ≤ d →
    Safe src b (r.construct ctx) fun e b' => b'.left < b.left ∧ e.Inside src
  pat : ∀ {b ctx}, 2 * b.left + 2 ≤ d →
    Safe src b (r.pat ctx) fun _ b' => b'.left < b.left
  stmt : ∀ {b ctx}, 2 * b.left + 3 ≤ d →
    Safe src b (r.stmt ctx) fun _ b' => b'.left < b.left
  elem : ∀ {b ctx}, 2 * b.left + 2 ≤ d →
    Safe src b (r.elem ctx) fun _ b' => b'.left < b.left

/-- The number `d` leaves room for two levels for each character left and a few more, and a
repetition may go on for longer than there are characters. -/
abbrev Rules.Room (r : Rules) (d : Nat) (b : TokenBuffer) (levels : Nat) : Prop :=
  2 * b.left + levels ≤ d ∧ b.left < r.depth

/-- Rules of no depth make no promise. -/
theorem Rules.total_exhausted : Rules.exhausted.Total src 0 where
  expr _ _ h := absurd h (Nat.not_succ_le_zero _)
  operand _ h := absurd h (Nat.not_succ_le_zero _)
  construct h := absurd h (Nat.not_succ_le_zero _)
  pat h := absurd h (Nat.not_succ_le_zero _)
  stmt h := absurd h (Nat.not_succ_le_zero _)
  elem h := absurd h (Nat.not_succ_le_zero _)

/-! ### Tokens -/

theorem Context.solid_of_isName {kind : TokenKind} (h : ctx.isName kind = true) : kind.Solid := by
  refine ⟨?_, Context.ne_invalid_of_isName h⟩
  rintro rfl
  exact absurd h (by simp [Context.isName])

theorem solid_of_startsKey {allowPrivate : Bool} {kind : TokenKind}
    (h : startsKey allowPrivate kind = true) : kind.Solid := by
  refine ⟨?_, startsKey_ne_invalid h⟩
  rintro rfl
  exact absurd h (by simp [startsKey])

theorem safe_bindingName : Safe src b (bindingName ctx) fun id b' =>
    b'.left < b.left ∧ id.loc.Within src := by
  refine .consume .standard (fun _ hw b₁ hlt => ?_) fun hbad hw b₁ _ => ?_
  · exact .ite (fun _ => .pure ⟨hlt.1, hw⟩) fun _ => .reject hw
  · exact .ite (fun h => absurd (Context.solid_of_isName h) hbad) fun _ => .reject hw

theorem safe_declaredName? : Safe src b (declaredName? ctx) fun _ _ => True :=
  (safe_consumeIf Context.solid_of_isName).bind fun _ _ _ _ => .pure trivial

theorem safe_stringValue : Safe src b stringValue fun v b' =>
    b'.left < b.left ∧ v.1.Within src := by
  refine (safe_expect solid_str .standard).bind fun t b₁ _ h₁ => ?_
  obtain ⟨-, -, hw, hlt⟩ := h₁
  split
  · exact .pure ⟨hlt, hw⟩
  · exact .reject hw

namespace Rules.Total

variable (hr : r.Total src d)
include hr

theorem sequence (ends : List TokenKind) (hd : 2 * b.left + 2 ≤ d) :
    Safe src b (r.sequence ctx ends) fun e b' => b'.left < b.left ∧ e.Inside src :=
  hr.expr _ ends hd

theorem assignment (ends : List TokenKind) (hd : 2 * b.left + 2 ≤ d) :
    Safe src b (r.assignment ctx ends) fun e b' => b'.left < b.left ∧ e.Inside src :=
  hr.expr _ ends hd

theorem parenthesized (hd : r.Room d b 1) :
    Safe src b (r.parenthesized ctx) fun e b' => b'.left < b.left ∧ e.Inside src := by
  refine (safe_expectPunct .lParen .standard).bind fun _ b₁ _ h₁ => ?_
  refine (hr.sequence _ (by omega)).bind fun e b₂ _ he => ?_
  exact (safe_expectPunct .rParen .standard).bind fun _ b₃ _ _ => .pure ⟨by omega, he.2⟩

theorem default? (ends : List TokenKind) (hd : r.Room d b 1) :
    Safe src b (r.default? ctx ends) fun _ _ => True := by
  refine (safe_acceptPunct .assign .standard).bind fun ok b₁ _ h₁ => ?_
  refine .optionally (fun hok => ?_) fun _ => trivial
  have hlt := h₁ hok
  exact (hr.assignment ends (by omega)).mono fun _ _ _ _ => trivial

/-- Statements end where the token that stops them comes next. -/
theorem stmtsUntil (stop : TokenKind) (hd : r.Room d b 3) :
    Safe src b (r.stmtsUntil ctx stop) fun _ b' => (b'.upcoming .standard).kind = stop := by
  refine .collect _ _ (by omega) fun b₀ hb₀ => ?_
  refine (safe_peek .standard).bind fun t b₁ _ h₁ => ?_
  obtain ⟨rfl, hw, -⟩ := h₁
  refine .ite (fun hstop => .ended (by simpa using hstop)) fun _ => ?_
  refine .ite (fun _ => .reject hw) fun _ => ?_
  exact (hr.stmt (by omega)).bind fun s b₂ _ _ => .found (by omega)

theorem block (hd : r.Room d b 1) : Safe src b (r.block ctx) fun _ b' => b'.left < b.left := by
  refine (safe_expectPunct .lBrace .standard).bind fun _ b₁ _ h₁ => ?_
  refine (hr.stmtsUntil _ (by omega)).bind fun ss b₂ _ _ => ?_
  exact (safe_expectPunct .rBrace .standard).bind fun _ b₃ _ _ => .pure (by omega)

/-! ### Keys and patterns -/

theorem key (allowPrivate : Bool) (hd : r.Room d b 1) :
    Safe src b (r.key ctx allowPrivate) fun _ b' => b'.left < b.left := by
  refine (safe_peek .standard).bind fun t b₁ _ h₁ => ?_
  obtain ⟨rfl, hw, -⟩ := h₁
  refine .ite (fun hopen => ?_) fun _ => ?_
  · have hkind : (b₁.upcoming .standard).kind = .punct .lBracket := by simpa using hopen
    refine (safe_skip (hkind ▸ solid_punct _)).bind fun _ b₂ _ h₂ => ?_
    refine (hr.assignment _ (by omega)).bind fun e b₃ _ _ => ?_
    exact (safe_expectPunct .rBracket .standard).bind fun _ b₄ _ _ => .pure (by omega)
  refine .ite (fun _ => .reject hw) fun hstarts => ?_
  have hstarts : startsKey allowPrivate (b₁.upcoming .standard).kind = true := by
    simpa using hstarts
  refine .ite (fun _ => ?_) fun _ => ?_
  · exact safe_stringValue.bind fun v b₂ _ hlt => .pure (by omega)
  · exact (safe_skip (solid_of_startsKey hstarts)).bind fun _ b₂ _ hlt => .pure (by omega)

theorem elemPats : ∀ (n : Nat) (b : TokenBuffer), b.left < n → r.Room d b 2 →
    Safe src b (r.elemPats ctx n) fun _ b' => b'.left < b.left
  | 0, _, hn, _ => absurd hn (Nat.not_lt_zero _)
  | n + 1, b, hn, hd => by
    refine (safe_acceptPunct .rBracket .standard).bind fun _ b₁ _ h₁ => ?_
    refine .ite (fun hok => .pure (h₁ hok)) fun _ => ?_
    refine (safe_acceptPunct .comma .standard).bind fun _ b₂ _ h₂ =>
      .ite (fun hok => ?_) fun _ => ?_
    · -- a hole is paid for by its comma
      have hlt := h₂ hok
      exact (elemPats n b₂ (by omega) (by omega)).bind fun es b₃ _ _ => .pure (by omega)
    refine (safe_acceptPunct .ellipsis .standard).bind fun _ b₃ _ _ =>
      .ite (fun _ => ?_) fun _ => ?_
    · refine (hr.pat (by omega)).bind fun p b₄ _ _ => ?_
      exact (safe_expectPunct .rBracket .standard).bind fun _ b₅ _ _ => .pure (by omega)
    refine (hr.pat (by omega)).bind fun p b₄ _ _ => ?_
    refine (hr.default? _ (by omega)).bind fun init b₅ _ _ => ?_
    refine (safe_acceptPunct .comma .standard).bind fun _ b₆ _ _ => .ite (fun _ => ?_) fun _ => ?_
    · exact (elemPats n b₆ (by omega) (by omega)).bind fun es b₇ _ _ => .pure (by omega)
    · exact (safe_expectPunct .rBracket .standard).bind fun _ b₇ _ _ => .pure (by omega)

theorem propPat (hd : r.Room d b 1) : Safe src b (r.propPat ctx) fun _ b' => b'.left < b.left := by
  refine (safe_peek .standard).bind fun t b₁ _ h₁ => ?_
  obtain ⟨-, hw, -⟩ := h₁
  refine (hr.key false (by omega)).bind fun key b₂ _ _ => ?_
  refine (safe_acceptPunct .colon .standard).bind fun _ b₃ _ _ => .ite (fun _ => ?_) fun _ => ?_
  · refine (hr.pat (by omega)).bind fun p b₄ _ _ => ?_
    exact (hr.default? _ (by omega)).bind fun init b₅ _ _ => .pure (by omega)
  · cases key with
    | computed e => exact .reject hw
    | direct text kind =>
      refine .ite (fun _ => .reject hw) fun _ => ?_
      exact (hr.default? _ (by omega)).bind fun init b₅ _ _ => .pure (by omega)

theorem propPats : ∀ (n : Nat) (b : TokenBuffer), b.left < n → r.Room d b 1 →
    Safe src b (r.propPats ctx n) fun _ b' => b'.left < b.left
  | 0, _, hn, _ => absurd hn (Nat.not_lt_zero _)
  | n + 1, b, hn, hd => by
    refine (safe_acceptPunct .rBrace .standard).bind fun _ b₁ _ h₁ => ?_
    refine .ite (fun hok => .pure (h₁ hok)) fun _ => ?_
    refine (safe_acceptPunct .ellipsis .standard).bind fun _ b₂ _ _ =>
      .ite (fun _ => ?_) fun _ => ?_
    · refine safe_bindingName.bind fun id b₃ _ _ => ?_
      exact (safe_expectPunct .rBrace .standard).bind fun _ b₄ _ _ => .pure (by omega)
    refine (hr.propPat (by omega)).bind fun p b₃ _ _ => ?_
    refine (safe_acceptPunct .comma .standard).bind fun _ b₄ _ _ => .ite (fun _ => ?_) fun _ => ?_
    · exact (propPats n b₄ (by omega) (by omega)).bind fun ps b₅ _ _ => .pure (by omega)
    · exact (safe_expectPunct .rBrace .standard).bind fun _ b₅ _ _ => .pure (by omega)

theorem pattern (hd : r.Room d b 1) : Safe src b (r.pattern ctx) fun _ b' => b'.left < b.left := by
  refine (safe_peekKind .standard).bind fun k b₁ _ _ => ?_
  split
  · refine .spanning ?_
    refine (safe_expectPunct .lBracket .standard).bind fun _ b₂ _ _ => ?_
    exact (hr.elemPats _ _ (by omega) (by omega)).bind fun es b₃ _ _ => .pure fun _ _ => by omega
  · refine .spanning ?_
    refine (safe_expectPunct .lBrace .standard).bind fun _ b₂ _ _ => ?_
    exact (hr.propPats _ _ (by omega) (by omega)).bind fun ps b₃ _ _ => .pure fun _ _ => by omega
  · exact safe_bindingName.bind fun id b₂ _ h => .pure (by omega)

/-! ### Templates -/

omit hr in
/-- Only the tokens of a template continue one. -/
theorem templateParts_reject {t : Token} (hw : t.loc.Within src) (hk : ¬t.kind.Solid) (n : Nat)
    (isFirst : Bool) : Safe src b (r.templateParts ctx (n + 1) t isFirst) fun _ _ => False := by
  unfold Rules.templateParts
  dsimp only
  split
  · next h => exact absurd (h ▸ solid_templateEnd) hk
  · next h => exact absurd (h ▸ solid_templateChunk) hk
  · exact .reject hw
  · exact .reject hw

/-- Every further part of a template takes at least the brace before it. -/
theorem templateParts : ∀ (n : Nat) (b : TokenBuffer) (t : Token) (isFirst : Bool),
    b.left < n → r.Room d b 2 → t.loc.Within src →
    Safe src b (r.templateParts ctx n t isFirst) fun ps _ => ps.2.Within src
  | 0, _, _, _, hn, _, _ => absurd hn (Nat.not_lt_zero _)
  | n + 1, b, t, isFirst, hn, hd, hw => by
    unfold Rules.templateParts
    dsimp only
    split
    · exact .pure hw
    · refine (hr.sequence _ hd.1).bind fun e b₁ _ _ => ?_
      refine (safe_expectPunct .rBrace .standard).bind fun _ b₂ _ _ => ?_
      refine .consume .templateTail (fun _ hw' b₃ _ => ?_) fun hbad hw' b₃ _ => ?_
      · refine (templateParts n b₃ _ false (by omega) (by omega) hw').bind fun ps b₄ _ hps => ?_
        exact .pure (hw.join hps)
      · -- no text behind the brace: one more round rejects the token, whatever it is
        obtain ⟨m, rfl⟩ : ∃ m, n = m + 1 := ⟨n - 1, by omega⟩
        exact (templateParts_reject hw' hbad m false).bind fun _ _ _ hfalse => hfalse.elim
    · exact .reject hw
    · exact .reject hw

theorem templateAfter {t : Token} (hd : r.Room d b 2)
    (hw : t.loc.Within src) :
    Safe src b (r.templateAfter ctx t) fun ps _ => ps.2.Within src :=
  hr.templateParts _ _ _ _ (by omega) hd hw

/-! ### Functions -/

theorem params (hd : r.Room d b 1) : Safe src b (r.params ctx) fun _ b' => b'.left < b.left := by
  refine (safe_expectPunct .lParen .standard).bind fun _ b₁ _ _ => ?_
  have hparam : ∀ b₂, b₂.left ≤ b₁.left → Safe src b₂ (r.param ctx) fun _ _ => True := by
    intro b₂ hb₂
    refine (safe_acceptPunct .ellipsis .standard).bind fun _ b₃ _ _ => ?_
    refine (hr.pat (by omega)).bind fun p b₄ _ _ => ?_
    exact (hr.default? _ (by omega)).bind fun init b₅ _ _ => .pure trivial
  exact (Safe.separated .rParen _ _ (by omega) hparam).mono fun _ _ _ _ => by omega

theorem funcAfterName (isAsync isGenerator : Bool) (hd : r.Room d b 1) :
    Safe src b (r.funcAfterName isAsync isGenerator) fun _ b' => b'.left < b.left := by
  refine (hr.params hd).bind fun ps b₁ _ _ => ?_
  exact (hr.block (by omega)).bind fun ss b₂ _ _ => .pure (by omega)

theorem signature (hd : r.Room d b 1) :
    Safe src b (r.signature ctx) fun _ b' => b'.left < b.left := by
  refine (safe_acceptWord "async").bind fun isAsync b₁ _ _ => ?_
  refine (safe_expectKeyword .kFunction).bind fun _ b₂ _ _ => ?_
  refine (safe_acceptPunct .star .standard).bind fun isGenerator b₃ _ _ => ?_
  refine safe_declaredName?.bind fun name b₄ _ _ => ?_
  exact (hr.funcAfterName _ _ (by omega)).bind fun f b₅ _ _ => .pure (by omega)

theorem funcExpr (hd : r.Room d b 1) :
    Safe src b (r.funcExpr ctx) fun e b' => b'.left < b.left ∧ e.Inside src :=
  .spanning ((hr.signature hd).bind fun _ _ _ _ => .pure fun _ hw => ⟨by omega, hw⟩)

/-! ### Members -/

/-- A method takes characters away; where there is none, the buffer goes back. -/
theorem method? (allowPrivate : Bool) (hd : r.Room d b 1) :
    Safe src b (r.method? ctx allowPrivate) fun o b' =>
      ∀ m ∈ o, b'.left < b.left ∧ m.2.Inside src := by
  refine safe_peekTwo.bind fun ts b₁ _ h₁ => ?_
  obtain ⟨rfl, -, -⟩ := h₁
  refine safe_mark.bind fun start b₂ _ h₂ => ?_
  obtain ⟨rfl, rfl⟩ := h₂
  refine .ite (fun hword => ?_) fun _ => .ite (fun hstar => ?_) fun _ =>
    .ite (fun _ => ?_) fun _ => ?_
  · -- an accessor: the word before the key is taken for good
    have hsolid : (b₂.upcoming .standard).kind.Solid := by
      simp only [Bool.and_eq_true, Bool.or_eq_true] at hword
      rcases hword.1 with h | h <;> exact Token.solid_of_isWord h
    refine (safe_skip hsolid).bind fun _ b₃ _ _ => ?_
    refine (hr.key _ (by omega)).bind fun key b₄ _ _ => ?_
    refine (hr.funcAfterName _ _ (by omega)).bind fun f b₅ _ _ => .pure ?_
    rintro m hm
    obtain rfl := Option.some.inj hm
    refine ⟨by omega, ?_⟩
    dsimp only
    split <;> trivial
  · -- an asynchronous method or a generator, of which at most the word was taken
    have tail : ∀ b₃ isAsync, b₃.left ≤ b₂.left → Safe src b₃ (do
        let isGenerator ← acceptPunct .star
        let key ← r.key ctx allowPrivate
        let func ← r.funcAfterName isAsync isGenerator
        return some (key, Member.method func)) fun o b' =>
          ∀ m ∈ o, b'.left < b.left ∧ m.2.Inside src := by
      intro b₃ isAsync hb₃
      refine (safe_acceptPunct _ _).bind fun isGenerator b₄ _ _ => ?_
      refine (hr.key _ (by omega)).bind fun key b₅ _ _ => ?_
      refine (hr.funcAfterName _ _ (by omega)).bind fun f b₆ _ _ => .pure ?_
      rintro m hm
      obtain rfl := Option.some.inj hm
      exact ⟨by omega, trivial⟩
    refine .ite (fun hasync => ?_) fun _ => tail b₂ _ (Nat.le_refl _)
    simp only [Bool.and_eq_true] at hasync
    exact (safe_skip (Token.solid_of_isWord hasync.1.1)).bind fun _ b₃ _ _ => tail b₃ _ (by omega)
  · exact .pure (by simp)
  · -- the key may be taken back
    refine SafeFrom.chain (hr.key _ (by omega)) fun key b₃ h₃ => ?_
    obtain ⟨ht, hlt⟩ := h₃
    refine SafeFrom.chain ((safe_peekKind _).after ht) fun kind b₄ h₄ => ?_
    have hle := h₄.1.bounds
    refine .ite (fun _ => Safe.after h₄.1 ?_) fun _ => ?_
    · refine (hr.funcAfterName _ _ (by omega)).bind fun f b₅ _ _ => .pure ?_
      rintro m hm
      obtain rfl := Option.some.inj hm
      exact ⟨by omega, trivial⟩
    · exact .chain .restore fun _ b₅ h₅ => .pure ⟨.of_nil h₅, by simp⟩

theorem objMember (hd : r.Room d b 1) : Safe src b (r.objMember ctx) fun build _ =>
      ∀ loc, loc.Within src → membersInside src [build loc] := by
  refine (safe_acceptPunct .ellipsis .standard).bind fun ok b₁ _ h₁ =>
    .ite (fun hok => ?_) fun _ => ?_
  · have hlt := h₁ hok
    exact (hr.assignment _ (by omega)).bind fun e b₂ _ he => .pure fun _ _ => ⟨he.2, trivial⟩
  refine (hr.method? false (by omega)).bind fun o b₂ _ h₂ => ?_
  split
  · next key m => exact .pure fun _ hw => ⟨⟨hw, (h₂ _ rfl).2⟩, trivial⟩
  refine (safe_peek .standard).bind fun t b₃ _ h₃ => ?_
  obtain ⟨-, ht, -⟩ := h₃
  refine (hr.key false (by omega)).bind fun key b₄ _ _ => ?_
  refine (safe_acceptPunct .colon .standard).bind fun _ b₅ _ _ => .ite (fun _ => ?_) fun _ => ?_
  · exact (hr.assignment _ (by omega)).bind fun e b₆ _ he => .pure fun _ hw => ⟨⟨hw, he.2⟩, trivial⟩
  cases key with
  | computed e => exact .reject ht
  | direct text kind =>
    refine .ite (fun _ => .reject ht) fun _ => ?_
    refine (safe_acceptPunct .assign .standard).bind fun _ b₆ _ _ => .ite (fun _ => ?_) fun _ => ?_
    · refine (hr.assignment _ (by omega)).bind fun e b₇ _ he => .pure fun _ hw => ?_
      exact ⟨⟨hw, ht.join he.2.within, ht⟩, trivial⟩
    · exact .pure fun _ _ => trivial

theorem objMembers (hd : r.Room d b 1) :
    Safe src b (r.objMembers ctx) fun ms b' => b'.left < b.left ∧ membersInside src ms := by
  refine (safe_expectPunct .lBrace .standard).bind fun _ b₁ _ _ => ?_
  have hmember : ∀ b₂, b₂.left ≤ b₁.left →
      Safe src b₂ (TokenParser.spanning (r.objMember ctx)) fun m _ => membersInside src [m] :=
    fun b₂ hb₂ => .spanning (hr.objMember (by omega))
  refine (Safe.separated .rBrace _ _ (by omega) hmember).mono fun ms b₂ _ h => ?_
  exact ⟨by omega, membersInside_of_forall h.2⟩

theorem objectLiteral (hd : r.Room d b 1) :
    Safe src b (r.objectLiteral ctx) fun e b' => b'.left < b.left ∧ e.Inside src :=
  .spanning ((hr.objMembers hd).bind fun _ _ _ h => .pure fun _ hw => ⟨by omega, hw, h.2⟩)

/-! ### Classes -/

theorem methodOrField (isStatic : Bool) (hd : r.Room d b 1) :
    Safe src b (r.methodOrField ctx isStatic) fun _ b' => b'.left < b.left := by
  refine (hr.method? true (by omega)).bind fun o b₁ _ h₁ => ?_
  split
  · next key m =>
    have hlt := (h₁ _ rfl).1
    exact .pure (by omega)
  · refine (hr.key true (by omega)).bind fun key b₂ _ _ => ?_
    refine (hr.default? _ (by omega)).bind fun value b₃ _ _ => ?_
    exact safe_semicolon.bind fun _ b₄ _ _ => .pure (by omega)

theorem classMember (hd : r.Room d b 1) :
    Safe src b (r.classMember ctx) fun _ b' => b'.left < b.left := by
  refine safe_peekTwo.bind fun ts b₁ _ h₁ => ?_
  obtain ⟨rfl, -, -⟩ := h₁
  refine .ite (fun hstatic => ?_) fun _ => ?_
  · simp only [Bool.and_eq_true] at hstatic
    refine (safe_skip (Token.solid_of_isWord hstatic.1)).bind fun _ b₂ _ _ => ?_
    exact (hr.block (by omega)).bind fun ss b₃ _ _ => .pure (by omega)
  · refine .ite (fun hstatic => ?_) fun _ => (hr.methodOrField _ (by omega)).mono
      fun _ _ _ _ => by omega
    simp only [Bool.and_eq_true] at hstatic
    refine (safe_skip (Token.solid_of_isWord hstatic.1)).bind fun _ b₂ _ _ => ?_
    exact (hr.methodOrField _ (by omega)).mono fun _ _ _ _ => by omega

theorem classMembers (hd : r.Room d b 1) : Safe src b (r.classMembers ctx) fun _ _ => True := by
  refine (Safe.collect (N := fun _ => True) _ _ (by omega) fun b₁ _ => ?_).bind
    fun _ _ _ _ => .pure trivial
  refine (safe_acceptPunct _ _).bind fun _ b₂ _ h₂ => .ite (fun hok => .found (h₂ hok)) fun _ => ?_
  refine (safe_acceptPunct _ _).bind fun _ b₃ _ _ => .ite (fun _ => .ended trivial) fun _ => ?_
  exact (hr.classMember (by omega)).bind fun m b₄ _ _ => .found (by omega)

theorem classSignature (hd : r.Room d b 1) :
    Safe src b (r.classSignature ctx) fun _ b' => b'.left < b.left := by
  refine (safe_expectKeyword .kClass).bind fun _ b₁ _ _ => ?_
  refine safe_declaredName?.bind fun name b₂ _ _ => ?_
  have htail : Safe src b₂ (r.classTail ctx) fun _ _ => True := by
    refine (safe_acceptKeyword _).bind fun ok b₃ _ _ => ?_
    have hparent : Safe src b₃ (TokenParser.optionally ok
        (r.expr ctx Operator.new.precedence [.punct .lBrace])) fun _ _ => True :=
      .optionally (fun _ => (hr.expr _ _ (by omega)).mono fun _ _ _ _ => trivial) fun _ => trivial
    refine hparent.bind fun parent b₄ _ _ => ?_
    refine (safe_expectPunct _ _).bind fun _ b₅ _ _ => ?_
    exact (hr.classMembers (by omega)).bind fun ms b₆ _ _ => .pure trivial
  exact htail.bind fun c b₃ _ _ => .pure (by omega)

theorem classExpr (hd : r.Room d b 1) :
    Safe src b (r.classExpr ctx) fun e b' => b'.left < b.left ∧ e.Inside src :=
  .spanning ((hr.classSignature hd).bind fun _ _ _ _ => .pure fun _ hw => ⟨by omega, hw⟩)

end Rules.Total

/-! ### Markup -/

theorem safe_tagWord : Safe src b tagWord fun _ b' => b'.left < b.left :=
  (safe_expect solid_ident .jsxTag).mono fun _ _ _ h => h.2.2.2

theorem safe_attributeName : Safe src b attributeName fun _ b' => b'.left < b.left := by
  refine safe_tagWord.bind fun t b₁ _ _ => ?_
  refine (safe_acceptPunct _ _).bind fun _ b₂ _ _ => .ite (fun _ => ?_) fun _ => .pure (by omega)
  exact safe_tagWord.bind fun u b₃ _ _ => .pure (by omega)

theorem safe_tagPath {n : Nat} (hn : b.left < n) : Safe src b (tagPath n) fun _ _ => True := by
  refine .collect _ _ hn fun b₁ _ => ?_
  refine (safe_acceptPunct _ _).bind fun _ b₂ _ _ => .ite (fun _ => ?_) fun _ => .ended trivial
  exact safe_tagWord.bind fun t b₃ _ _ => .found (by omega)

theorem safe_tagName {n : Nat} (hn : b.left < n) : Safe src b (tagName n) fun _ _ => True := by
  refine (safe_peekKind _).bind fun _ b₁ _ _ => .ite (fun _ => .pure trivial) fun _ => ?_
  refine safe_tagWord.bind fun t b₂ _ _ => ?_
  refine (safe_acceptPunct _ _).bind fun _ b₃ _ _ => .ite (fun _ => ?_) fun _ => ?_
  · exact safe_tagWord.bind fun u b₄ _ _ => .pure trivial
  refine (safe_tagPath (by omega)).bind fun path b₄ _ _ => ?_
  exact .ite (fun _ => .pure trivial) fun _ =>
    .ite (fun _ => .pure trivial) fun _ => .pure trivial

namespace Rules.Total

variable (hr : r.Total src d)
include hr

theorem container (hd : r.Room d b 1) :
    Safe src b (r.container ctx) fun _ b' => b'.left < b.left := by
  refine (safe_expectPunct _ _).bind fun _ b₁ _ _ => ?_
  refine (safe_acceptPunct _ _).bind fun _ b₂ _ _ => .ite (fun _ => .pure (by omega)) fun _ => ?_
  refine (hr.sequence _ (by omega)).bind fun e b₃ _ _ => ?_
  exact (safe_expectPunct _ _).bind fun _ b₄ _ _ => .pure (by omega)

theorem attributeValue (hd : r.Room d b 2) : Safe src b (r.attributeValue ctx) fun _ _ => True := by
  refine (safe_peek _).bind fun t b₁ _ h₁ => ?_
  obtain ⟨rfl, hw, -⟩ := h₁
  split
  · next hk => exact (safe_skip (hk ▸ solid_str)).bind fun _ b₂ _ _ => .pure trivial
  · exact (hr.container (by omega)).mono fun _ _ _ _ => trivial
  · exact (hr.elem (by omega)).bind fun e b₂ _ _ => .pure trivial
  · exact .reject hw

theorem attr (hd : r.Room d b 1) : Safe src b (r.attr ctx) fun _ b' => b'.left < b.left := by
  refine (safe_peekKind _).bind fun _ b₁ _ _ => .ite (fun _ => ?_) fun _ => ?_
  · refine (safe_expectPunct _ _).bind fun _ b₂ _ _ => ?_
    refine (safe_expectPunct _ _).bind fun _ b₃ _ _ => ?_
    refine (hr.assignment _ (by omega)).bind fun e b₄ _ _ => ?_
    exact (safe_expectPunct _ _).bind fun _ b₅ _ _ => .pure (by omega)
  · refine safe_attributeName.bind fun name b₂ _ _ => ?_
    refine (safe_acceptPunct _ _).bind fun ok b₃ _ _ => ?_
    have hvalue : Safe src b₃ (TokenParser.optionally ok (r.attributeValue ctx)) fun _ _ => True :=
      .optionally (fun _ => hr.attributeValue (by omega)) fun _ => trivial
    exact hvalue.bind fun value b₄ _ _ => .pure (by omega)

theorem attrs (hd : r.Room d b 1) : Safe src b (r.attrs ctx) fun _ _ => True := by
  refine .collect _ _ (by omega) fun b₁ _ => ?_
  refine (safe_peek _).bind fun t b₂ _ h₂ => ?_
  obtain ⟨-, hw, -⟩ := h₂
  split
  · exact .ended trivial
  · exact .ended trivial
  · exact .reject hw
  · exact (hr.attr (by omega)).bind fun a b₃ _ _ => .found (by omega)

/-- The children end where a closing tag starts. -/
theorem children (hd : r.Room d b 2) :
    Safe src b (TokenParser.collect r.depth (r.child? ctx)) fun _ b' =>
      (b'.upcoming .jsxText).kind = .jsxCloseStart := by
  refine .collect _ _ (by omega) fun b₁ _ => ?_
  refine (safe_peek _).bind fun t b₂ _ h₂ => ?_
  obtain ⟨rfl, hw, -⟩ := h₂
  split
  · next hk => exact (safe_skip (hk ▸ solid_jsxText)).bind fun _ b₃ _ _ => .found (by omega)
  · next hk => exact .ended hk
  · exact (hr.container (by omega)).bind fun c b₃ _ _ => .found (by omega)
  · exact (hr.elem (by omega)).bind fun e b₃ _ _ => .found (by omega)
  · exact .reject hw
  · exact .reject hw

theorem element (hd : r.Room d b 1) : Safe src b (r.element ctx) fun _ b' => b'.left < b.left := by
  refine (safe_expectPunct _ _).bind fun _ b₁ _ _ => ?_
  refine (safe_tagName (by omega)).bind fun tag b₂ _ _ => ?_
  have hattrs : Safe src b₂ (if tag.isSome then r.attrs ctx else pure []) fun _ _ => True :=
    .ite (fun _ => hr.attrs (by omega)) fun _ => .pure trivial
  refine .join (hattrs.bind fun attrs b₃ _ _ => ?_)
  refine (safe_acceptPunct _ _).bind fun _ b₄ _ _ => .ite (fun _ => ?_) fun _ => ?_
  · exact (safe_expectPunct _ _).bind fun _ b₅ _ _ => .pure (by omega)
  refine (safe_expectPunct _ _).bind fun _ b₅ _ _ => ?_
  refine (hr.children (by omega)).bind fun children b₆ _ hclose => ?_
  -- the children ended at a closing tag, so the token taken next opens one
  refine (safe_take (hclose ▸ solid_jsxCloseStart)).bind fun close b₇ _ h₇ => ?_
  refine (safe_tagName (by omega)).bind fun closing b₈ _ _ => ?_
  refine .ite (fun _ => .reject h₇.2.1) fun _ => ?_
  exact (safe_expectPunct _ _).bind fun _ b₉ _ _ => .pure (by omega)

end Rules.Total

end ImportSeam
