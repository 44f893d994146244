import ImportSeam.Proofs.Reread.Follow
import ImportSeam.Proofs.Reread.Success
import ImportSeam.Proofs.Totality.Statements

/-!
# Operands that are read again

Where a name or a parenthesis stands, an arrow function may start, and its parameters are tried
first.  The attempt comes to an end whatever it reads, and since no arrow follows, it leaves the
buffer as it was; so the operand is read after all.

## Main definitions

* `Rules.level` — the rules after the productions were fed back a number of times.
* `Expr.Reread` — an expression was read again up to a text.

## Main results

* `Rules.succeeds_arrow?` — in a text without arrows no arrow function starts.
* `Rules.succeeds_name`, `Rules.succeeds_this`, `Rules.succeeds_parens`, `Rules.succeeds_unary` —
  the operands of a formula.
-/

namespace ImportSeam

open TokenParser

variable {b b' : TokenBuffer} {ctx : Context} {r : Rules} {d : Nat} {cs rest : List Char}
  {kind : TokenKind} {text : String} {ends : List TokenKind}

/-! ### The levels of the grammar -/

/-- The rules after the productions were fed back a number of times. -/
def Rules.level (n : Nat) : Rules := Nat.repeat Rules.step n Rules.exhausted

theorem Rules.level_expr (n : Nat) : (level (n + 1)).expr = (level n).operatorExpr := rfl

theorem Rules.level_depth (n : Nat) : (level n).depth = n := (@total_repeat (.ofString "") n).1

theorem Rules.level_total (n : Nat) (src : Cursor) : (level n).Total src n := (total_repeat n).2

/-! ### Two tokens at once -/

/-- The second of the next two tokens. -/
theorem TokenBuffer.Near.second_matches {kind' : TokenKind} {text' : String} {rest' : List Char}
    (h : b.Near cs) (hl : LexesTo .standard cs kind text rest)
    (hl' : LexesTo .standard rest kind' text' rest') : b.second.Matches kind' text' := by
  obtain ⟨gap, hgap, hn⟩ := h.stands
  obtain ⟨-, -, hrest⟩ := hl.readToken_eq_of_gap rfl hgap hn
  obtain ⟨hkind, htext, hline, -⟩ := hl'.readToken_eq rfl hrest
  exact ⟨hkind, htext, hline⟩

/-- What was read is the expression but for its locations, and the text stands behind it. -/
structure Expr.Reread (e : Expr) (rest : List Char) (e' : Expr) (b' : TokenBuffer) : Prop where
  same : e'.unlocated = e.unlocated
  stands : b'.At rest

namespace Rules

/-! ### Arrow functions that are given up -/

section

variable (hr : ∀ src, r.Total src d)
include hr

/-- The parameters of an arrow are there or not. -/
theorem succeeds_arrowParams? (hd : r.Room d b 1) :
    Succeeds b (r.arrowParams? ctx) fun _ _ => True := by
  rw [arrowParams?_eq]
  refine (succeeds_peekKind_any .standard).bind fun k b₁ _ h₁ => ?_
  have hle := h₁.left_le
  refine .ite (fun _ => ?_) fun _ => ?_
  · have hparams : Safe b₁.source b₁ (some <$> r.params ctx) fun _ _ => True :=
      .map (((hr _).params (by omega)).mono fun _ _ _ _ => trivial)
    refine SafeFrom.tryCatch_succeeds (SafeFrom.mono hparams fun _ _ _ => trivial) fun e b₂ he => ?_
    exact .ite (fun h => absurd (he.symm.trans h) Bool.false_ne_true) fun _ => .pure trivial
  · refine (succeeds_consume_any .standard).bind fun t b₂ _ _ => ?_
    exact .ite (fun _ => .pure trivial) fun _ => .pure trivial

theorem succeeds_arrowHead? (h : b.Near cs) (hd : r.Room d b 1) :
    Succeeds b (r.arrowHead? ctx) fun o b' => o = none ∧ b.Consumes [] b' := by
  refine SucceedsFrom.bind succeeds_mark fun start b₁ _ h₁ => ?_
  obtain ⟨rfl, rfl⟩ := h₁
  have back : ∀ b₂, SucceedsFrom b b₂ (do restore b.mark; return none) fun o b' =>
      (o : Option (List Param)) = none ∧ b.Consumes [] b' := fun b₂ =>
    .chain .restore fun _ b₃ _ h₃ => .pure ⟨rfl, h₃⟩
  refine .chain (succeeds_arrowParams? hr hd) fun o b₂ hb₂ _ => ?_
  cases o with
  | none => exact back b₂
  | some params =>
    refine .bind (succeeds_peek_any .standard) fun t b₃ _ h₃ => ?_
    refine .ite (fun _ => back b₃) fun harrow => absurd ?_ (h.ne_arrow hb₂).1
    rw [← h₃.1]
    simpa using harrow

/-- **No arrow function starts** in a text without arrows, and what was tried is taken back. -/
theorem succeeds_arrow? (isAsync : Bool) (h : b.Near cs) (hd : r.Room d b 1) :
    Succeeds b (r.arrow? ctx isAsync ends) fun o b' => o = none ∧ b.Consumes [] b' := by
  refine succeeds_mark.bind fun start b₁ _ h₁ => ?_
  obtain ⟨rfl, rfl⟩ := h₁
  refine (succeeds_arrowHead? hr h hd).bind fun o b₁ _ h₁ => ?_
  obtain ⟨rfl, h₁⟩ := h₁
  exact .pure ⟨rfl, h₁⟩

end

/-! ### Names -/

section

variable {id : Ident}

theorem succeeds_nameExpr (h : b.Near cs) (hl : LexesTo .standard cs .ident id.name rest)
    (hname : ctx.isName .ident = true) :
    Succeeds b (nameExpr ctx) ((Expr.ident id).Reread rest) := by
  have hbinding : Succeeds b (bindingName ctx) fun id' b' => id'.name = id.name ∧ b'.At rest := by
    refine (h.succeeds_consume hl solid_ident).bind fun t b₁ _ h₁ => ?_
    refine .ite (fun _ => .pure ⟨h₁.1.2, h₁.2.1⟩) fun hnot => absurd ?_ hnot
    rw [h₁.1.1]
    exact hname
  refine hbinding.bind fun id' b₁ _ h₁ => .pure ⟨?_, h₁.2⟩
  rw [Expr.unlocated, Expr.unlocated, Ident.unlocated, Ident.unlocated, h₁.1]

theorem succeeds_nameOrArrow (h : b.Near cs) (hl : LexesTo .standard cs .ident id.name rest)
    (hname : ctx.isName .ident = true) :
    Succeeds b (r.nameOrArrow ctx ends) ((Expr.ident id).Reread rest) := by
  refine .coherent fun hb => ?_
  refine succeeds_peekTwo.bind fun ts b₁ _ h₁ => ?_
  obtain ⟨rfl, h₁⟩ := h₁
  refine .ite (fun harrow => ?_) fun _ => succeeds_nameExpr (h.of_nil h₁) hl hname
  exact absurd (by simpa using harrow) (h.ne_arrow (.refl hb)).2

variable (hr : ∀ src, r.Total src d)
include hr

/-- A name `async` before arguments may start an arrow function. -/
theorem succeeds_asyncOrName (h : b.Near cs) (hl : LexesTo .standard cs .ident id.name rest)
    (hf : Follows rest kind) (hname : ctx.isName .ident = true) (hd : r.Room d b 1) :
    Succeeds b (r.asyncOrName ctx ends) ((Expr.ident id).Reread rest) := by
  obtain ⟨text', rest', hl'⟩ := hf.lexes
  have hsecond := h.second_matches hl hl'
  refine succeeds_peekTwo.bind fun ts b₁ _ h₁ => ?_
  obtain ⟨rfl, h₁⟩ := h₁
  have hle := h₁.left_le
  have plain : ∀ {b₂}, b₂.Near cs →
      Succeeds b₂ (r.nameOrArrow ctx ends) ((Expr.ident id).Reread rest) := fun h₂ =>
    succeeds_nameOrArrow h₂ hl hname
  have h₁ := h.of_nil h₁
  refine .ite (fun _ => .ite (fun hfunction => ?_) fun _ => .ite (fun _ => ?_) fun _ => plain h₁)
    fun _ => plain h₁
  · refine absurd ?_ hf.ne_function
    rw [← hsecond.kind_eq]
    simpa using hfunction
  refine succeeds_mark.bind fun start b₂ _ h₂ => ?_
  obtain ⟨rfl, rfl⟩ := h₂
  -- the word itself is taken back as well
  have skip : Succeeds b₁ (Functor.discard consume) fun _ b' => b'.At rest ∧ b'.left < b₁.left :=
    .discard ((h₁.succeeds_consume hl solid_ident).mono fun _ _ _ ht => ht.2)
  refine SucceedsFrom.bind skip fun _ b₂ _ h₂ => ?_
  refine .bind (succeeds_arrow? hr true h₂.1.near (by omega)) fun o b₃ _ h₃ => ?_
  obtain ⟨rfl, -⟩ := h₃
  refine .chain .restore fun _ b₄ _ h₄ => ?_
  exact (plain (h₁.of_nil h₄)).widen.mono fun _ _ _ he => he.2

end

/-! ### The operands of a formula -/

theorem prefixAt?_top (kind : TokenKind) : prefixAt? .top kind = kind.prefixOperator? := by
  rw [prefixAt?, Context.top, Bool.and_false]
  rfl

/-- An operand without an operator before it. -/
theorem succeeds_operandExpr {Q : Expr → TokenBuffer → Prop} (h : b.Near cs)
    (hl : LexesTo .operand cs kind text rest) (hplain : kind.prefixOperator? = none)
    (hyield : kind ≠ .keyword .kYield)
    (hprimary : ∀ t b₁, t.kind = kind → b.Consumes [] b₁ →
      Succeeds b₁ (r.primaryExpr .top ends t) Q) : Succeeds b (r.operandExpr .top ends) Q := by
  refine (h.succeeds_peek hl rfl).bind fun t b₁ _ h₁ => ?_
  obtain ⟨ht, hc, -⟩ := h₁
  have hnone : prefixAt? .top t.kind = none := by rw [prefixAt?_top, ht, hplain]
  rw [hnone]
  refine .ite (fun hy => absurd ?_ hyield) fun _ => hprimary t b₁ ht hc
  rw [← ht]
  simp only [Bool.and_eq_true, beq_iff_eq] at hy
  exact hy.1

/-- **A name.** -/
theorem succeeds_name {id : Ident} (hr : ∀ src, r.Total src d)
    (hid : IsToken .standard .ident id.name) (h : b.Near (id.name.toList ++ rest))
    (hf : Follows rest kind) (hd : r.Room d b 1) :
    Succeeds b (r.operandExpr .top ends) ((Expr.ident id).Reread rest) := by
  obtain ⟨c, cs, hc, hstart⟩ := hid.cons_of_word rfl
  have hl := lexesTo_word hid rfl hf.endsWord
  have hl' := hl.operand ⟨c, cs, hc, hstart.ne (by decide)⟩
  refine succeeds_operandExpr h hl' rfl nofun fun t b₁ ht hb₁ => ?_
  have h₁ := h.of_nil hb₁
  have hle := hb₁.left_le
  unfold primaryExpr
  simp only [ht]
  refine .ite (fun _ => succeeds_asyncOrName hr h₁ hl hf rfl (by omega)) fun _ => ?_
  exact .ite (fun _ => succeeds_nameOrArrow h₁ hl rfl) fun hname => absurd rfl hname

/-- The word `this`. -/
theorem succeeds_this (loc : Loc) (h : b.At ("this".toList ++ rest)) (hf : Follows rest kind) :
    Succeeds b (r.operandExpr .top ends) ((Expr.this loc).Reread rest) := by
  have hl := lexesTo_word (isToken_keyword .kThis) rfl hf.endsWord
  have hl' := hl.operand ⟨_, _, rfl, by decide⟩
  refine succeeds_operandExpr h.near hl' rfl nofun fun t b₁ ht hb₁ => ?_
  unfold primaryExpr
  simp only [ht]
  refine (succeeds_consume (h.of_nil hb₁) hl rfl (solid_keyword _)).bind fun t b₂ _ h₂ => .pure ⟨?_, h₂.2.1⟩
  rw [Expr.unlocated, Expr.unlocated]

/-- **An expression in parentheses**, which are not the parameters of an arrow. -/
theorem succeeds_parens {e : Expr} (hr : ∀ src, r.Total src d) (h : b.At ('(' :: cs))
    (he : ∀ b₁, b.Keeps b₁ → b₁.At cs → b₁.left < b.left →
      Succeeds b₁ (r.sequence .top [.punct .rParen]) (e.Reread (')' :: rest)))
    (hd : r.Room d b 1) : Succeeds b (r.operandExpr .top ends) (e.Reread rest) := by
  have hopen : LexesTo .standard ('(' :: cs) (.punct .lParen) "(" cs :=
    lexesTo_punct (p := .lParen) fun _ _ => rfl
  have hclose : LexesTo .standard (')' :: rest) (.punct .rParen) ")" rest :=
    lexesTo_punct (p := .rParen) fun _ _ => rfl
  have hl := hopen.operand ⟨_, _, rfl, by decide⟩
  refine succeeds_operandExpr h.near hl rfl nofun fun t b₁ ht hb₁ => ?_
  have h₁ := h.of_nil hb₁
  have hle := hb₁.left_le
  unfold primaryExpr
  simp only [ht]
  refine (succeeds_arrow? hr false h₁.near (by omega)).bind fun o b₂ _ h₂ => ?_
  obtain ⟨rfl, h₂⟩ := h₂
  have hle₂ := h₂.left_le
  refine (succeeds_expectPunct (h₁.of_nil h₂) hopen rfl).bind fun _ b₃ hb₃ h₃ => ?_
  have hb : b.Keeps b₃ := (hb₁.keeps.trans h₂.keeps).trans hb₃
  refine (he b₃ hb h₃.1 (by omega)).bind fun e' b₄ _ he' => ?_
  exact (succeeds_expectPunct he'.stands hclose rfl).bind fun _ b₅ _ h₅ => .pure ⟨he'.same, h₅.1⟩

/-- An operator before its operand. -/
theorem succeeds_unary {op : Operator} {arg : Expr} (loc : Loc) (h : b.At cs)
    (hl : LexesTo .operand cs kind text rest) (hop : kind.prefixOperator? = some op)
    {rest' : List Char} (harg : ∀ b₁, b.Keeps b₁ → b₁.At rest → b₁.left < b.left →
      Succeeds b₁ (r.expr .top op.precedence ends) (arg.Reread rest')) :
    Succeeds b (r.operandExpr .top ends) ((Expr.unary loc op arg).Reread rest') := by
  refine (succeeds_peek h hl rfl).bind fun t b₁ hb₁ h₁ => ?_
  obtain ⟨ht, hc, h₁⟩ := h₁
  have hle := hc.left_le
  have hsome : prefixAt? .top t.kind = some op := by rw [prefixAt?_top, ht.kind_eq, hop]
  rw [hsome]
  refine succeeds_spanning ?_
  have hsolid := solid_of_prefixOperator? hop
  refine (succeeds_skip h₁ hl rfl hsolid).bind fun _ b₂ hb₂ h₂ => ?_
  refine (harg b₂ (hb₁.trans hb₂) h₂.1 (by omega)).bind fun e b₃ _ he => ?_
  refine .pure fun loc' => ⟨?_, he.stands⟩
  rw [Expr.unlocated, Expr.unlocated, he.same]

end Rules

end ImportSeam
