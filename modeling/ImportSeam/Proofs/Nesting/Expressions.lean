import ImportSeam.Proofs.Nesting.Terms

/-!
# Where expressions stand

An operator takes the operand before it as its first part.  So an expression grows to the right
while it is read, and what is known of it always reaches from where its first operand began to the
current position.

## Main results

* `Rules.Nests.binaryTail`, `Rules.Nests.applyOperator` — an operator and what follows it.
* `Rules.Nests.operatorExpr` — a whole expression.
-/

namespace ImportSeam

open TokenParser BufferedToken

variable {b b₀ b₁ b' : TokenBuffer} {ctx : Context} {r : Rules}

/-! ### Literals and names -/

theorem runs_nameExpr_spans : Runs b (nameExpr ctx) fun e b' => b.Spans b' [.expr e] :=
  (runs_bindingName_spans .value).bind fun _ _ _ hid => .pure hid.exprIdent

theorem runs_stringLiteral_spans : Runs b stringLiteral fun e b' => b.Spans b' [.expr e] := by
  have hvalue : Runs b stringValue fun v b' => ∀ value, b.Spans b' [.expr (.str v.1 value)] := by
    refine (runs_expect _ _).bind fun t b₁ _ h₁ => ?_
    obtain ⟨rfl, hkind, h₁⟩ := h₁
    split
    · exact .pure fun _ => .token h₁ (hkind ▸ solid_str) rfl rfl
    · exact .throw
  exact hvalue.bind fun v b₁ _ hv => .pure (hv _)

theorem runs_numberLiteral_spans : Runs b numberLiteral fun e b' => b.Spans b' [.expr e] := by
  refine (runs_expect _ _).bind fun t b₁ _ h₁ => ?_
  obtain ⟨rfl, hkind, h₁⟩ := h₁
  split
  · exact .pure (.token h₁ (hkind ▸ solid_num) rfl rfl)
  · exact .throw

namespace Rules.Nests

variable (hr : r.Nests)
include hr

theorem args : Runs b (r.args ctx) fun as b' =>
    b.Spans b' (as.map fun a => .expr a.value) := by
  simp only [List.map_eq_flatMap]
  refine runs_separated_spans .rParen (fun b => ?_) _ b
  refine (runs_acceptPunct _ _).bind fun isSpread b₁ k₁ _ => ?_
  exact (hr.assignment _).bind fun e b₂ _ he => .pure (he.after k₁)

/-! ### Arrow functions -/

theorem arrowParams? : Runs b (r.arrowParams? ctx) fun o b' =>
    ∀ ps ∈ o, b.Spans b' (ps.flatMap (·.binder.nodes)) := by
  rw [Rules.arrowParams?_eq]
  refine (runs_peekKind _).bind fun k b₁ k₁ _ => .ite (fun _ => ?_) fun _ => ?_
  · refine RunsFrom.tryCatch (Runs.map (hr.params.mono fun ps b₂ _ hps => ?_)) fun _ _ =>
      .ite (fun _ => .throw) fun _ => .pure (by simp)
    simpa using hps.after k₁
  · refine (runs_consume _).bind fun t b₂ _ h₂ => ?_
    obtain ⟨rfl, h₂⟩ := h₂
    refine .ite (fun hname => .pure ?_) fun _ => .pure (by simp)
    simp only [Option.mem_some_iff, forall_eq']
    exact (spans_name .pattern h₂ hname rfl).patIdent.after k₁

theorem arrowHead? : Runs b (r.arrowHead? ctx) fun o b' =>
    match o with
    | some ps => b.Begun b' ∧ b.Spans b' (ps.flatMap (·.binder.nodes))
    | none => b.Consumes [] b' := by
  refine RunsFrom.bind runs_mark fun start b₁ _ h₁ => ?_
  obtain ⟨rfl, rfl⟩ := h₁
  refine .bind hr.arrowParams? fun o b₂ k₂ h₂ => ?_
  cases o with
  | none => exact .chain .restore fun _ b₃ _ h₃ => .pure h₃
  | some ps =>
    refine .bind (runs_peek _) fun t b₃ k₃ h₃ => .ite (fun _ => ?_) fun hkind => ?_
    · exact .chain .restore fun _ b₄ _ h₄ => .pure h₄
    obtain ⟨rfl, h₃⟩ := h₃
    have hkind : (b₃.upcoming .standard).kind = .punct .arrow := by
      rw [h₃.upcoming]
      simpa using hkind
    refine .ite (fun _ => .throw) fun _ => ?_
    refine .bind (runs_skip _) fun _ b₄ k₄ h₄ => .pure ⟨?_, (h₂ ps rfl).before (k₃.trans k₄)⟩
    exact (h₄.begun (hkind ▸ solid_punct _)).after (k₂.trans k₃)

theorem arrow? (isAsync : Bool) (ends : List TokenKind) :
    Runs b (r.arrow? ctx isAsync ends) fun o b' =>
      match o with
      | some e => b.Spans b' [.expr e]
      | none => b.Consumes [] b' := by
  refine runs_mark.bind fun start b₁ _ h₁ => ?_
  obtain ⟨rfl, rfl⟩ := h₁
  refine hr.arrowHead?.bind fun o b₂ _ h₂ => ?_
  cases o with
  | none => exact .pure h₂
  | some ps =>
    obtain ⟨hbegun, hps⟩ := h₂
    refine (runs_peekKind _).bind fun k b₃ k₃ _ => .join ?_
    have hbody : Runs b₃ (if (k == .punct .lBrace) = true then
        FuncBody.block <$> r.block (ctx.ofArrow isAsync)
        else FuncBody.expr <$> r.assignment (ctx.ofArrow isAsync) ends) fun body b' =>
          b₃.Spans b' body.nodes :=
      .ite (fun _ => .map (hr.block.mono fun _ _ _ h => h.2)) fun _ => .map (hr.assignment _)
    refine hbody.bind fun body b₄ k₄ hbody => ?_
    refine (runs_since _).bind fun loc b₅ _ h₅ => .pure ?_
    obtain ⟨rfl, rfl⟩ := h₅
    exact .node (hbegun.before (k₃.trans k₄)) (hps.append (hbody.after k₃)) rfl

theorem arrowOrParenthesized (ends : List TokenKind) :
    Runs b (r.arrowOrParenthesized ctx ends) fun e b' => b.Spans b' [.expr e] := by
  refine (hr.arrow? false ends).bind fun o b₁ k₁ h₁ => ?_
  cases o with
  | some e => exact .pure h₁
  | none => exact hr.parenthesized.mono fun e _ _ he => he.after k₁

theorem nameOrArrow (ends : List TokenKind) :
    Runs b (r.nameOrArrow ctx ends) fun e b' => b.Spans b' [.expr e] := by
  refine runs_peekTwo.bind fun ts b₁ k₁ _ => ?_
  have name : ∀ b₂, b.Keeps b₂ → Runs b₂ (nameExpr ctx) fun e b' => b.Spans b' [.expr e] :=
    fun b₂ k₂ => runs_nameExpr_spans.mono fun e _ _ he => he.after k₂
  refine .ite (fun _ => ?_) fun _ => name b₁ k₁
  refine (hr.arrow? false ends).bind fun o b₂ k₂ h₂ => ?_
  cases o with
  | some e => exact .pure (h₂.after k₁)
  | none => exact name b₂ (k₁.trans k₂)

theorem asyncOrName (ends : List TokenKind) :
    Runs b (r.asyncOrName ctx ends) fun e b' => b.Spans b' [.expr e] := by
  refine runs_peekTwo.bind fun ts b₁ k₁ h₁ => ?_
  obtain ⟨rfl, -⟩ := h₁
  have name : ∀ b₂, b.Keeps b₂ → Runs b₂ (r.nameOrArrow ctx ends) fun e b' =>
      b.Spans b' [.expr e] := fun b₂ k₂ =>
    (hr.nameOrArrow ends).mono fun e _ _ he => he.after k₂
  refine .ite (fun _ => ?_) fun _ => name b₁ k₁
  refine .ite (fun _ => ?_) fun _ => .ite (fun _ => ?_) fun _ => name b₁ k₁
  · exact hr.funcExpr.mono fun e _ _ he => he.after k₁
  refine RunsFrom.bind runs_mark fun start b₂ _ h₂ => ?_
  obtain ⟨rfl, rfl⟩ := h₂
  -- the location of an asynchronous arrow leaves out the word before it
  refine .bind (runs_skip _) fun _ b₂ k₂ _ => .bind (hr.arrow? true ends) fun o b₃ _ h₃ => ?_
  cases o with
  | some e => exact .pure (h₃.after (k₁.trans k₂))
  | none =>
    refine .chain .restore fun _ b₄ k₄ _ => ?_
    exact (name b₄ (k₁.trans k₄)).widen.mono fun _ _ _ h => h.2

end Rules.Nests

/-! ### Operands -/

theorem runs_memberAccess_spans {e : Expr} (he : b₀.Spans b [.expr e]) (optional : Bool) :
    Runs b (Rules.memberAccess e optional) fun e' b' => b₀.Spans b' [.expr e'] := by
  refine (runs_consume _).bind fun t b₁ _ h₁ => ?_
  obtain ⟨rfl, h₁⟩ := h₁
  exact .ite (fun _ => .throw) fun _ => .pure (he.join (.token h₁) rfl rfl)

namespace Rules.Nests

variable (hr : r.Nests)
include hr

theorem yieldExpr (ends : List TokenKind) :
    Runs b (r.yieldExpr ctx ends) fun e b' => b.Spans b' [.expr e] := by
  refine runs_node ?_
  refine (runs_begin_keyword _).bind fun _ b₁ k₁ h₁ => ?_
  refine (runs_acceptPunct _ _).bind fun delegate b₂ k₂ _ => ?_
  refine (runs_peek _).bind fun t b₃ k₃ _ => ?_
  have k₃ := k₂.trans k₃
  refine (runs_optionally_spans (T := Part.ofExpr?) _ rfl (hr.assignment _)).bind
    fun arg b₄ k₄ harg => .pure ⟨h₁.before (k₃.trans k₄), fun _ => ⟨rfl, ?_⟩⟩
  exact harg.after (k₁.trans k₃)

theorem importExpr : Runs b (r.importExpr ctx) fun e b' => b.Spans b' [.expr e] := by
  refine runs_node ?_
  refine (runs_begin_keyword _).bind fun _ b₁ k₁ h₁ => ?_
  refine (runs_acceptPunct _ _).bind fun _ b₂ k₂ _ => .ite (fun _ => ?_) fun _ => ?_
  · refine (runs_expectWord _).ignore.bind fun _ b₃ k₃ _ => .pure ⟨?_, fun _ => ⟨rfl, ?_⟩⟩
    · exact h₁.before (k₂.trans k₃)
    · exact (k₁.trans (k₂.trans k₃)).spans
  refine (runs_expectPunct _ _).bind fun _ b₃ k₃ _ => ?_
  refine (hr.assignment _).bind fun e b₄ k₄ he => ?_
  refine (runs_acceptPunct _ _).ignore.bind fun _ b₅ k₅ _ => ?_
  refine (runs_expectPunct _ _).bind fun _ b₆ k₆ _ => ?_
  have kopen := k₂.trans k₃
  have kclose := k₅.trans k₆
  refine .pure ⟨h₁.before (kopen.trans (k₄.trans kclose)), fun _ => ⟨rfl, ?_⟩⟩
  exact (he.after (k₁.trans kopen)).before kclose

theorem indexAccess {e : Expr} (he : b₀.Spans b [.expr e]) (optional : Bool) :
    Runs b (r.indexAccess ctx e optional) fun e' b' => b₀.Spans b' [.expr e'] := by
  refine (hr.sequence _).bind fun key b₁ _ hkey => ?_
  refine (runs_expect _ _).bind fun t b₂ _ h₂ => .pure ?_
  obtain ⟨rfl, -, h₂⟩ := h₂
  exact he.join (.closed hkey h₂) rfl rfl

/-- A tag and a template, whose first token was consumed. -/
theorem taggedTemplate {e : Expr} (he : b₀.Spans b [.expr e])
    (h : b.Consumes [.read .standard b.position] b₁) :
    Runs b₁ (r.taggedTemplate ctx e (b.upcoming .standard)) fun e' b' => b₀.Spans b' [.expr e'] := by
  refine (hr.templateAfter h.last).bind fun ps b₂ k₂ hps => .pure ?_
  obtain ⟨hparts, hw, hstart, hstop⟩ := hps
  rw [h.source] at hw
  have hends : b.EndsAt b₂ (ps.1.flatMap TemplatePart.nodes) ps.2 :=
    .of_spans (hparts.after ⟨_, h⟩) hw (hstart ▸ b.offset_le_upcoming _) hstop
  exact he.join hends rfl rfl

theorem calleeTail : ∀ (n : Nat) (b : TokenBuffer) (e : Expr), b₀.Spans b [.expr e] →
    Runs b (r.calleeTail ctx e n) fun e' b' => b₀.Spans b' [.expr e']
  | 0, _, _, _ => runs_exhausted
  | n + 1, b, e, he => by
    refine (runs_peekKind _).bind fun k b₁ k₁ _ => ?_
    have he := he.before k₁
    have template : Runs b₁ (do
        let first ← consume
        r.calleeTail ctx (← r.taggedTemplate ctx e first) n) fun e' b' =>
          b₀.Spans b' [.expr e'] := by
      refine (runs_consume _).bind fun t b₂ _ h₂ => ?_
      obtain ⟨rfl, h₂⟩ := h₂
      exact (hr.taggedTemplate he h₂).bind fun e' b₃ _ he' => calleeTail n b₃ e' he'
    split
    · refine (runs_skip _).bind fun _ b₂ k₂ _ => ?_
      exact (runs_memberAccess_spans (he.before k₂) _).bind
        fun e' b₃ _ he' => calleeTail n b₃ e' he'
    · refine (runs_skip _).bind fun _ b₂ k₂ _ => ?_
      exact (hr.indexAccess (he.before k₂) _).bind fun e' b₃ _ he' => calleeTail n b₃ e' he'
    · exact template
    · exact template
    · exact .pure he

theorem constructExpr : Runs b (r.constructExpr ctx) fun e b' => b.Spans b' [.expr e] := by
  refine runs_node ?_
  refine (runs_begin_keyword _).bind fun _ b₁ k₁ h₁ => ?_
  refine (runs_acceptPunct _ _).bind fun _ b₂ k₂ _ => .ite (fun _ => ?_) fun _ => ?_
  · refine (runs_expectWord _).ignore.bind fun _ b₃ k₃ _ => .pure ⟨?_, fun _ => ⟨rfl, ?_⟩⟩
    · exact h₁.before (k₂.trans k₃)
    · exact (k₁.trans (k₂.trans k₃)).spans
  refine (runs_peekKind _).bind fun k b₃ k₃ _ => .join ?_
  have k₃ := k₂.trans k₃
  have hstart : Runs b₃ (if (k == .keyword .kNew) = true then r.construct ctx else r.operand ctx [])
      fun e b' => b₃.Spans b' [.expr e] := .ite (fun _ => hr.construct _ _) fun _ => hr.operand _ _ _
  refine hstart.bind fun e b₄ k₄ he => ?_
  refine (hr.calleeTail _ _ _ he).bind fun callee b₅ k₅ hcallee => ?_
  refine (runs_acceptPunct _ _).bind fun ok b₆ k₆ _ => ?_
  refine (runs_optionally_spans (T := fun o => (o.getD []).map fun a => Part.expr a.value) ok rfl
    hr.args).bind fun args b₇ k₇ hargs => .pure ⟨?_, fun _ => ⟨rfl, ?_⟩⟩
  · exact h₁.before (k₃.trans (hcallee.keeps.trans (k₆.trans k₇)))
  · exact (hcallee.append (hargs.after k₆)).after (k₁.trans k₃)

theorem arrayElems : ∀ (n : Nat) (b : TokenBuffer), Runs b (r.arrayElems ctx n) fun es b' =>
    b.Spans b' (es.flatMap ArrayElem.nodes)
  | 0, _ => runs_exhausted
  | n + 1, b => by
    refine (runs_acceptPunct _ _).bind fun _ b₁ k₁ _ => .ite (fun _ => .pure k₁.spans) fun _ => ?_
    refine (runs_acceptPunct _ _).bind fun _ b₂ k₂ _ => .ite (fun _ => ?_) fun _ => ?_
    · exact (arrayElems n b₂).bind fun es b₃ _ hes => .pure (hes.after (k₁.trans k₂))
    refine (runs_acceptPunct _ _).bind fun isSpread b₃ k₃ _ => ?_
    refine (hr.assignment _).bind fun e b₄ _ he => ?_
    have helem : b.Spans b₄ (ArrayElem.nodes (if isSpread then .spread e else .item e)) := by
      have he := he.after (k₁.trans (k₂.trans k₃))
      cases isSpread <;> exact he
    refine (runs_acceptPunct _ _).bind fun _ b₅ k₅ _ => .ite (fun _ => ?_) fun _ => ?_
    · exact (arrayElems n b₅).bind fun es b₆ _ hes => .pure (helem.append (hes.after k₅))
    · refine (runs_expectPunct _ _).bind fun _ b₆ k₆ _ => .pure ?_
      rw [List.flatMap_singleton]
      exact helem.before (k₅.trans k₆)

theorem arrayLiteral : Runs b (r.arrayLiteral ctx) fun e b' => b.Spans b' [.expr e] := by
  refine runs_node ?_
  refine (runs_begin_punct _ _).bind fun _ b₁ k₁ h₁ => ?_
  refine (hr.arrayElems _ _).bind fun es b₂ k₂ hes => .pure ⟨h₁.before k₂, fun _ => ⟨rfl, ?_⟩⟩
  exact hes.after k₁

theorem unaryExpr (op : Operator) (ends : List TokenKind) :
    Runs b (r.unaryExpr ctx op ends) fun e b' => b.Spans b' [.expr e] := by
  refine runs_node ?_
  refine (runs_skip _).bind fun _ b₁ k₁ _ => ?_
  refine (hr.expr _ _ _ _).bind fun e b₂ _ he => .pure ?_
  exact ⟨he.begun.after k₁, fun _ => ⟨rfl, he.after k₁⟩⟩

/-! ### Whole expressions -/

/-- An operand whose first token was looked at where an operand is expected. -/
theorem primaryExpr (ends : List TokenKind) :
    Runs b (r.primaryExpr ctx ends (b.upcoming .operand)) fun e b' => b.Spans b' [.expr e] := by
  -- a word or the first token of a template is consumed in the standard mode
  have word : ∀ {k : Keyword} (build : Loc → Expr), (b.upcoming .operand).kind = .keyword k →
      (∀ loc, (build loc).loc = loc ∧ (build loc).children = []) →
      Runs b (do return build (← consume).loc) fun e b' => b.Spans b' [.expr e] := by
    intro k build hk hbuild
    refine (runs_consume _).bind fun t b₁ _ h₁ => .pure ?_
    obtain ⟨rfl, h₁⟩ := h₁
    have hsolid := solid_standard_of_operand hk (solid_keyword _) (by simp)
    exact .token h₁ hsolid (hbuild _).1 (hbuild _).2
  have template : (b.upcoming .standard).kind.Solid → Runs b (do
      let first ← consume
      let text ← r.templateAfter ctx first
      return Expr.template text.2 text.1) fun e b' => b.Spans b' [.expr e] := by
    intro hsolid
    refine (runs_consume _).bind fun t b₁ k₁ h₁ => ?_
    obtain ⟨rfl, h₁⟩ := h₁
    refine (hr.templateAfter h₁.last).bind fun ps b₂ k₂ hps => .pure ?_
    obtain ⟨hparts, -, hstart, hstop⟩ := hps
    refine .node ((h₁.begun hsolid).before k₂) (hparts.after k₁) ?_
    rw [h₁.since_eq k₂, ← hstart, ← hstop]
    rfl
  unfold Rules.primaryExpr
  split
  · exact hr.constructExpr
  · exact hr.importExpr
  · exact runs_node (hr.element.bind fun _ _ _ h => .pure ⟨h.1, fun _ => ⟨rfl, h.2⟩⟩)
  · exact hr.arrowOrParenthesized ends
  · exact hr.arrayLiteral
  · exact hr.objectLiteral
  · exact hr.funcExpr
  · exact hr.classExpr
  · refine (runs_expect _ _).bind fun u b₁ _ hu => .pure ?_
    obtain ⟨rfl, hkind, hu⟩ := hu
    exact .token hu (hkind ▸ solid_bigInt) rfl rfl
  · next hk => exact word (.bool · false) hk fun _ => ⟨rfl, rfl⟩
  · next hk => exact word (.bool · true) hk fun _ => ⟨rfl, rfl⟩
  · next hk => exact word .null hk fun _ => ⟨rfl, rfl⟩
  · exact runs_numberLiteral_spans
  · refine (runs_expect _ _).bind fun u b₁ _ hu => .pure ?_
    obtain ⟨rfl, hkind, hu⟩ := hu
    exact .token hu (hkind ▸ solid_regex) rfl rfl
  · exact runs_stringLiteral_spans
  · next hk => exact template (solid_standard_of_operand hk solid_templateChunk (by simp))
  · next hk => exact template (solid_standard_of_operand hk solid_templateEnd (by simp))
  · next hk => exact word .superRef hk fun _ => ⟨rfl, rfl⟩
  · next hk => exact word .this hk fun _ => ⟨rfl, rfl⟩
  · refine .ite (fun _ => hr.asyncOrName ends) fun _ => ?_
    refine .ite (fun _ => hr.nameOrArrow ends) fun _ => ?_
    exact .ite (fun _ => .throw) fun _ => .throw

theorem operandExpr (ends : List TokenKind) :
    Runs b (r.operandExpr ctx ends) fun e b' => b.Spans b' [.expr e] := by
  refine (runs_peek _).bind fun t b₁ k₁ h₁ => ?_
  obtain ⟨rfl, h₁⟩ := h₁
  rw [← h₁.upcoming]
  have since : ∀ {p : TokenParser Expr}, Runs b₁ p (fun e b' => b₁.Spans b' [.expr e]) →
      Runs b₁ p fun e b' => b.Spans b' [.expr e] := fun h => h.mono fun _ _ _ he => he.after k₁
  cases hop : prefixAt? ctx (b₁.upcoming .operand).kind with
  | some op => exact since (hr.unaryExpr op ends)
  | none => exact .ite (fun _ => since (hr.yieldExpr ends)) fun _ => since (hr.primaryExpr ends)

/-- The right operand of an operator, whose left one may be converted to a pattern. -/
theorem binaryTail (op : Operator) {left : Expr} (hl : b₀.Spans b [.expr left])
    (ends : List TokenKind) :
    Runs b (r.binaryTail ctx ends op left) fun e b' => b₀.Spans b' [.expr e] := by
  refine .join ?_
  have hleft : Runs b (if op.isAssignment then TokenParser.ofExcept (left.toTarget op) else pure left)
      fun l b' => b₀.Spans b' [.expr l] := by
    refine .ite (fun _ => ?_) fun _ => .pure hl
    refine (runs_ofExcept fun l h => h).mono fun l b₁ k₁ h => ?_
    exact (hl.before k₁).replace fun hnested => Expr.nested_toTarget hnested h
  refine hleft.bind fun l b₁ _ hl => ?_
  exact (hr.expr _ _ _ _).bind fun e b₂ _ he => .pure (hl.join (.single he) rfl rfl)

/-- What an operator makes of the operand before it, after the operator's first token. -/
theorem applyOperator (op : Operator) {left : Expr} (hl : b₀.Spans b [.expr left])
    (h : b.Consumes [.read .standard b.position] b₁) (ends : List TokenKind) :
    Runs b₁ (r.applyOperator ctx ends b.mark (b.upcoming .standard) op left) fun e b' =>
      b₀.Spans b' [.expr e] := by
  have hl₁ : b₀.Spans b₁ [.expr left] := hl.before ⟨_, h⟩
  have call : ∀ optional, Runs b₁ (do
      let args ← r.args ctx
      return Expr.call (left.loc.join (← since b.mark)) optional left args) fun e b' =>
        b₀.Spans b' [.expr e] := by
    intro optional
    refine hr.args.bind fun as b₂ _ has => ?_
    refine (runs_since _).bind fun loc b₃ _ h₃ => .pure ?_
    obtain ⟨rfl, rfl⟩ := h₃
    exact hl.join (.since h has) rfl rfl
  unfold Rules.applyOperator
  split
  · exact .ite (fun _ => call false) fun _ => hr.taggedTemplate hl h
  · exact call true
  · exact runs_memberAccess_spans hl₁ _
  · exact runs_memberAccess_spans hl₁ _
  · exact hr.indexAccess hl₁ _
  · exact hr.indexAccess hl₁ _
  · refine (hr.assignment _).bind fun c b₂ _ hc => ?_
    refine (runs_expectPunct _ _).bind fun _ b₃ k₃ _ => ?_
    refine (hr.assignment _).bind fun a b₄ _ ha => .pure ?_
    have hends := TokenBuffer.EndsAt.last (hc.append (ha.after k₃))
    exact hl₁.join hends rfl rfl
  · exact hr.binaryTail _ hl₁ ends

theorem operatorTail (least : Nat) (ends : List TokenKind) :
    ∀ (n : Nat) (b : TokenBuffer) (left : Expr), b₀.Spans b [.expr left] →
      Runs b (r.operatorTail ctx least ends left n) fun e b' => b₀.Spans b' [.expr e]
  | 0, _, _, _ => runs_exhausted
  | n + 1, b, left, hl => by
    refine RunsFrom.bind runs_mark fun start b₁ _ h₁ => ?_
    obtain ⟨rfl, rfl⟩ := h₁
    refine .bind (runs_consume _) fun t b₁ _ h₁ => ?_
    obtain ⟨rfl, h₁⟩ := h₁
    -- a token that is no operator is given back
    have stop : RunsFrom b b₁ (do restore b.mark; return left) fun e b' =>
        b₀.Spans b' [.expr e] := .chain .restore fun _ b₂ k₂ _ => .pure (hl.before k₂)
    have more : ∀ (b₂ : TokenBuffer) (e : Expr), b₀.Spans b₂ [.expr e] →
        RunsFrom b b₂ (r.operatorTail ctx least ends e n) fun e b' => b₀.Spans b' [.expr e] :=
      fun b₂ e he => (operatorTail least ends n b₂ e he).widen.mono fun _ _ _ h => h.2
    refine .ite (fun _ => stop) fun _ => ?_
    split
    · exact .ite (fun _ => stop) fun _ => more b₁ _ (hl.join (.token h₁) rfl rfl)
    · split
      · refine .ite (fun _ => stop) fun _ => ?_
        exact .bind (hr.applyOperator _ hl h₁ ends) fun e b₂ _ he => more b₂ e he
      · exact stop

theorem operatorExpr (least : Nat) (ends : List TokenKind) :
    Runs b (r.operatorExpr ctx least ends) fun e b' => b.Spans b' [.expr e] :=
  (hr.operandExpr ends).bind fun left b₁ _ hl => hr.operatorTail least ends _ b₁ left hl

end Rules.Nests

end ImportSeam
