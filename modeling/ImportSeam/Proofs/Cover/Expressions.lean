import ImportSeam.Proofs.Cover.Terms
import ImportSeam.Proofs.Totality.Expressions

namespace ImportSeam

open TokenParser TokenBuffer

variable {ctx : Context} {r r' : Rules} {w w' : List Char} {b b' c d : TokenBuffer}

/-! ### Arrow functions -/

/-- A parser tried at a buffer: nothing comes of it where it fails for any reason but its bound. -/
def tried {α : Type} : EStateM.Result SyntaxError TokenBuffer α →
    EStateM.Result SyntaxError TokenBuffer (Option α)
  | .ok a c => .ok (some a) c
  | .error e c => if e.isExhausted then .error e c else .ok none c

theorem tryCatch_eq_tried {α : Type} (p : TokenParser α) :
    (tryCatch (some <$> p) fun e => if e.isExhausted then throw e else pure none) b =
      tried (p b) := by
  cases hp : p b with
  | ok a c =>
    simp only [tryCatch, tryCatchThe, MonadExceptOf.tryCatch, EStateM.tryCatch, Functor.map,
      EStateM.map, hp, tried]
  | error e c =>
    simp only [tryCatch, tryCatchThe, MonadExceptOf.tryCatch, EStateM.tryCatch, Functor.map,
      EStateM.map, hp, tried, throw, throwThe, MonadExceptOf.throw]
    cases e.isExhausted <;> rfl

/-- What the parameters of an arrow are tried with fails only where the bound is used up. -/
theorem Rules.exhausted_of_arrowParams? {e : SyntaxError} (h : r.arrowParams? ctx b = .error e c) :
    e.isExhausted = true := by
  rw [Rules.arrowParams?_eq] at h
  cases hk : peekKind .standard b with
  | error e' b₁ => exact nomatch hk
  | ok k b₁ =>
    rw [bind_of_ok hk] at h
    by_cases hparen : (k == .punct .lParen) = true
    · rw [if_pos hparen, tryCatch_eq_tried] at h
      cases hp : r.params ctx b₁ with
      | ok ps b₂ =>
        rw [hp] at h
        cases h
      | error e' b₂ =>
        rw [hp, tried] at h
        split at h
        · next hspent =>
          cases h
          exact hspent
        · cases h
    · rw [if_neg hparen] at h
      cases ht : consume .standard b₁ with
      | error e' b₂ => exact nomatch ht
      | ok t b₂ =>
        rw [bind_of_ok ht] at h
        split at h <;> cases h

/-- Parameters are those of an arrow if there are some and an arrow follows. -/
def MeetsArrow (o : Option (List Param)) (c : TokenBuffer) : Prop :=
  o.isSome = true ∧ (c.upcoming .standard).kind = .punct .arrow

/-- An arrow does not stand in a tail. -/
theorem MeetsArrow.lt (hr : r.Sound) (hw : Tails w w') (hb : b.Beside w w' b')
    {x : Option (List Param)} (hx : r.arrowParams? ctx b = .ok x c) (h : MeetsArrow x c) :
    w.length < c.left :=
  lt_of_apart hw.left (by decide) hb.suffix (hr.arrowParams?.keeps_ok hb.coherent hx).1 h.2

/-- An arrow is read after its parameters, or else nothing is. -/
theorem Rules.arrowHead?_cases (hr : r.Sound) (hb : b.Coherent) {o : Option (List Param)}
    (h : r.arrowHead? ctx b = .ok o d) :
    (o = none ∧ b.Consumes [] d ∧ ∃ x c, r.arrowParams? ctx b = .ok x c ∧ ¬MeetsArrow x c) ∨
      ∃ ps c c₁, o = some ps ∧ r.arrowParams? ctx b = .ok (some ps) c ∧ c.Consumes [] c₁ ∧
        (c₁.upcoming .standard).kind = .punct .arrow ∧
        (c₁.upcoming .standard).newlineBefore = false ∧
        Functor.discard (consume .standard) c₁ = .ok () d := by
  obtain ⟨x, c, hx, h⟩ := bind_ok (p := r.arrowParams? ctx) h
  obtain ⟨hkeeps, -⟩ := hr.arrowParams?.keeps_ok hb hx
  cases x with
  | none =>
    cases h
    exact .inl ⟨rfl, hkeeps.restore, _, _, hx, fun hmeets => nomatch hmeets.1⟩
  | some ps =>
    obtain ⟨t, c₁, ht, h⟩ := bind_ok h
    obtain ⟨hkeeps₁, rfl, hc₁⟩ := (runs_peek _).keeps_ok hkeeps.coherent ht
    by_cases harrow : ((c.upcoming .standard).kind != .punct .arrow) = true
    · rw [if_pos harrow] at h
      cases h
      refine .inl ⟨rfl, (hkeeps.trans hkeeps₁).restore, _, _, hx, fun hmeets => ?_⟩
      exact absurd hmeets.2 (by simpa using harrow)
    · rw [if_neg harrow] at h
      by_cases hline : (c.upcoming .standard).newlineBefore = true
      · rw [if_pos hline] at h
        cases h
      · rw [if_neg hline] at h
        obtain ⟨u, d', hskip, h⟩ := bind_ok h
        cases h
        rw [← hc₁.upcoming] at harrow hline
        exact .inr ⟨ps, c, c₁, rfl, hx, hc₁, by simpa using harrow, by simpa using hline, hskip⟩

/-- Where no arrow is met, none is read. -/
theorem Rules.arrowHead?_none (hr : r.Sound) (hb : b.Coherent) {x : Option (List Param)}
    (hx : r.arrowParams? ctx b = .ok x c) (hno : ¬MeetsArrow x c) :
    ∃ d, r.arrowHead? ctx b = .ok none d ∧ b.Consumes [] d := by
  obtain ⟨hkeeps, -⟩ := hr.arrowParams?.keeps_ok hb hx
  have hhead : r.arrowHead? ctx b = _ := bind_of_ok (p := r.arrowParams? ctx) hx
  cases x with
  | none => exact ⟨_, hhead, hkeeps.restore⟩
  | some ps =>
    obtain ⟨t, c₁, ht, hkeeps₁, rfl, hc₁⟩ := succeeds_peek_any .standard (.refl hkeeps.coherent)
    have harrow : ((c.upcoming .standard).kind != .punct .arrow) = true := by
      simpa [MeetsArrow] using hno
    refine ⟨_, ?_, (hkeeps.trans hkeeps₁).restore⟩
    rw [hhead]
    dsimp only
    rw [bind_of_ok ht, if_pos harrow]
    rfl

namespace Rules.Agree

/-- Parameters that were read on one side are read on the other. -/
theorem arrowParams?_some (hr : r.Agree r') (hw : Tails w w') (hb : b.Beside w w' b')
    {ps : List Param} (h : r.arrowParams? ctx b = .ok (some ps) c) (hl : w.length < c.left) :
    Answers (c.Beside w w')
      (fun x => ∃ ps', x = some ps' ∧ ps.map Param.unmarked = ps'.map Param.unmarked)
      (r'.arrowParams? ctx b') := by
  rw [Rules.arrowParams?_eq] at h ⊢
  obtain ⟨k, b₁, hk, h⟩ := bind_ok h
  obtain ⟨-, -, hc₁⟩ := (runs_peekKind _).keeps_ok hb.coherent hk
  have hlt₁ : w.length < b₁.left := by
    have hpos : b₁.position = b.position := hc₁.position
    rw [TokenBuffer.left, hpos]
    exact hb.lt
  refine ((parallel_peekKind _).follows hw hb hk hlt₁).bind fun k' b₁' hk' hb₁ => ?_
  subst hk'
  by_cases hparen : (k == .punct .lParen) = true
  · rw [if_pos hparen, tryCatch_eq_tried] at h ⊢
    cases hps : r.params ctx b₁ with
    | error e b₂ =>
      rw [hps, tried] at h
      split at h <;> cases h
    | ok qs b₂ =>
      rw [hps] at h
      cases h
      have hout := (hr.params ctx).follows hw hb₁ hps hl
      cases hps' : r'.params ctx b₁' with
      | error e b₂' =>
        rw [hps'] at hout
        have hspent : e.isExhausted = true := hout
        rw [tried, if_pos hspent]
        exact hspent
      | ok ps' b₂' =>
        rw [hps'] at hout
        exact ⟨⟨ps', rfl, hout.1⟩, hout.2⟩
  · rw [if_neg hparen] at h ⊢
    obtain ⟨t, b₂, ht, h⟩ := bind_ok h
    by_cases hname : ctx.isName t.kind = true
    · rw [if_pos hname] at h
      cases h
      refine ((parallel_consume _).follows hw hb₁ ht hl).bind fun t' b₂' hsaying hb₂ => ?_
      rw [← Token.kind_of_face (Token.face_of_saying hsaying), if_pos hname]
      have hparam := congrArg (fun id => [Param.mk false ⟨.ident id, none⟩])
        (Ident.unmarked_of_saying hsaying .unknown)
      exact ⟨⟨_, rfl, hparam⟩, hb₂⟩
    · rw [if_neg hname] at h
      cases h

/-- An arrow that is read on one side is read on the other, and none is where there is none. -/
theorem arrowHead? (hr : r.Agree r') (hr' : r'.Agree r) (ctx : Context) :
    Parallel (AlikeBy (Option.map (List.map Param.unmarked))) (r.arrowHead? ctx)
      (r'.arrowHead? ctx) where
  keeps _ := hr.sound.arrowHead?.mono fun o _ _ _ => ⟨o, rfl⟩
  follows {w w' b b'} hw hb o d hp hl := by
    rcases Rules.arrowHead?_cases hr.sound hb.coherent hp with
      ⟨rfl, hd, x, c, hx, hno⟩ | ⟨ps, c, c₁, rfl, hx, hc₁, hkind, hline, hskip⟩
    · cases hx' : r'.arrowParams? ctx b' with
      | error e c' =>
        have hhead : r'.arrowHead? ctx b' = _ := bind_of_error (p := r'.arrowParams? ctx) hx'
        rw [hhead]
        exact Rules.exhausted_of_arrowParams? hx'
      | ok x' c' =>
        by_cases hmeets : MeetsArrow x' c'
        · -- the other side would have read it too
          have hlt' := hmeets.lt hr'.sound hw.symm hb.symm hx'
          obtain ⟨hsome, hkind'⟩ := hmeets
          obtain ⟨ps', rfl⟩ := Option.isSome_iff_exists.mp hsome
          have hout := hr'.arrowParams?_some hw.symm hb.symm hx' hlt'
          rw [hx] at hout
          obtain ⟨⟨ps, rfl, -⟩, hc⟩ := hout
          refine absurd ⟨rfl, ?_⟩ hno
          rw [← hkind']
          exact (Token.kind_of_face (hc.face hw.symm .standard)).symm
        · obtain ⟨d', hhead', hd'⟩ := Rules.arrowHead?_none hr'.sound hb.coherent' hx' hmeets
          rw [hhead']
          exact ⟨rfl, hb.unread hd hd'⟩
    · have hmeets : MeetsArrow (some ps) c := ⟨rfl, hc₁.upcoming .standard ▸ hkind⟩
      have hlt := hmeets.lt hr.sound hw hb hx
      refine (hr.arrowParams?_some hw hb hx hlt).bind (p := r'.arrowParams? ctx) fun x' c' hx' hc => ?_
      obtain ⟨ps', rfl, hps⟩ := hx'
      obtain ⟨t', c₁', ht', -, rfl, hc₁'⟩ := succeeds_peek_any .standard (.refl hc.coherent')
      have hc₁ := hc.unread hc₁ hc₁'
      have hface := hc₁.face hw .standard
      rw [hc₁'.upcoming] at hface
      have hkind' : ¬((c'.upcoming .standard).kind != .punct .arrow) = true := by
        rw [← Token.kind_of_face hface, hkind]
        decide
      have hline' : ¬(c'.upcoming .standard).newlineBefore = true := by
        rw [← Token.newline_of_face hface, hline]
        decide
      dsimp only
      rw [bind_of_ok ht', if_neg hkind', if_neg hline']
      exact (answers_pass hw hc₁ hskip hl).bind fun _ d' _ hd => ⟨congrArg some hps, hd⟩

end Rules.Agree

/-- Rules that follow one another. -/
structure Rules.Twins (r r' : Rules) : Prop where
  agree : r.Agree r'
  back : r'.Agree r

theorem Rules.Twins.symm (h : r.Twins r') : r'.Twins r := ⟨h.back, h.agree⟩

theorem parallel_nameExpr (ctx : Context) :
    Parallel (AlikeBy Expr.unmarked) (nameExpr ctx) (nameExpr ctx) :=
  (parallel_bindingName ctx).bind fun _ _ hid => .pure (congrArg Expr.ident hid)

namespace Rules.Twins

variable (hr : r.Twins r')
include hr

theorem arrow? (ctx : Context) (isAsync : Bool) (ends : List TokenKind) :
    Parallel (AlikeBy (Option.map Expr.unmarked)) (r.arrow? ctx isAsync ends)
      (r'.arrow? ctx isAsync ends) := by
  refine parallel_mark.bind fun start start' _ => ?_
  refine (hr.agree.arrowHead? hr.back _).bind fun o o' ho => ?_
  cases o with
  | none =>
    cases o' with
    | none => exact .pure rfl
    | some ps' => cases ho
  | some ps =>
    cases o' with
    | none => cases ho
    | some ps' =>
      have hps := Option.some.inj ho
      refine (parallel_peekKind _).next fun k => .join ?_
      have hbody : Parallel (AlikeBy FuncBody.unmarked)
          (if (k == .punct .lBrace) = true then FuncBody.block <$> r.block (ctx.ofArrow isAsync)
            else FuncBody.expr <$> r.assignment (ctx.ofArrow isAsync) ends)
          (if (k == .punct .lBrace) = true then FuncBody.block <$> r'.block (ctx.ofArrow isAsync)
            else FuncBody.expr <$> r'.assignment (ctx.ofArrow isAsync) ends) := by
        refine .ite (fun _ => ?_) fun _ => ?_
        · exact (hr.agree.block _).map fun ss ss' hss =>
            congrArg FuncBody.block (alike_of_eq stmtsUnmarked_eq hss)
        · exact (hr.agree.assignment _ _).map fun e e' he => congrArg FuncBody.expr he
      refine hbody.bind fun body body' hbody => ?_
      refine (parallel_since _ _).bind fun loc loc' _ => .pure ?_
      exact congrArg₂ (fun ps body => some (Expr.arrow _ ⟨_, isAsync, false, ps, body⟩))
        (alike_of_eq paramsUnmarked_eq hps) hbody

theorem arrowOrParenthesized (ctx : Context) (ends : List TokenKind) :
    Parallel (AlikeBy Expr.unmarked) (r.arrowOrParenthesized ctx ends)
      (r'.arrowOrParenthesized ctx ends) := by
  refine (hr.arrow? ctx false ends).bind fun o o' ho => ?_
  cases o with
  | none =>
    cases o' with
    | none => exact hr.agree.parenthesized ctx
    | some e' => cases ho
  | some e =>
    cases o' with
    | none => cases ho
    | some e' => exact .pure (Option.some.inj ho)

theorem nameOrArrow (ctx : Context) (ends : List TokenKind) :
    Parallel (AlikeBy Expr.unmarked) (r.nameOrArrow ctx ends) (r'.nameOrArrow ctx ends) := by
  refine parallel_peekTwo.bind fun ts ts' hts => ?_
  obtain ⟨a, next⟩ := ts
  obtain ⟨a', next'⟩ := ts'
  have harrow : (next.kind == .punct .arrow) = (next'.kind == .punct .arrow) :=
    hts.test (· == .punct .arrow) rfl
  dsimp only
  rw [harrow]
  refine .ite (fun _ => ?_) fun _ => parallel_nameExpr ctx
  refine (hr.arrow? ctx false ends).bind fun o o' ho => ?_
  cases o with
  | none =>
    cases o' with
    | none => exact parallel_nameExpr ctx
    | some e' => cases ho
  | some e =>
    cases o' with
    | none => cases ho
    | some e' => exact .pure (Option.some.inj ho)

/-- An arrow behind `async`, which starts at two buffers, or else nothing is read. -/
theorem asyncArrow (ctx : Context) (ends : List TokenKind) (hw : Tails w w') (hb : b.Beside w w' b')
    (hword : (b.upcoming .standard).isWord "async" = true) :
    FollowsFrom w w' b b' (AlikeBy Expr.unmarked)
      (do
        discard consume
        if let some e ← r.arrow? ctx true ends then return e
        restore b.mark
        r.nameOrArrow ctx ends)
      (do
        discard consume
        if let some e ← r'.arrow? ctx true ends then return e
        restore b'.mark
        r'.nameOrArrow ctx ends) := by
  intro e d hp hl
  obtain ⟨_, b₁, hskip, h⟩ := bind_ok hp
  obtain ⟨o, b₂, harrow, h⟩ := bind_ok h
  obtain ⟨hkeeps₁, hc₁⟩ := (runs_skip _).keeps_ok hb.coherent hskip
  obtain ⟨hkeeps₂, harrow₂⟩ := (hr.agree.sound.arrow? true ends).keeps_ok hkeeps₁.coherent harrow
  have hopen : ¬Shut "async".toList := by
    intro hshut
    rcases hshut.getLast? with h | h <;> cases h
  have hlt₁ := hb.lt_of_word hw hword hopen hc₁
  refine (answers_pass hw hb hskip hlt₁).bind_eq fun _ b₁' hskip' _ hb₁ => ?_
  obtain ⟨hkeeps₁', -⟩ := (runs_skip _).keeps_ok hb.coherent' hskip'
  cases o with
  | some e =>
    cases h
    refine ((hr.arrow? ctx true ends).follows hw hb₁ harrow hl).bind fun o' b₂' ho hb₂ => ?_
    cases o' with
    | none => cases ho
    | some e' => exact ⟨Option.some.inj ho, hb₂⟩
  | none =>
    have hlt₂ : w.length < b₂.left := by
      have hpos : b₂.position = b₁.position := harrow₂.position
      rwa [TokenBuffer.left, hpos]
    refine ((hr.arrow? ctx true ends).follows hw hb₁ harrow hlt₂).bind_eq
      fun o' b₂' harrow' ho _ => ?_
    obtain ⟨hkeeps₂', -⟩ := (hr.back.sound.arrow? true ends).keeps_ok hkeeps₁'.coherent harrow'
    cases o' with
    | some e' => cases ho
    | none =>
      have hback := hb.unread (hkeeps₁.trans hkeeps₂).restore (hkeeps₁'.trans hkeeps₂').restore
      exact (hr.nameOrArrow ctx ends).follows hw hback h hl

theorem asyncOrName (ctx : Context) (ends : List TokenKind) (hw : Tails w w')
    (hb : b.Beside w w' b') (hword : (b.upcoming .standard).isWord "async" = true) :
    FollowsFrom w w' b b' (AlikeBy Expr.unmarked) (r.asyncOrName ctx ends)
      (r'.asyncOrName ctx ends) := by
  refine .peekTwo hw hb fun {ts ts' c c'} hts hc _ _ hb₁ => ?_
  obtain ⟨a, next⟩ := ts
  obtain ⟨a', next'⟩ := ts'
  have hline : next.newlineBefore = next'.newlineBefore := hts.newline
  have hfunc : (next.kind == .keyword .kFunction) = (next'.kind == .keyword .kFunction) :=
    hts.test (· == .keyword .kFunction) rfl
  have hparen : (next.kind == .punct .lParen) = (next'.kind == .punct .lParen) :=
    hts.test (· == .punct .lParen) rfl
  have hname : ctx.isName next.kind = ctx.isName next'.kind := hts.test ctx.isName rfl
  rw [← hc.upcoming] at hword
  dsimp only
  rw [hline, hfunc, hparen, hname]
  refine .ite (fun _ => .ite (fun _ => ?_) fun _ => .ite (fun _ => ?_) fun _ => ?_) fun _ => ?_
  · exact (hr.agree.funcExpr ctx).follows hw hb₁
  · exact .mark (hr.asyncArrow ctx ends hw hb₁ hword)
  · exact (hr.nameOrArrow ctx ends).follows hw hb₁
  · exact (hr.nameOrArrow ctx ends).follows hw hb₁

end Rules.Twins

/-! ### Parts of operands -/

theorem endsYield_of_face {t t' : Token} (h : t.face = t'.face) (ends : List TokenKind) :
    Rules.endsYield ends t = Rules.endsYield ends t' := by
  rw [Rules.endsYield, Rules.endsYield, Token.kind_of_face h, Token.newline_of_face h]

theorem parallel_memberAccess {e e' : Expr} (he : e.unmarked = e'.unmarked) (optional : Bool) :
    Parallel (AlikeBy Expr.unmarked) (Rules.memberAccess e optional)
      (Rules.memberAccess e' optional) := by
  refine (parallel_consume _).bind fun t t' ht => ?_
  rw [Token.kind_of_face (Token.face_of_saying ht)]
  exact .ite (fun _ => .throw) fun _ =>
    .pure (congrArg₂ (Expr.member _ optional) he (Token.text_of_saying ht))

theorem parallel_ofExcept {α γ : Type} {e : α → γ} {x x' : Except SyntaxError α}
    (h : ∀ a, x = .ok a → ∃ a', x' = .ok a' ∧ e a' = e a) :
    Parallel (AlikeBy e) (TokenParser.ofExcept x) (TokenParser.ofExcept x') := by
  cases x with
  | error e => exact .throw
  | ok a =>
    obtain ⟨a', rfl, ha⟩ := h a rfl
    exact .pure ha.symm

theorem parallel_stringLiteral :
    Parallel (AlikeBy Expr.unmarked) stringLiteral stringLiteral := by
  exact firm_stringValue.parallel.bind fun v v' hv => .pure (congrArg (Expr.str _) hv)

theorem parallel_numberLiteral :
    Parallel (AlikeBy Expr.unmarked) numberLiteral numberLiteral := by
  refine (parallel_expect _ _).bind fun t t' ht => ?_
  rw [Token.text_of_saying ht]
  split
  · exact .pure rfl
  · exact .throw

theorem parallel_bigIntLiteral :
    Parallel (AlikeBy Expr.unmarked) bigIntLiteral bigIntLiteral := by
  exact (parallel_expect _ _).bind fun t t' ht =>
    .pure (congrArg (Expr.bigInt _) (Token.text_of_saying ht))

/-- An expression that is a single word. -/
theorem parallel_wordExpr (build : Loc → Expr)
    (h : ∀ loc loc', (build loc).unmarked = (build loc').unmarked) :
    Parallel (AlikeBy Expr.unmarked) (do return build (← consume).loc)
      (do return build (← consume).loc) :=
  (parallel_consume _).bind fun _ _ _ => .pure (h _ _)

theorem parallel_regexLiteral :
    Parallel (AlikeBy Expr.unmarked) regexLiteral regexLiteral := by
  exact (parallel_expect _ _).bind fun t t' ht =>
    .pure (congrArg (Expr.regex _) (Token.text_of_saying ht))

namespace Rules.Agree

variable (hr : r.Agree r')
include hr

theorem args (ctx : Context) :
    Parallel (AlikeBy (List.map Arg.unmarked)) (r.args ctx) (r'.args ctx) := by
  refine .separated .rParen ?_ _ _
  refine (parallel_acceptPunct _ _).next fun isSpread => ?_
  exact (hr.assignment ctx _).bind fun e e' he => .pure (congrArg (Arg.mk isSpread) he)

theorem yieldExpr (ctx : Context) (ends : List TokenKind) :
    Parallel (AlikeBy Expr.unmarked) (r.yieldExpr ctx ends) (r'.yieldExpr ctx ends) := by
  refine .spanning ?_
  refine (parallel_expectKeyword _).next fun _ => ?_
  refine (parallel_acceptPunct _ _).next fun delegate => ?_
  refine (parallel_peek _).bind fun t t' ht => ?_
  rw [endsYield_of_face ht]
  exact (Parallel.optionally _ fun _ => hr.assignment ctx ends).bind fun arg arg' harg =>
    .pure fun _ _ => congrArg (Expr.yield _ delegate) (alike_of_eq optUnmarked_eq harg)

theorem importExpr (ctx : Context) :
    Parallel (AlikeBy Expr.unmarked) (r.importExpr ctx) (r'.importExpr ctx) := by
  refine .spanning ?_
  refine (parallel_expectKeyword _).next fun _ => ?_
  refine (parallel_acceptPunct _ _).next fun _ => .ite (fun _ => ?_) fun _ => ?_
  · exact (parallel_expectWord _).discard.next fun _ => .pure fun _ _ => rfl
  refine (parallel_expectPunct _ _).next fun _ => ?_
  refine (hr.assignment ctx _).bind fun e e' he => ?_
  refine (parallel_acceptPunct _ _).discard.next fun _ => ?_
  exact (parallel_expectPunct _ _).next fun _ => .pure fun _ _ => congrArg (Expr.importCall _) he

theorem indexAccess (ctx : Context) {e e' : Expr} (he : e.unmarked = e'.unmarked)
    (optional : Bool) :
    Parallel (AlikeBy Expr.unmarked) (r.indexAccess ctx e optional)
      (r'.indexAccess ctx e' optional) := by
  refine (hr.sequence ctx _).bind fun k k' hk => ?_
  exact (parallel_expect _ _).bind fun close close' _ => .pure (congrArg₂ (Expr.index _ optional) he hk)

theorem taggedTemplate (ctx : Context) {e e' : Expr} {t t' : Token} (he : e.unmarked = e'.unmarked)
    (ht : t.saying = t'.saying) :
    Parallel (AlikeBy Expr.unmarked) (r.taggedTemplate ctx e t) (r'.taggedTemplate ctx e' t') := by
  exact (hr.templateAfter ctx ht).bind fun ps ps' hps => .pure (congrArg₂ (Expr.tagged _) he hps)

theorem templateLiteral (ctx : Context) :
    Parallel (AlikeBy Expr.unmarked)
      (do
        let first ← consume
        let (parts, loc) ← r.templateAfter ctx first
        return .template loc parts)
      (do
        let first ← consume
        let (parts, loc) ← r'.templateAfter ctx first
        return .template loc parts) := by
  refine (parallel_consume _).bind fun t t' ht => ?_
  exact (hr.templateAfter ctx ht).bind fun ps ps' hps => .pure (congrArg (Expr.template _) hps)

theorem calleeTail (ctx : Context) : ∀ n n' e e', e.unmarked = e'.unmarked →
    Parallel (AlikeBy Expr.unmarked) (r.calleeTail ctx e n) (r'.calleeTail ctx e' n')
  | 0, _, _, _, _ => .exhausted
  | n + 1, n', e, e', he => by
    have step : ∀ m', Parallel (AlikeBy Expr.unmarked) (r.calleeTail ctx e (n + 1))
        (r'.calleeTail ctx e' (m' + 1)) := by
      intro m'
      refine (parallel_peekKind _).next fun k => ?_
      split
      · refine (parallel_skip _).next fun _ => ?_
        exact (parallel_memberAccess he _).bind fun x x' hx => calleeTail ctx n m' x x' hx
      · refine (parallel_skip _).next fun _ => ?_
        exact (hr.indexAccess ctx he _).bind fun x x' hx => calleeTail ctx n m' x x' hx
      · refine (parallel_consume _).bind fun t t' ht => ?_
        exact (hr.taggedTemplate ctx he ht).bind fun x x' hx => calleeTail ctx n m' x x' hx
      · refine (parallel_consume _).bind fun t t' ht => ?_
        exact (hr.taggedTemplate ctx he ht).bind fun x x' hx => calleeTail ctx n m' x x' hx
      · exact .pure he
    cases n' with
    | zero => exact .spent (step 0).keeps
    | succ m' => exact step m'

theorem constructExpr (ctx : Context) :
    Parallel (AlikeBy Expr.unmarked) (r.constructExpr ctx) (r'.constructExpr ctx) := by
  refine .spanning ?_
  refine (parallel_expectKeyword _).next fun _ => ?_
  refine (parallel_acceptPunct _ _).next fun _ => .ite (fun _ => ?_) fun _ => ?_
  · exact (parallel_expectWord _).discard.next fun _ => .pure fun _ _ => rfl
  refine (parallel_peekKind _).next fun k => .join ?_
  have hstart : Parallel (AlikeBy Expr.unmarked)
      (if (k == .keyword .kNew) = true then r.construct ctx else r.operand ctx [])
      (if (k == .keyword .kNew) = true then r'.construct ctx else r'.operand ctx []) :=
    .ite (fun _ => hr.construct ctx) fun _ => hr.operand ctx []
  refine hstart.bind fun e e' he => ?_
  refine (hr.calleeTail ctx _ _ e e' he).bind fun callee callee' hcallee => ?_
  refine (parallel_acceptPunct _ _).next fun ok => ?_
  refine (Parallel.optionally ok fun _ => hr.args ctx).bind fun args args' hargs =>
    .pure fun _ _ => ?_
  have hlist : optArgsUnmarked args = optArgsUnmarked args' := by
    rw [optArgsUnmarked_eq, optArgsUnmarked_eq, funext argsUnmarked_eq]
    exact hargs
  exact congrArg₂ (Expr.construct _) hcallee hlist

theorem arrayElems (ctx : Context) : ∀ n n',
    Parallel (AlikeBy (List.map ArrayElem.unmarked)) (r.arrayElems ctx n) (r'.arrayElems ctx n')
  | 0, _ => .exhausted
  | n + 1, 0 => .spent (hr.sound.arrayElems (n + 1))
  | n + 1, n' + 1 => by
    refine (parallel_acceptPunct _ _).next fun _ => .ite (fun _ => .pure rfl) fun _ => ?_
    refine (parallel_acceptPunct _ _).next fun _ => .ite (fun _ => ?_) fun _ => ?_
    · exact (arrayElems ctx n n').bind fun es es' hes => .pure (congrArg (List.cons ArrayElem.hole) hes)
    refine (parallel_acceptPunct _ _).next fun isSpread => ?_
    refine (hr.assignment ctx _).bind fun e e' he => ?_
    have helem : ArrayElem.unmarked (if isSpread then .spread e else .item e) =
        ArrayElem.unmarked (if isSpread then .spread e' else .item e') := by
      split
      · exact congrArg ArrayElem.spread he
      · exact congrArg ArrayElem.item he
    refine (parallel_acceptPunct _ _).next fun _ => .ite (fun _ => ?_) fun _ => ?_
    · exact (arrayElems ctx n n').bind fun es es' hes => .pure (congrArg₂ List.cons helem hes)
    · exact (parallel_expectPunct _ _).next fun _ => .pure (congrArg (fun x => [x]) helem)

theorem arrayLiteral (ctx : Context) :
    Parallel (AlikeBy Expr.unmarked) (r.arrayLiteral ctx) (r'.arrayLiteral ctx) := by
  refine .spanning ?_
  refine (parallel_expectPunct _ _).next fun _ => ?_
  exact (hr.arrayElems ctx _ _).bind fun es es' hes => .pure fun _ _ =>
    congrArg (Expr.array _) (alike_of_eq elemsUnmarked_eq hes)

theorem unaryExpr (ctx : Context) (op : Operator) (ends : List TokenKind) :
    Parallel (AlikeBy Expr.unmarked) (r.unaryExpr ctx op ends) (r'.unaryExpr ctx op ends) := by
  refine .spanning ?_
  refine (parallel_skip _).next fun _ => ?_
  exact (hr.expr ctx _ ends).bind fun e e' he => .pure fun _ _ => congrArg (Expr.unary _ op) he

end Rules.Agree

/-! ### Operands -/

namespace Rules.Twins

variable (hr : r.Twins r')
include hr

/-- An operand that starts with the next token. -/
theorem primaryExpr (ctx : Context) (ends : List TokenKind) (hw : Tails w w')
    (hb : b.Beside w w' b') :
    FollowsFrom w w' b b' (AlikeBy Expr.unmarked) (r.primaryExpr ctx ends (b.upcoming .operand))
      (r'.primaryExpr ctx ends (b'.upcoming .operand)) := by
  have hface := hb.face hw .operand
  have hword := Token.isWord_of_face hface "async"
  unfold Rules.primaryExpr
  rw [Token.kind_of_face hface, hword]
  split
  · exact (hr.agree.constructExpr ctx).follows hw hb
  · exact (hr.agree.importExpr ctx).follows hw hb
  · refine Parallel.follows (.spanning ?_) hw hb
    exact (hr.agree.element ctx).bind fun e e' he => .pure fun _ _ => congrArg (Expr.jsx _) he
  · exact (hr.arrowOrParenthesized ctx ends).follows hw hb
  · exact (hr.agree.arrayLiteral ctx).follows hw hb
  · exact (hr.agree.objectLiteral ctx).follows hw hb
  · exact (hr.agree.funcExpr ctx).follows hw hb
  · exact (hr.agree.classExpr ctx).follows hw hb
  · exact parallel_bigIntLiteral.follows hw hb
  · exact (parallel_wordExpr (Expr.bool · false) fun _ _ => rfl).follows hw hb
  · exact (parallel_wordExpr (Expr.bool · true) fun _ _ => rfl).follows hw hb
  · exact (parallel_wordExpr Expr.null fun _ _ => rfl).follows hw hb
  · exact parallel_numberLiteral.follows hw hb
  · exact parallel_regexLiteral.follows hw hb
  · exact parallel_stringLiteral.follows hw hb
  · exact (hr.agree.templateLiteral ctx).follows hw hb
  · exact (hr.agree.templateLiteral ctx).follows hw hb
  · exact (parallel_wordExpr Expr.superRef fun _ _ => rfl).follows hw hb
  · exact (parallel_wordExpr Expr.this fun _ _ => rfl).follows hw hb
  · refine .ite (fun hasync => ?_) fun _ => .ite (fun _ => ?_) fun _ => ?_
    · refine hr.asyncOrName ctx ends hw hb ?_
      rw [← hword] at hasync
      have hident : (b.upcoming .operand).kind = .ident := by
        simp only [Token.isWord, Bool.and_eq_true, beq_iff_eq] at hasync
        exact hasync.1
      rwa [upcoming_standard_of_operand (by simp [hident]) (by simp [hident])]
    · exact (hr.nameOrArrow ctx ends).follows hw hb
    · exact .ite (fun _ => Parallel.throw.follows hw hb) fun _ => Parallel.throw.follows hw hb

theorem operandExpr (ctx : Context) (ends : List TokenKind) :
    Parallel (AlikeBy Expr.unmarked) (r.operandExpr ctx ends) (r'.operandExpr ctx ends) where
  keeps _ := (hr.agree.sound.operandExpr ends).mono fun e _ _ _ => ⟨e, rfl⟩
  follows hw hb := by
    refine .peek hw hb fun {c c'} hc hface => ?_
    rw [Token.kind_of_face hface]
    cases prefixAt? ctx (c'.upcoming .operand).kind with
    | some op => exact (hr.agree.unaryExpr ctx op ends).follows hw hc
    | none =>
      refine .ite (fun _ => ?_) fun _ => ?_
      · exact (hr.agree.yieldExpr ctx ends).follows hw hc
      · exact hr.primaryExpr ctx ends hw hc

end Rules.Twins

/-! ### Operators after an operand -/

namespace Rules.Agree

variable (hr : r.Agree r')
include hr

theorem binaryTail (ctx : Context) (ends : List TokenKind) (op : Operator) {e e' : Expr}
    (he : e.unmarked = e'.unmarked) :
    Parallel (AlikeBy Expr.unmarked) (r.binaryTail ctx ends op e) (r'.binaryTail ctx ends op e') := by
  refine .join ?_
  have hleft : Parallel (AlikeBy Expr.unmarked)
      (if op.isAssignment then TokenParser.ofExcept (e.toTarget op) else Pure.pure e)
      (if op.isAssignment then TokenParser.ofExcept (e'.toTarget op) else Pure.pure e') :=
    .ite (fun _ => parallel_ofExcept fun t ht => Expr.toTarget_unmarked he.symm ht) fun _ => .pure he
  refine hleft.bind fun left left' hleft => ?_
  exact (hr.expr ctx _ ends).bind fun right right' hright =>
    .pure (congrArg₂ (Expr.binary _ op) hleft hright)

theorem applyOperator (ctx : Context) (ends : List TokenKind) (start start' : Nat) {t t' : Token}
    (ht : t.saying = t'.saying) (op : Operator) {e e' : Expr} (he : e.unmarked = e'.unmarked) :
    Parallel (AlikeBy Expr.unmarked) (r.applyOperator ctx ends start t op e)
      (r'.applyOperator ctx ends start' t' op e') := by
  have call : ∀ optional, Parallel (AlikeBy Expr.unmarked)
      (do
        let args ← r.args ctx
        return .call (e.loc.join (← since start)) optional e args)
      (do
        let args ← r'.args ctx
        return .call (e'.loc.join (← since start')) optional e' args) := by
    intro optional
    refine (hr.args ctx).bind fun as as' has => ?_
    exact (parallel_since _ _).bind fun _ _ _ => .pure <|
      congrArg₂ (Expr.call _ optional) he (alike_of_eq argsUnmarked_eq has)
  unfold Rules.applyOperator
  rw [Token.kind_of_face (Token.face_of_saying ht)]
  split
  · exact .ite (fun _ => call false) fun _ => hr.taggedTemplate ctx he ht
  · exact call true
  · exact parallel_memberAccess he _
  · exact parallel_memberAccess he _
  · exact hr.indexAccess ctx he _
  · exact hr.indexAccess ctx he _
  · refine (hr.assignment ctx _).bind fun c c' hc => ?_
    refine (parallel_expectPunct _ _).next fun _ => ?_
    refine (hr.assignment ctx ends).bind fun a a' ha => .pure ?_
    change Expr.cond _ e.unmarked c.unmarked a.unmarked = .cond _ e'.unmarked c'.unmarked a'.unmarked
    rw [he, hc, ha]
  · exact hr.binaryTail ctx ends op he

/-- What is read of the operators behind an operand keeps the buffer. -/
theorem operatorTail_keeps (ctx : Context) (least : Nat) (ends : List TokenKind) :
    ∀ (n : Nat) (b : TokenBuffer) (left : Expr),
      Runs b (r.operatorTail ctx least ends left n) fun _ _ => True
  | 0, _, _ => runs_exhausted
  | n + 1, b, left => by
    refine RunsFrom.bind runs_mark fun start b₁ _ h₁ => ?_
    obtain ⟨rfl, rfl⟩ := h₁
    refine .bind (runs_consume _) fun t b₁ _ _ => ?_
    have stop : RunsFrom b b₁ (do TokenParser.restore b.mark; return left) fun _ _ => True :=
      .chain .restore fun _ _ _ _ => .pure trivial
    have more : ∀ (b₂ : TokenBuffer) (e : Expr), RunsFrom b b₂ (r.operatorTail ctx least ends e n)
        fun _ _ => True := fun b₂ e =>
      (operatorTail_keeps ctx least ends n b₂ e).widen.mono fun _ _ _ _ => trivial
    refine .ite (fun _ => stop) fun _ => ?_
    split
    · exact .ite (fun _ => stop) fun _ => more b₁ _
    · split
      · next op _ =>
        refine .ite (fun _ => stop) fun _ => ?_
        exact .bind ((hr.applyOperator ctx ends b.mark b.mark rfl op rfl).keeps b₁)
          fun e b₂ _ _ => more b₂ e
      · exact stop

/-- The operators behind an operand are the same on both sides. -/
theorem operatorTail (ctx : Context) (least : Nat) (ends : List TokenKind) :
    ∀ n n' left left', left.unmarked = left'.unmarked →
      Parallel (AlikeBy Expr.unmarked) (r.operatorTail ctx least ends left n)
        (r'.operatorTail ctx least ends left' n')
  | 0, _, _, _, _ => .exhausted
  | n + 1, 0, left, _, _ => .spent fun b => hr.operatorTail_keeps ctx least ends (n + 1) b left
  | n + 1, n' + 1, left, left', hleft => by
    refine ⟨fun b => (hr.operatorTail_keeps ctx least ends (n + 1) b left).mono
      fun e _ _ _ => ⟨e, rfl⟩, fun {w w' b b'} hw hb x c hp hl => ?_⟩
    obtain ⟨start, b₀, hmark, h⟩ := bind_ok hp
    cases hmark
    obtain ⟨t, b₁, ht, h⟩ := bind_ok h
    obtain ⟨hkeeps, rfl, hc⟩ := (runs_consume _).keeps_ok hb.coherent ht
    obtain ⟨t', b₁', ht', hkeeps', rfl, hc'⟩ := succeeds_consume_any .standard (.refl hb.coherent')
    have hface := hb.face hw .standard
    have htail : r'.operatorTail ctx least ends left' (n' + 1) b' = _ :=
      (bind_of_ok (p := mark) rfl).trans (bind_of_ok ht')
    -- nothing that stops the operators is consumed
    have stop : ((do TokenParser.restore b.mark; return left : TokenParser Expr)) b₁ = .ok x c →
        Answers (c.Beside w w') (AlikeBy Expr.unmarked x)
          ((do TokenParser.restore b'.mark; return left' : TokenParser Expr) b₁') := by
      intro hstop
      cases hstop
      exact ⟨hleft, hb.unread hkeeps.restore hkeeps'.restore⟩
    rw [htail]
    dsimp only at h ⊢
    rw [Token.kind_of_face hface] at h
    by_cases hends : (b'.upcoming .standard).kind ∈ ends
    · rw [if_pos hends] at h ⊢
      exact stop h
    rw [if_neg hends] at h ⊢
    cases hupdate : updateOperator? (b'.upcoming .standard).kind with
    | some op =>
      rw [hupdate] at h
      dsimp only at h ⊢
      rw [Token.newline_of_face hface] at h
      by_cases hrefused : ((b'.upcoming .standard).newlineBefore || op.precedence < least) = true
      · rw [if_pos hrefused] at h ⊢
        exact stop h
      rw [if_neg hrefused] at h ⊢
      obtain ⟨hkeeps₂, -⟩ := (hr.operatorTail_keeps ctx least ends n b₁ _).keeps_ok hkeeps.coherent h
      obtain ⟨-, hb₁⟩ := hb.passed hw hc hc' (Nat.lt_of_lt_of_le hl hkeeps₂.left_le)
      refine (operatorTail ctx least ends n n' _ _ ?_).follows hw hb₁ h hl
      exact congrArg (Expr.update _ op) hleft
    | none =>
      rw [hupdate] at h
      cases hop : (b'.upcoming .standard).kind.infixOperator? with
      | none =>
        rw [hop] at h
        exact stop h
      | some op =>
        rw [hop] at h
        dsimp only at h ⊢
        by_cases hloose : op.precedence < least
        · rw [if_pos hloose] at h ⊢
          exact stop h
        rw [if_neg hloose] at h ⊢
        obtain ⟨e, b₂, he, h⟩ := bind_ok h
        obtain ⟨hkeeps₂, -⟩ := ((hr.applyOperator ctx ends b.mark b.mark rfl op rfl).keeps
          b₁).keeps_ok hkeeps.coherent he
        obtain ⟨hkeeps₃, -⟩ :=
          (hr.operatorTail_keeps ctx least ends n b₂ e).keeps_ok hkeeps₂.coherent h
        have hlt₂ := Nat.lt_of_lt_of_le hl hkeeps₃.left_le
        obtain ⟨hsaying, hb₁⟩ := hb.passed hw hc hc' (Nat.lt_of_lt_of_le hlt₂ hkeeps₂.left_le)
        have happly := hr.applyOperator ctx ends b.mark b'.mark hsaying op hleft
        refine (happly.follows hw hb₁ he hlt₂).bind fun e' b₂' he' hb₂ => ?_
        exact (operatorTail ctx least ends n n' e e' he').follows hw hb₂ h hl

end Rules.Agree

theorem Rules.Twins.operatorExpr (hr : r.Twins r') (ctx : Context) (least : Nat)
    (ends : List TokenKind) :
    Parallel (AlikeBy Expr.unmarked) (r.operatorExpr ctx least ends)
      (r'.operatorExpr ctx least ends) :=
  (hr.operandExpr ctx ends).bind fun left left' hleft =>
    hr.agree.operatorTail ctx least ends _ _ left left' hleft

end ImportSeam
