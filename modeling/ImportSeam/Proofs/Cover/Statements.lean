import ImportSeam.Proofs.Cover.Expressions
import ImportSeam.Proofs.Grammar.Statements
import ImportSeam.Proofs.Reread.Operand

namespace ImportSeam

open TokenParser TokenBuffer

variable {ctx : Context} {r r' : Rules}

/-! ### Heads of declarations and loops -/

theorem parallel_varMode : Parallel Eq varMode varMode := by
  refine (parallel_consume _).bind fun t t' ht => ?_
  rw [Token.kind_of_face (Token.face_of_saying ht)]
  split
  · exact .pure rfl
  · exact .pure rfl
  · exact .pure rfl
  · exact .throw

theorem parallel_jumpLabel? : Parallel Eq jumpLabel? jumpLabel? := by
  refine (parallel_consumeIf (fun t t' ht => ?_) .standard).bind fun o o' ho => .pure ?_
  · rw [Token.kind_of_face ht, Token.newline_of_face ht]
  · cases o with
    | none =>
      cases o' with
      | none => rfl
      | some t' => cases ho
    | some t =>
      cases o' with
      | none => cases ho
      | some t' => exact congrArg some (Token.text_of_saying (Option.some.inj ho))

theorem parallel_jumpStmt (k : Keyword) {build : Loc → Option String → Stmt}
    (h : ∀ loc loc' label, (build loc label).unmarked = (build loc' label).unmarked) :
    Parallel (AlikeBy Stmt.unmarked) (Rules.jumpStmt k build) (Rules.jumpStmt k build) := by
  refine .spanning ((parallel_expectKeyword _).next fun _ => ?_)
  refine parallel_jumpLabel?.next fun label => ?_
  exact parallel_semicolon.next fun _ => .pure fun loc loc' => h loc loc' label

/-- Equal first parts give equal targets of loops. -/
theorem forTarget_unmarked {first first' : Token} {loc loc' : Loc} {init init' : ForInit}
    {target : ForTarget} (h : init.unmarked = init'.unmarked)
    (ht : Rules.forTarget first loc init = .ok target) :
    ∃ target', Rules.forTarget first' loc' init' = .ok target' ∧
      target'.unmarked = target.unmarked := by
  obtain ⟨mode, p, rfl, rfl⟩ | ⟨e, p, rfl, hp, rfl⟩ := Rules.forTarget_ok ht
  · cases init' with
    | decl mode' bs' =>
      obtain ⟨rfl, hbs⟩ := ForInit.decl.inj h
      rw [bindersUnmarked_eq, bindersUnmarked_eq, List.map_singleton] at hbs
      obtain ⟨⟨p', d'⟩, rfl, hbinder⟩ := List.map_eq_singleton_iff.mp hbs.symm
      cases d' with
      | some e => exact nomatch (Binder.mk.inj hbinder).2
      | none => exact ⟨.decl mode p', rfl, congrArg (ForTarget.decl mode) (Binder.mk.inj hbinder).1⟩
    | _ => exact nomatch h
  · cases init' with
    | expr e' =>
      obtain ⟨p', hp', hsame⟩ := Expr.toPat_unmarked e (ForInit.expr.inj h).symm hp
      refine ⟨.assign p', ?_, congrArg ForTarget.assign hsame⟩
      rw [Rules.forTarget, hp']
      rfl
    | _ => exact nomatch h

/-! ### Declarations and loops -/

namespace Rules.Agree

variable (hr : r.Agree r')
include hr

theorem varBinders (ctx : Context) (ends : List TokenKind) : ∀ n n',
    Parallel (AlikeBy (List.map Binder.unmarked)) (r.varBinders ctx ends n) (r'.varBinders ctx ends n')
  | 0, _ => .exhausted
  | n + 1, 0 => .spent (hr.sound.varBinders ends (n + 1))
  | n + 1, n' + 1 => by
    refine (hr.pat ctx).bind fun p p' hp => ?_
    refine (hr.default? ctx _).bind fun d d' hd => ?_
    have hitem := Binder.unmarked_congr hp hd
    refine (parallel_acceptPunct _ _).next fun _ => .ite (fun _ => ?_) fun _ => ?_
    · exact (varBinders ctx ends n n').bind fun bs bs' hbs => .pure (congrArg₂ List.cons hitem hbs)
    · exact .pure (congrArg (fun x => [x]) hitem)

theorem varParts (ctx : Context) (ends : List TokenKind) :
    Parallel (AlikeBy (Prod.map id (List.map Binder.unmarked))) (r.varParts ctx ends)
      (r'.varParts ctx ends) := by
  refine parallel_varMode.next fun mode => ?_
  exact (hr.varBinders ctx ends _ _).bind fun bs bs' hbs => .pure (Prod.ext rfl hbs)

theorem varDecl (ctx : Context) (isExported : Bool) :
    Parallel (BuildAlike Stmt.unmarked) (r.varDecl ctx isExported) (r'.varDecl ctx isExported) := by
  refine (hr.varParts ctx []).bind fun v v' hv => .pure fun _ _ => ?_
  obtain ⟨hmode, hbinders⟩ := Prod.mk.inj hv
  simp only [id_eq] at hmode
  exact congrArg₂ (Stmt.varDecl _ isExported) hmode (alike_of_eq bindersUnmarked_eq hbinders)

theorem funcDecl (ctx : Context) (isExported isDefault : Bool) :
    Parallel (BuildAlike Stmt.unmarked) (r.funcDecl ctx isExported isDefault)
      (r'.funcDecl ctx isExported isDefault) := by
  refine (hr.signature ctx).bind fun s s' hs => ?_
  obtain ⟨hname, hfunc⟩ := Prod.mk.inj hs
  have hnone : s.1.isNone = s'.1.isNone := by
    rw [← Option.not_isSome, ← Option.not_isSome, isSome_of_alike hname]
  dsimp only
  rw [hnone]
  refine .ite (fun _ => (parallel_peek _).bind fun _ _ _ => .throw) fun _ => .pure fun _ _ => ?_
  exact congrArg₂ (Stmt.funcDecl _ isExported isDefault) hname hfunc

theorem classDecl (ctx : Context) (isExported isDefault : Bool) :
    Parallel (BuildAlike Stmt.unmarked) (r.classDecl ctx isExported isDefault)
      (r'.classDecl ctx isExported isDefault) := by
  refine (hr.classSignature ctx).bind fun c c' hc => ?_
  obtain ⟨hname, hparts⟩ := Prod.mk.inj hc
  obtain ⟨hparent, hmembers⟩ := Prod.mk.inj hparts
  have hnone : c.1.isNone = c'.1.isNone := by
    rw [← Option.not_isSome, ← Option.not_isSome, isSome_of_alike hname]
  dsimp only
  rw [hnone]
  refine .ite (fun _ => (parallel_peek _).bind fun _ _ _ => .throw) fun _ => .pure fun _ _ => ?_
  have hparent := alike_of_eq optUnmarked_eq hparent
  have hmembers := alike_of_eq classUnmarked_eq hmembers
  change Stmt.classDecl _ _ _ _ (optUnmarked _) (classUnmarked _) =
    .classDecl _ _ _ _ (optUnmarked _) (classUnmarked _)
  rw [hname, hparent, hmembers]

theorem forInit (ctx : Context) :
    Parallel (AlikeBy fun x => x.2.unmarked) (r.forInit ctx) (r'.forInit ctx) := by
  refine parallel_peekTwo.bind fun ts ts' hts => ?_
  obtain ⟨t, next⟩ := ts
  obtain ⟨t', next'⟩ := ts'
  have hkind : t.kind = t'.kind := Token.kind_of_face hts.first
  have hdecl : startsVarDecl t next = startsVarDecl t' next' := by
    have hafter : declaresAfterLet next.kind = declaresAfterLet next'.kind := hts.test _ rfl
    rw [startsVarDecl, startsVarDecl, hkind, hafter]
  dsimp only
  rw [hdecl, hkind]
  refine .ite (fun _ => ?_) fun _ => .ite (fun _ => .pure rfl) fun _ => ?_
  · refine .spanning ((hr.varParts ctx _).bind fun v v' hv => .pure fun _ _ => ?_)
    obtain ⟨hmode, hbinders⟩ := Prod.mk.inj hv
    simp only [id_eq] at hmode
    exact congrArg₂ ForInit.decl hmode (alike_of_eq bindersUnmarked_eq hbinders)
  · exact (hr.sequence ctx _).bind fun e e' he => .pure (congrArg ForInit.expr he)

theorem forEachTail (ctx : Context) (isIn isAwait : Bool) {target target' : ForTarget}
    (ht : target.unmarked = target'.unmarked) :
    Parallel (BuildAlike Stmt.unmarked) (r.forEachTail ctx isIn isAwait target)
      (r'.forEachTail ctx isIn isAwait target') := by
  refine .join ?_
  have hobject : Parallel (AlikeBy Expr.unmarked)
      (if isIn = true then r.sequence ctx [.punct .rParen] else r.assignment ctx [.punct .rParen])
      (if isIn = true then r'.sequence ctx [.punct .rParen] else r'.assignment ctx [.punct .rParen]) :=
    .ite (fun _ => hr.sequence ctx _) fun _ => hr.assignment ctx _
  refine hobject.bind fun e e' he => ?_
  refine (parallel_expectPunct _ _).next fun _ => ?_
  refine (hr.stmt ctx).bind fun s s' hs => .pure fun _ _ => ?_
  split
  · change Stmt.forIn _ _ _ _ = .forIn _ _ _ _
    rw [ht, he, hs]
  · change Stmt.forOf _ _ _ _ _ = .forOf _ _ _ _ _
    rw [ht, he, hs]

theorem forLoopTail (ctx : Context) {init init' : ForInit} (hi : init.unmarked = init'.unmarked) :
    Parallel (BuildAlike Stmt.unmarked) (r.forLoopTail ctx init) (r'.forLoopTail ctx init') := by
  refine (parallel_expectPunct _ _).next fun _ => ?_
  refine (parallel_peekKind _).next fun _ => ?_
  refine (Parallel.optionally _ fun _ => hr.sequence ctx _).bind fun test test' htest => ?_
  refine (parallel_expectPunct _ _).next fun _ => ?_
  refine (parallel_peekKind _).next fun _ => ?_
  refine (Parallel.optionally _ fun _ => hr.sequence ctx _).bind fun post post' hpost => ?_
  refine (parallel_expectPunct _ _).next fun _ => ?_
  refine (hr.stmt ctx).bind fun s s' hs => .pure fun _ _ => ?_
  have htest := alike_of_eq optUnmarked_eq htest
  have hpost := alike_of_eq optUnmarked_eq hpost
  change Stmt.forLoop _ _ (optUnmarked test) (optUnmarked post) _ =
    .forLoop _ _ (optUnmarked test') (optUnmarked post') _
  rw [hi, htest, hpost, hs]

theorem forStmt (ctx : Context) :
    Parallel (AlikeBy Stmt.unmarked) (r.forStmt ctx) (r'.forStmt ctx) := by
  refine .spanning ((parallel_expectKeyword _).next fun _ => ?_)
  refine (parallel_acceptKeyword _).next fun isAwait => ?_
  refine (parallel_expectPunct _ _).next fun _ => ?_
  refine (parallel_peek _).bind fun first first' _ => ?_
  refine (hr.forInit ctx).bind fun x x' hx => ?_
  have hinit : x.2.unmarked = x'.2.unmarked := hx
  refine (parallel_peek _).bind fun t t' ht => ?_
  dsimp only
  rw [Token.kind_of_face ht, Token.isWord_of_face ht]
  refine .ite (fun _ => ?_) fun _ => hr.forLoopTail ctx hinit
  refine (parallel_skip _).next fun _ => ?_
  refine (parallel_ofExcept fun target h => forTarget_unmarked hinit h).bind
    fun target target' htarget => ?_
  exact hr.forEachTail ctx _ _ htarget

/-! ### Statements with blocks -/

theorem handler (ctx : Context) :
    Parallel (AlikeBy Catch.unmarked) (r.handler ctx) (r'.handler ctx) := by
  refine (parallel_acceptPunct _ _).next fun ok => ?_
  refine (Parallel.optionally (e := Pat.unmarked) ok fun _ => ?_).bind fun p p' hp => ?_
  · refine (hr.pat ctx).bind fun p p' hp => ?_
    exact (parallel_expectPunct _ _).next fun _ => .pure hp
  · exact (hr.block ctx).bind fun ss ss' hss => .pure <| congrArg₂ Catch.mk
      (alike_of_eq optPatUnmarked_eq hp) (alike_of_eq stmtsUnmarked_eq hss)

theorem tryStmt (ctx : Context) :
    Parallel (AlikeBy Stmt.unmarked) (r.tryStmt ctx) (r'.tryStmt ctx) := by
  refine .spanning ((parallel_expect _ _).bind fun t t' _ => ?_)
  refine (hr.block ctx).bind fun body body' hbody => ?_
  refine (parallel_acceptKeyword _).next fun _ => ?_
  refine (Parallel.optionally _ fun _ => hr.handler ctx).bind fun h h' hh => ?_
  refine (parallel_acceptKeyword _).next fun _ => ?_
  refine (Parallel.optionally _ fun _ => hr.block ctx).bind fun f f' hf => ?_
  have hnone : (h.isNone && f.isNone) = (h'.isNone && f'.isNone) := by
    simp only [← Option.not_isSome, isSome_of_alike hh, isSome_of_alike hf]
  rw [hnone]
  refine .ite (fun _ => .throw) fun _ => .pure fun _ _ => ?_
  have hfinal : optStmtsUnmarked f = optStmtsUnmarked f' := by
    rw [optStmtsUnmarked_eq, optStmtsUnmarked_eq, funext stmtsUnmarked_eq]
    exact hf
  have hbody := alike_of_eq stmtsUnmarked_eq hbody
  have hh := alike_of_eq optCatchUnmarked_eq hh
  change Stmt.tryCatch _ (stmtsUnmarked body) (optCatchUnmarked h) (optStmtsUnmarked f) =
    .tryCatch _ (stmtsUnmarked body') (optCatchUnmarked h') (optStmtsUnmarked f')
  rw [hbody, hh, hfinal]

theorem branchBody (ctx : Context) :
    Parallel (AlikeBy (List.map Stmt.unmarked)) (r.branchBody ctx) (r'.branchBody ctx) := by
  refine .collect ?_ _ _
  refine (parallel_peek _).bind fun t t' ht => ?_
  rw [Token.kind_of_face ht]
  split
  · exact .pure rfl
  · exact .pure rfl
  · exact .pure rfl
  · exact .throw
  · exact (hr.stmt ctx).bind fun s s' hs => .pure (congrArg some hs)

theorem branch (ctx : Context) :
    Parallel (AlikeBy SwitchCase.unmarked) (r.branch ctx) (r'.branch ctx) := by
  have tail : ∀ {test test' : Option Expr}, AlikeBy (Option.map Expr.unmarked) test test' →
      Parallel (AlikeBy SwitchCase.unmarked)
        (do
          expectPunct .colon
          return ⟨test, ← r.branchBody ctx⟩)
        (do
          expectPunct .colon
          return ⟨test', ← r'.branchBody ctx⟩) := by
    intro test test' htest
    refine (parallel_expectPunct _ _).next fun _ => ?_
    exact (hr.branchBody ctx).bind fun ss ss' hss => .pure <| congrArg₂ SwitchCase.mk
      (alike_of_eq optUnmarked_eq htest) (alike_of_eq stmtsUnmarked_eq hss)
  refine (parallel_acceptKeyword _).next fun _ => .ite (fun _ => tail rfl) fun _ => ?_
  refine (parallel_expectKeyword _).next fun _ => ?_
  have htest : Parallel (AlikeBy (Option.map Expr.unmarked))
      (some <$> r.sequence ctx [.punct .colon]) (some <$> r'.sequence ctx [.punct .colon]) :=
    (hr.sequence ctx _).map fun e e' he => congrArg some he
  exact htest.bind fun test test' h => tail h

theorem switchStmt (ctx : Context) :
    Parallel (AlikeBy Stmt.unmarked) (r.switchStmt ctx) (r'.switchStmt ctx) := by
  refine .spanning ((parallel_expectKeyword _).next fun _ => ?_)
  refine (hr.parenthesized ctx).bind fun e e' he => ?_
  refine (parallel_expectPunct _ _).next fun _ => ?_
  refine (Parallel.collect (e := SwitchCase.unmarked) ?_ _ _).bind fun cs cs' hcs =>
    .pure fun _ _ => ?_
  · refine (parallel_acceptPunct _ _).next fun _ => .ite (fun _ => .pure rfl) fun _ => ?_
    exact (hr.branch ctx).bind fun c c' hc => .pure (congrArg some hc)
  · exact congrArg₂ (Stmt.switch _) he (alike_of_eq casesUnmarked_eq hcs)

/-! ### Simple statements -/

theorem ifStmt (ctx : Context) :
    Parallel (AlikeBy Stmt.unmarked) (r.ifStmt ctx) (r'.ifStmt ctx) := by
  refine .spanning ((parallel_expectKeyword _).next fun _ => ?_)
  refine (hr.parenthesized ctx).bind fun test test' htest => ?_
  refine (hr.stmt ctx).bind fun s s' hs => ?_
  refine (parallel_acceptKeyword _).next fun _ => ?_
  refine (Parallel.optionally _ fun _ => hr.stmt ctx).bind fun e e' he => .pure fun _ _ => ?_
  have he := alike_of_eq optStmtUnmarked_eq he
  change Stmt.ifElse _ _ _ (optStmtUnmarked e) = .ifElse _ _ _ (optStmtUnmarked e')
  rw [htest, hs, he]

theorem whileStmt (ctx : Context) :
    Parallel (AlikeBy Stmt.unmarked) (r.whileStmt ctx) (r'.whileStmt ctx) := by
  refine .spanning ((parallel_expectKeyword _).next fun _ => ?_)
  refine (hr.parenthesized ctx).bind fun test test' htest => ?_
  refine (hr.stmt ctx).bind fun s s' hs => .pure fun _ _ => ?_
  exact congrArg₂ (Stmt.while _) htest hs

theorem doWhileStmt (ctx : Context) :
    Parallel (AlikeBy Stmt.unmarked) (r.doWhileStmt ctx) (r'.doWhileStmt ctx) := by
  refine .spanning ((parallel_expectKeyword _).next fun _ => ?_)
  refine (hr.stmt ctx).bind fun s s' hs => ?_
  refine (parallel_expectKeyword _).next fun _ => ?_
  refine (hr.parenthesized ctx).bind fun test test' htest => ?_
  refine (parallel_acceptPunct _ _).discard.next fun _ => .pure fun _ _ => ?_
  exact congrArg₂ (Stmt.doWhile _) hs htest

theorem withStmt (ctx : Context) :
    Parallel (AlikeBy Stmt.unmarked) (r.withStmt ctx) (r'.withStmt ctx) := by
  refine .spanning ((parallel_expectKeyword _).next fun _ => ?_)
  refine (hr.parenthesized ctx).bind fun e e' he => ?_
  refine (hr.stmt ctx).bind fun s s' hs => .pure fun _ _ => ?_
  exact congrArg₂ (Stmt.withObject _) he hs

theorem returnStmt (ctx : Context) :
    Parallel (AlikeBy Stmt.unmarked) (r.returnStmt ctx) (r'.returnStmt ctx) := by
  refine .spanning ((parallel_expectKeyword _).next fun _ => ?_)
  refine (parallel_peek _).bind fun t t' ht => ?_
  dsimp only
  rw [Token.kind_of_face ht, Token.newline_of_face ht]
  refine (Parallel.optionally _ fun _ => hr.sequence ctx _).bind fun e e' he => ?_
  refine parallel_semicolon.next fun _ => .pure fun _ _ => ?_
  exact congrArg (Stmt.returnValue _) (alike_of_eq optUnmarked_eq he)

theorem throwStmt (ctx : Context) :
    Parallel (AlikeBy Stmt.unmarked) (r.throwStmt ctx) (r'.throwStmt ctx) := by
  refine .spanning ((parallel_expectKeyword _).next fun _ => ?_)
  refine (parallel_peek _).bind fun t t' ht => ?_
  rw [Token.newline_of_face ht]
  refine .ite (fun _ => .throw) fun _ => ?_
  refine (hr.sequence ctx _).bind fun e e' he => ?_
  refine parallel_semicolon.next fun _ => .pure fun _ _ => ?_
  exact congrArg (Stmt.throw _) he

theorem labelStmt (ctx : Context) :
    Parallel (AlikeBy Stmt.unmarked) (r.labelStmt ctx) (r'.labelStmt ctx) := by
  refine .spanning ((parallel_consume _).bind fun t t' ht => ?_)
  refine (parallel_expectPunct _ _).next fun _ => ?_
  refine (hr.stmt ctx).bind fun s s' hs => .pure fun _ _ => ?_
  exact congrArg₂ (Stmt.label _) (Token.text_of_saying ht) hs

theorem exprStmt (ctx : Context) :
    Parallel (AlikeBy Stmt.unmarked) (r.exprStmt ctx) (r'.exprStmt ctx) := by
  refine .spanning ((hr.sequence ctx _).bind fun e e' he => ?_)
  refine parallel_semicolon.next fun _ => .pure fun _ _ => ?_
  exact congrArg (Stmt.expr _) he

theorem varStmt (ctx : Context) :
    Parallel (AlikeBy Stmt.unmarked) (r.varStmt ctx) (r'.varStmt ctx) := by
  refine (Parallel.spanning (hr.varDecl ctx false)).bind fun s s' hs => ?_
  exact parallel_semicolon.next fun _ => .pure hs

end Rules.Agree

theorem startsVarDecl_of_ahead {ts ts' : Token × Token} (h : Token.Ahead ts ts') :
    startsVarDecl ts.1 ts.2 = startsVarDecl ts'.1 ts'.2 := by
  have hafter : declaresAfterLet ts.2.kind = declaresAfterLet ts'.2.kind := h.test _ rfl
  rw [startsVarDecl, startsVarDecl, Token.kind_of_face h.first, hafter]

theorem startsFunc_of_ahead {ts ts' : Token × Token} (h : Token.Ahead ts ts') :
    startsFunc ts.1 ts.2 = startsFunc ts'.1 ts'.2 := by
  have hfunc : (ts.2.kind == .keyword .kFunction) = (ts'.2.kind == .keyword .kFunction) :=
    h.test (· == .keyword .kFunction) rfl
  rw [startsFunc, startsFunc, Token.kind_of_face h.first, Token.isWord_of_face h.first, hfunc,
    h.newline]

theorem Rules.Agree.plainStmt (hr : r.Agree r') (ctx : Context) {ts ts' : Token × Token}
    (h : Token.Ahead ts ts') :
    Parallel (AlikeBy Stmt.unmarked) (r.plainStmt ctx ts.1 ts.2) (r'.plainStmt ctx ts'.1 ts'.2) := by
  have hcolon : (ts.2.kind == .punct .colon) = (ts'.2.kind == .punct .colon) :=
    h.test (· == .punct .colon) rfl
  unfold Rules.plainStmt
  rw [startsVarDecl_of_ahead h, startsFunc_of_ahead h, Token.kind_of_face h.first, hcolon]
  refine .ite (fun _ => hr.varStmt ctx) fun _ =>
    .ite (fun _ => .spanning (hr.funcDecl ctx _ _)) fun _ => ?_
  split
  · exact .spanning ((hr.block ctx).bind fun ss ss' hss => .pure fun _ _ =>
      congrArg (Stmt.block _) (alike_of_eq stmtsUnmarked_eq hss))
  · exact .spanning (hr.classDecl ctx _ _)
  · exact hr.forStmt ctx
  · exact hr.ifStmt ctx
  · exact hr.whileStmt ctx
  · exact hr.doWhileStmt ctx
  · exact hr.returnStmt ctx
  · exact parallel_jumpStmt _ fun _ _ _ => rfl
  · exact parallel_jumpStmt _ fun _ _ _ => rfl
  · exact hr.throwStmt ctx
  · exact hr.tryStmt ctx
  · exact hr.switchStmt ctx
  · exact hr.withStmt ctx
  · refine .spanning ((parallel_expectKeyword _).next fun _ => ?_)
    exact parallel_semicolon.next fun _ => .pure fun _ _ => rfl
  · exact (parallel_consume _).bind fun _ _ _ => .pure rfl
  · exact .ite (fun _ => hr.labelStmt ctx) fun _ => hr.exprStmt ctx

/-! ### Imports and exports -/

theorem parallel_exchangedName : Parallel Eq exchangedName exchangedName := by
  refine (parallel_peek _).bind fun t t' ht => ?_
  have hkind := Token.kind_of_face ht
  rw [hkind]
  refine .ite (fun _ => ?_) fun _ => .ite (fun hname => ?_) fun _ => .throw
  · exact firm_stringValue.parallel.bind fun v v' hv => .pure (congrArg ModuleName.quoted hv)
  · have htext : t.text = t'.text := by
      refine Token.text_of_face ht ?_
      rw [hkind]
      cases hk : t'.kind <;> first | rfl | simp [hk, TokenKind.isKeyword] at hname
    exact (parallel_skip _).next fun _ => .pure (congrArg ModuleName.bare htext)

theorem parallel_importSpec (ctx : Context) :
    Parallel (AlikeBy ImportSpec.unmarked) (importSpec ctx) (importSpec ctx) := by
  refine (parallel_peek _).bind fun t t' ht => ?_
  refine parallel_exchangedName.next fun imported => ?_
  refine (parallel_acceptWord _).next fun _ => .ite (fun _ => ?_) fun _ => ?_
  · refine (parallel_bindingName ctx).bind fun id id' hid => .pure ?_
    exact congrArg (ImportSpec.mk imported ∘ Pat.ident) hid
  · rw [Token.kind_of_face ht]
    split
    · exact .ite (fun _ => .pure rfl) fun _ => .throw
    · exact .throw

theorem parallel_exportSpec : Parallel Eq exportSpec exportSpec := by
  refine parallel_exchangedName.next fun exported => ?_
  refine (parallel_acceptWord _).next fun _ => .ite (fun _ => ?_) fun _ => .pure rfl
  exact parallel_exchangedName.next fun _ => .pure rfl

theorem parallel_importNames (r r' : Rules) (ctx : Context) :
    Parallel (AlikeBy ImportNames.unmarked) (r.importNames ctx) (r'.importNames ctx) := by
  refine (parallel_acceptPunct _ _).next fun _ => .ite (fun _ => ?_) fun _ => ?_
  · refine (parallel_expectWord _).discard.next fun _ => ?_
    refine (parallel_bindingName ctx).bind fun id id' hid => .pure ?_
    exact congrArg (ImportNames.all ∘ Pat.ident) hid
  · refine (parallel_expectPunct _ _).next fun _ => ?_
    exact (Parallel.separated .rBrace (parallel_importSpec ctx) _ _).bind fun ss ss' hss =>
      .pure (congrArg ImportNames.specific (alike_of_eq specsUnmarked_eq hss))

theorem parallel_exportNames (r r' : Rules) (ctx : Context) :
    Parallel (AlikeBy ExportNames.unmarked) (r.exportNames ctx) (r'.exportNames ctx) := by
  refine (parallel_acceptPunct _ _).next fun _ => .ite (fun _ => ?_) fun _ => ?_
  · refine (parallel_acceptWord _).next fun _ => ?_
    refine (Parallel.optionally _ fun _ => parallel_bindingName ctx).bind fun d d' hd => .pure ?_
    simp only [AlikeBy, ExportNames.unmarked, hd]
  · refine (parallel_expectPunct _ _).next fun _ => ?_
    have hspec : Parallel (AlikeBy id) exportSpec exportSpec := parallel_exportSpec
    refine (Parallel.separated .rBrace hspec _ _).bind fun ss ss' hss => .pure ?_
    rw [AlikeBy, List.map_id, List.map_id] at hss
    rw [hss]

namespace Rules.Agree

variable (hr : r.Agree r')
include hr

theorem moduleSource (ctx : Context) : Parallel Eq (r.moduleSource ctx) (r'.moduleSource ctx) := by
  refine firm_stringValue.parallel.bind fun v v' hv => ?_
  have hskip : Parallel Eq (r.skipAttributes ctx) (r'.skipAttributes ctx) := by
    refine (parallel_peek _).bind fun t t' ht => ?_
    rw [Token.kind_of_face ht, Token.isWord_of_face ht, Token.newline_of_face ht]
    refine .ite (fun _ => ?_) fun _ => .pure rfl
    exact (parallel_skip _).next fun _ => (hr.objMembers ctx).discard
  exact hskip.next fun _ => .pure hv

theorem importStmt (ctx : Context) :
    Parallel (AlikeBy Stmt.unmarked) (r.importStmt ctx) (r'.importStmt ctx) := by
  refine .spanning ((parallel_expectKeyword _).next fun _ => ?_)
  refine (parallel_peekKind _).next fun _ => .ite (fun _ => ?_) fun _ => ?_
  · refine (hr.moduleSource ctx).next fun m => ?_
    exact parallel_semicolon.next fun _ => .pure fun _ _ => rfl
  refine (parallel_peekKind _).next fun kind => ?_
  refine (Parallel.optionally _ fun _ => parallel_bindingName ctx).bind fun d d' hd => ?_
  have hnames : ∀ flag, Parallel (BuildAlike Stmt.unmarked)
      (do
        let names ← optionally flag (r.importNames ctx)
        discard (expectWord "from")
        let module ← r.moduleSource ctx
        semicolon
        return fun loc => Stmt.importDecl loc (d.map .ident) names module)
      (do
        let names ← optionally flag (r'.importNames ctx)
        discard (expectWord "from")
        let module ← r'.moduleSource ctx
        semicolon
        return fun loc => Stmt.importDecl loc (d'.map .ident) names module) := by
    intro flag
    refine (Parallel.optionally flag fun _ => parallel_importNames r r' ctx).bind fun names names' hnames => ?_
    refine (parallel_expectWord _).discard.next fun _ => ?_
    refine (hr.moduleSource ctx).next fun m => ?_
    refine parallel_semicolon.next fun _ => .pure fun _ _ => ?_
    have hdefault : optPatUnmarked (d.map .ident) = optPatUnmarked (d'.map .ident) := by
      have hident := congrArg (Option.map Pat.ident) hd
      rw [optPatUnmarked_eq, optPatUnmarked_eq, Option.map_map, Option.map_map]
      rwa [Option.map_map, Option.map_map] at hident
    exact congrArg₂ (Stmt.importDecl _ · · _) hdefault (alike_of_eq optNamesUnmarked_eq hnames)
  cases d with
  | none =>
    cases d' with
    | none => exact hnames true
    | some id' => cases hd
  | some id =>
    cases d' with
    | none => cases hd
    | some id' => exact (parallel_acceptPunct _ _).next fun ok => hnames ok

theorem exportList (ctx : Context) :
    Parallel (BuildAlike Stmt.unmarked) (r.exportList ctx) (r'.exportList ctx) := by
  refine (parallel_exportNames r r' ctx).bind fun names names' hnames => ?_
  refine (parallel_acceptWord _).next fun ok => ?_
  have hsource : Parallel (AlikeBy (Option.map id)) (optionally ok (r.moduleSource ctx))
      (optionally ok (r'.moduleSource ctx)) := .optionally ok fun _ => hr.moduleSource ctx
  refine hsource.bind fun source source' hsource => ?_
  rw [AlikeBy, Option.map_id, id, id] at hsource
  subst hsource
  have htail : Parallel (BuildAlike Stmt.unmarked)
      (do
        semicolon
        return fun loc => Stmt.exportList loc names source)
      (do
        semicolon
        return fun loc => Stmt.exportList loc names' source) := by
    refine parallel_semicolon.next fun _ => .pure fun _ _ => ?_
    exact congrArg (Stmt.exportList _ · source) hnames
  cases names with
  | all name =>
    cases names' with
    | specific ss => cases hnames
    | all name' =>
      cases source with
      | none => exact (parallel_peek _).bind fun _ _ _ => .throw
      | some source => exact htail
  | specific ss =>
    cases names' with
    | all name' => cases hnames
    | specific ss' => exact htail

theorem exportDefault (ctx : Context) :
    Parallel (BuildAlike Stmt.unmarked) (r.exportDefault ctx) (r'.exportDefault ctx) := by
  refine parallel_peekTwo.bind fun ts ts' hts => ?_
  obtain ⟨t, next⟩ := ts
  obtain ⟨t', next'⟩ := ts'
  have hfunc : startsFunc t next = startsFunc t' next' := startsFunc_of_ahead hts
  have hkind : t.kind = t'.kind := Token.kind_of_face hts.first
  dsimp only
  rw [hfunc, hkind]
  refine .ite (fun _ => hr.funcDecl ctx _ _) fun _ => .ite (fun _ => hr.classDecl ctx _ _) fun _ => ?_
  refine (hr.assignment ctx _).bind fun e e' he => ?_
  refine parallel_semicolon.next fun _ => .pure fun _ _ => ?_
  exact congrArg (Stmt.exportDefault _) he

theorem exportDecl (ctx : Context) {ts ts' : Token × Token} (h : Token.Ahead ts ts') :
    Parallel (BuildAlike Stmt.unmarked) (r.exportDecl ctx ts.1 ts.2)
      (r'.exportDecl ctx ts'.1 ts'.2) := by
  have hdecl : Parallel (BuildAlike Stmt.unmarked)
      (do
        let decl ← r.varDecl ctx true
        semicolon
        return decl)
      (do
        let decl ← r'.varDecl ctx true
        semicolon
        return decl) :=
    (hr.varDecl ctx true).bind fun build build' hbuild =>
      parallel_semicolon.next fun _ => .pure hbuild
  unfold Rules.exportDecl
  rw [startsFunc_of_ahead h, Token.kind_of_face h.first]
  refine .ite (fun _ => hr.funcDecl ctx _ _) fun _ => ?_
  split
  · exact hdecl
  · exact hdecl
  · exact hdecl
  · exact hr.classDecl ctx _ _
  · exact .throw

theorem exportStmt (ctx : Context) :
    Parallel (AlikeBy Stmt.unmarked) (r.exportStmt ctx) (r'.exportStmt ctx) := by
  refine .spanning ((parallel_expectKeyword _).next fun _ => ?_)
  refine parallel_peekTwo.bind fun ts ts' hts => ?_
  dsimp only
  rw [Token.kind_of_face hts.first]
  split
  · exact (parallel_skip _).next fun _ => hr.exportDefault ctx
  · exact hr.exportList ctx
  · exact hr.exportList ctx
  · exact hr.exportDecl ctx hts

theorem statement (ctx : Context) :
    Parallel (AlikeBy Stmt.unmarked) (r.statement ctx) (r'.statement ctx) := by
  refine parallel_peekTwo.bind fun ts ts' hts => ?_
  have hparen : (ts.2.kind == .punct .lParen) = (ts'.2.kind == .punct .lParen) :=
    hts.test (· == .punct .lParen) rfl
  have hdot : (ts.2.kind == .punct .dot) = (ts'.2.kind == .punct .dot) :=
    hts.test (· == .punct .dot) rfl
  dsimp only
  rw [Token.kind_of_face hts.first, hparen, hdot]
  split
  · exact .ite (fun _ => hr.exprStmt ctx) fun _ => hr.importStmt ctx
  · exact hr.exportStmt ctx
  · exact hr.plainStmt ctx hts

end Rules.Agree

/-! ### Levels -/

/-- Productions follow one another if their rules do. -/
theorem Rules.Twins.step_agree (hr : r.Twins r') : r.step.Agree r'.step where
  sound := Rules.sound_step hr.agree.sound
  sound' := Rules.sound_step hr.back.sound
  expr := hr.operatorExpr
  operand := hr.operandExpr
  construct := hr.agree.constructExpr
  pat := hr.agree.pattern
  stmt := hr.agree.statement
  elem := hr.agree.element

theorem Rules.Twins.step (hr : r.Twins r') : r.step.Twins r'.step :=
  ⟨hr.step_agree, hr.symm.step_agree⟩

/-- Rules that have used up their bound and any other rules. -/
theorem Rules.Sound.twins_exhausted (hr : r.Sound) : Rules.exhausted.Twins r where
  agree :=
    { sound := Rules.sound_exhausted
      sound' := hr
      expr := fun _ _ _ => .exhausted
      operand := fun _ _ => .exhausted
      construct := fun _ => .exhausted
      pat := fun _ => .exhausted
      stmt := fun _ => .exhausted
      elem := fun _ => .exhausted }
  back :=
    { sound := hr
      sound' := Rules.sound_exhausted
      expr := fun ctx least ends => .spent fun b => hr.expr b ctx least ends
      operand := fun ctx ends => .spent fun b => hr.operand b ctx ends
      construct := fun ctx => .spent fun b => hr.construct b ctx
      pat := fun ctx => .spent fun b => hr.pat b ctx
      stmt := fun ctx => .spent fun b => hr.stmt b ctx
      elem := fun ctx => .spent fun b => hr.elem b ctx }

theorem Rules.sound_level : ∀ n, (level n).Sound
  | 0 => sound_exhausted
  | n + 1 => sound_step (sound_level n)

/-- **Any two levels of the grammar agree** in front of the two tails. -/
theorem Rules.twins_level : ∀ n m, (level n).Twins (level m)
  | 0, m => (sound_level m).twins_exhausted
  | n + 1, 0 => (sound_level (n + 1)).twins_exhausted.symm
  | n + 1, m + 1 => (twins_level n m).step

end ImportSeam
