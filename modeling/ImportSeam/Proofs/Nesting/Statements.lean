import ImportSeam.Proofs.Grammar.Spelled
import ImportSeam.Proofs.Grammar.Statements
import ImportSeam.Proofs.Nesting.Expressions
import ImportSeam.Proofs.Token.Slice

/-!
# Where statements stand

## Main definitions

* `Part.Placed` — a part that takes up a slice of the source, with its children apart inside it.

## Main results

* `Rules.Nests.statement` — a statement of any kind.
* `Program.locations_nest` — **the locations of a module that is read are nested.**
-/

namespace ImportSeam

open TokenParser BufferedToken

variable {b b' : TokenBuffer} {ctx : Context} {r : Rules}

/-- A jump holds nothing. -/
theorem runs_jumpStmt_spans (k : Keyword) {build : Loc → Option String → Stmt}
    (hbuild : ∀ loc l, (build loc l).loc = loc ∧ (build loc l).children = []) :
    Runs b (Rules.jumpStmt k build) fun s b' => b.Spans b' [.stmt s] := by
  refine runs_node ?_
  refine (runs_begin_keyword _).bind fun _ b₁ k₁ h₁ => ?_
  refine runs_jumpLabel?.bind fun l b₂ k₂ _ => ?_
  refine runs_semicolon.bind fun _ b₃ k₃ _ => .pure ⟨h₁.before (k₂.trans k₃), fun loc => ?_⟩
  refine ⟨(hbuild loc l).1, ?_⟩
  rw [Part.children, (hbuild loc l).2]
  exact (k₁.trans (k₂.trans k₃)).spans

namespace Rules.Nests

variable (hr : r.Nests)
include hr

/-! ### Declarations -/

theorem varBinders (ends : List TokenKind) : ∀ (n : Nat) (b : TokenBuffer),
    Runs b (r.varBinders ctx ends n) fun bs b' => b.Begun b' ∧ b.Spans b' (bs.flatMap Binder.nodes)
  | 0, _ => runs_exhausted
  | n + 1, b => by
    refine (hr.pat _ _).bind fun p b₁ _ hp => ?_
    refine (hr.default? _).bind fun init b₂ _ hinit => ?_
    have hbinder : b.Spans b₂ (Binder.nodes ⟨p, init⟩) := hp.append hinit
    refine (runs_acceptPunct _ _).bind fun _ b₃ k₃ _ => .ite (fun _ => ?_) fun _ => ?_
    · refine (varBinders ends n b₃).bind fun bs b₄ k₄ hbs => .pure ⟨?_, ?_⟩
      · exact hbinder.begun.before (k₃.trans k₄)
      · exact hbinder.append (hbs.2.after k₃)
    · refine .pure ⟨hbinder.begun.before k₃, ?_⟩
      rw [List.flatMap_singleton]
      exact hbinder.before k₃

theorem varParts (ends : List TokenKind) : Runs b (r.varParts ctx ends) fun x b' =>
    b.Begun b' ∧ b.Spans b' (x.2.flatMap Binder.nodes) :=
  runs_varMode.bind fun _ _ k₁ _ => (hr.varBinders ends _ _).bind fun _ _ _ h =>
    .pure ⟨h.1.after k₁, h.2.after k₁⟩

theorem varDecl (isExported : Bool) : Runs b (r.varDecl ctx isExported) fun build b' =>
    b.Builds b' fun loc => .stmt (build loc) :=
  (hr.varParts []).bind fun _ _ _ h => .pure ⟨h.1, fun _ => ⟨rfl, h.2⟩⟩

theorem funcDecl (isExported isDefault : Bool) :
    Runs b (r.funcDecl ctx isExported isDefault) fun build b' =>
      b.Builds b' fun loc => .stmt (build loc) := by
  refine hr.signature.bind fun s b₁ _ hs => .ite (fun _ => ?_) fun _ => ?_
  · exact (runs_peek _).bind fun _ _ _ _ => .throw
  · exact .pure ⟨hs.1, fun _ => ⟨rfl, hs.2⟩⟩

theorem classDecl (isExported isDefault : Bool) :
    Runs b (r.classDecl ctx isExported isDefault) fun build b' =>
      b.Builds b' fun loc => .stmt (build loc) := by
  refine hr.classSignature.bind fun s b₁ _ hs => .ite (fun _ => ?_) fun _ => ?_
  · exact (runs_peek _).bind fun _ _ _ _ => .throw
  · exact .pure ⟨hs.1, fun _ => ⟨rfl, hs.2⟩⟩

end Rules.Nests

/-- What a loop assigns to stands where the first part of its head stood. -/
theorem TokenBuffer.Spans.forTarget {first : Token} {loc : Loc} {init : ForInit} {t : ForTarget}
    (hinit : b.Spans b' init.nodes) (h : Rules.forTarget first loc init = .ok t) :
    b.Spans b' t.nodes := by
  obtain ⟨mode, p, rfl, rfl⟩ | ⟨e, p, rfl, hp, rfl⟩ := Rules.forTarget_ok h
  · exact hinit
  · exact hinit.replace fun he => ⟨Expr.nested_toPat he hp, Expr.loc_toPat hp⟩

namespace Rules.Nests

variable (hr : r.Nests)
include hr

/-! ### Loops -/

theorem forInit : Runs b (r.forInit ctx) fun x b' => b.Spans b' x.2.nodes := by
  refine runs_peekTwo.bind fun ts b₁ k₁ _ => .ite (fun _ => ?_) fun _ => .ite (fun _ => ?_) fun _ => ?_
  · exact runs_spanning ((hr.varParts _).bind fun _ _ _ h => .pure (h.2.after k₁))
  · exact .pure k₁.spans
  · exact (hr.sequence _).bind fun e _ _ he => .pure (he.after k₁)

theorem forEachTail (isIn isAwait : Bool) {target : ForTarget} {b₀ : TokenBuffer}
    (ht : b₀.Spans b target.nodes) :
    Runs b (r.forEachTail ctx isIn isAwait target) fun build b' =>
      b₀.Builds b' fun loc => .stmt (build loc) := by
  refine .join ?_
  have hobject : Runs b (if isIn = true then r.sequence ctx [.punct .rParen] else
      r.assignment ctx [.punct .rParen]) fun e b' => b.Spans b' [.expr e] :=
    .ite (fun _ => hr.sequence _) fun _ => hr.assignment _
  refine hobject.bind fun e b₁ _ he => ?_
  refine (runs_expectPunct _ _).bind fun _ b₂ k₂ _ => ?_
  refine (hr.stmt _ _).bind fun s b₃ k₃ hs => .pure ⟨?_, fun loc => ?_⟩
  · exact (he.begun.before (k₂.trans k₃)).after ht.keeps
  · have hparts := (ht.append he).append (hs.after k₂)
    cases isIn <;> exact ⟨rfl, hparts⟩

theorem forLoopTail {init : ForInit} {b₀ : TokenBuffer} (hinit : b₀.Spans b init.nodes) :
    Runs b (r.forLoopTail ctx init) fun build b' =>
      b₀.Builds b' fun loc => .stmt (build loc) := by
  have part : ∀ b flag ends, Runs b (optionally flag (r.sequence ctx ends)) fun o b' =>
      b.Spans b' (Part.ofExpr? o) := fun b flag ends =>
    runs_optionally_spans (T := Part.ofExpr?) flag rfl (hr.sequence ends)
  refine (runs_expectPunct _ _).bind fun _ b₁ k₁ _ => ?_
  refine (runs_peekKind _).bind fun _ b₂ k₂ _ => (part _ _ _).bind fun test b₃ _ htest => ?_
  refine (runs_expectPunct _ _).bind fun _ b₄ k₄ _ => ?_
  refine (runs_peekKind _).bind fun _ b₅ k₅ _ => (part _ _ _).bind fun post b₆ _ hpost => ?_
  refine (runs_expectPunct _ _).bind fun _ b₇ k₇ _ => ?_
  refine (hr.stmt _ _).bind fun s b₈ _ hs => .pure ?_
  have hhead : b₀.Spans b₆ (init.nodes ++ Part.ofExpr? test ++ Part.ofExpr? post) :=
    (hinit.append (htest.after (k₁.trans k₂))).append (hpost.after (k₄.trans k₅))
  have hs := hs.after k₇
  exact ⟨hs.begun.after hhead.keeps, fun loc => ⟨rfl, hhead.append hs⟩⟩

theorem forStmt : Runs b (r.forStmt ctx) fun s b' => b.Spans b' [.stmt s] := by
  refine runs_node ?_
  refine (runs_expectKeyword _).bind fun _ b₁ k₁ _ => ?_
  refine (runs_acceptKeyword _).bind fun isAwait b₂ k₂ _ => ?_
  refine (runs_expectPunct _ _).bind fun _ b₃ k₃ _ => ?_
  refine (runs_peek _).bind fun first b₄ k₄ _ => ?_
  refine hr.forInit.bind fun x b₅ _ hinit => ?_
  refine (runs_peek _).bind fun t b₆ k₆ _ => ?_
  have hinit := (hinit.after (k₁.trans (k₂.trans (k₃.trans k₄)))).before k₆
  refine .ite (fun _ => ?_) fun _ => hr.forLoopTail hinit
  refine (runs_skip _).bind fun _ b₇ k₇ _ => ?_
  refine (runs_ofExcept fun target h => h).bind fun target b₈ k₈ h => ?_
  exact hr.forEachTail _ _ ((hinit.before (k₇.trans k₈)).forTarget h)

/-! ### Statements with blocks -/

theorem handler : Runs b (r.handler ctx) fun c b' => b.Spans b' c.nodes := by
  refine (runs_acceptPunct _ _).bind fun ok b₁ k₁ _ => ?_
  refine (runs_optionally_spans (T := Part.ofPat?) ok rfl ?_).bind fun param b₂ _ hparam => ?_
  · refine (hr.pat _ _).bind fun p b₂ _ hp => ?_
    exact (runs_expectPunct _ _).bind fun _ b₃ k₃ _ => .pure (hp.before k₃)
  · refine hr.block.bind fun ss b₃ _ hss => .pure ?_
    exact (hparam.append hss.2).after k₁

theorem tryStmt : Runs b (r.tryStmt ctx) fun s b' => b.Spans b' [.stmt s] := by
  refine runs_node ?_
  refine (runs_expect _ _).bind fun t b₁ k₁ _ => ?_
  refine hr.block.bind fun body b₂ _ hbody => ?_
  refine (runs_acceptKeyword _).bind fun ok b₃ k₃ _ => ?_
  refine (runs_optionally_spans (T := fun o => o.elim [] Catch.nodes) ok rfl hr.handler).bind
    fun handler b₄ k₄ hhandler => ?_
  refine (runs_acceptKeyword _).bind fun ok b₅ k₅ _ => ?_
  refine (runs_optionally_spans (T := fun o => (o.getD []).map Part.stmt) ok rfl
    (hr.block.mono fun _ _ _ h => h.2)).bind fun finalizer b₆ k₆ hfinalizer => ?_
  refine .ite (fun _ => .throw) fun _ => .pure ⟨?_, fun loc => ⟨rfl, ?_⟩⟩
  · exact (hbody.1.before (k₃.trans (k₄.trans (k₅.trans k₆)))).after k₁
  · exact ((hbody.2.append (hhandler.after k₃)).append (hfinalizer.after k₅)).after k₁

theorem branchBody : Runs b (r.branchBody ctx) fun ss b' => b.Spans b' (ss.map .stmt) := by
  simp only [List.map_eq_flatMap]
  refine runs_collect_spans (fun b => ?_) _ b
  refine (runs_peek _).bind fun t b₁ k₁ _ => ?_
  split
  · exact .pure k₁.spans
  · exact .pure k₁.spans
  · exact .pure k₁.spans
  · exact .throw
  · exact (hr.stmt _ _).bind fun s b₂ _ hs => .pure (hs.after k₁)

theorem branch : Runs b (r.branch ctx) fun c b' => b.Spans b' c.nodes := by
  have tail : ∀ b₂ test, b.Spans b₂ (Part.ofExpr? test) → Runs b₂ (do
      expectPunct .colon
      return (⟨test, ← r.branchBody ctx⟩ : SwitchCase)) fun c b' => b.Spans b' c.nodes := by
    intro b₂ test htest
    refine (runs_expectPunct _ _).bind fun _ b₃ k₃ _ => ?_
    exact hr.branchBody.bind fun ss b₄ _ hss => .pure (htest.append (hss.after k₃))
  refine (runs_acceptKeyword _).bind fun ok b₁ k₁ _ => ?_
  refine .ite (fun _ => tail b₁ none k₁.spans) fun _ => ?_
  refine (runs_expectKeyword _).bind fun _ b₂ k₂ _ => ?_
  have htest : Runs b₂ (some <$> r.sequence ctx [.punct .colon]) fun o b' =>
      b₂.Spans b' (Part.ofExpr? o) := .map (hr.sequence _)
  exact htest.bind fun test b₃ _ ht => tail b₃ test (ht.after (k₁.trans k₂))

theorem switchStmt : Runs b (r.switchStmt ctx) fun s b' => b.Spans b' [.stmt s] := by
  refine runs_node ?_
  refine (runs_expectKeyword _).bind fun _ b₁ k₁ _ => ?_
  refine hr.parenthesized.bind fun e b₂ _ he => ?_
  refine (runs_expectPunct _ _).bind fun _ b₃ k₃ _ => ?_
  have he := (he.after k₁).before k₃
  refine (runs_collect_spans (g := SwitchCase.nodes) (fun b => ?_) _ _).bind fun cs b₄ k₄ hcs =>
    .pure ⟨he.begun.before k₄, fun loc => ⟨rfl, he.append hcs⟩⟩
  refine (runs_acceptPunct _ _).bind fun _ b₅ k₅ _ => .ite (fun _ => .pure k₅.spans) fun _ => ?_
  exact hr.branch.bind fun c b₆ _ hc => .pure (hc.after k₅)

/-! ### Simple statements -/

theorem ifStmt : Runs b (r.ifStmt ctx) fun s b' => b.Spans b' [.stmt s] := by
  refine runs_node ?_
  refine (runs_expectKeyword _).bind fun _ b₁ k₁ _ => ?_
  refine hr.parenthesized.bind fun test b₂ _ htest => ?_
  refine (hr.stmt _ _).bind fun c b₃ _ hc => ?_
  have hc : b.Spans b₃ [.expr test, .stmt c] := (htest.append hc).after k₁
  refine (runs_acceptKeyword _).bind fun ok b₄ k₄ _ => ?_
  refine (runs_optionally_spans (T := fun o => (o.map Part.stmt).toList) ok rfl (hr.stmt _ _)).bind
    fun a b₅ k₅ ha => .pure ⟨hc.begun.before (k₄.trans k₅), fun loc => ⟨rfl, ?_⟩⟩
  exact hc.append (ha.after k₄)

theorem whileStmt : Runs b (r.whileStmt ctx) fun s b' => b.Spans b' [.stmt s] := by
  refine runs_node ?_
  refine (runs_expectKeyword _).bind fun _ b₁ k₁ _ => ?_
  refine hr.parenthesized.bind fun test b₂ _ htest => ?_
  have htest := htest.after k₁
  exact (hr.stmt _ _).bind fun s b₃ k₃ hs =>
    .pure ⟨htest.begun.before k₃, fun loc => ⟨rfl, htest.append hs⟩⟩

theorem doWhileStmt : Runs b (r.doWhileStmt ctx) fun s b' => b.Spans b' [.stmt s] := by
  refine runs_node ?_
  refine (runs_expectKeyword _).bind fun _ b₁ k₁ _ => ?_
  refine (hr.stmt _ _).bind fun s b₂ _ hs => ?_
  have hs := hs.after k₁
  refine (runs_expectKeyword _).bind fun _ b₃ k₃ _ => ?_
  refine hr.parenthesized.bind fun test b₄ _ htest => ?_
  have hparts : b.Spans b₄ [.stmt s, .expr test] := hs.append (htest.after k₃)
  exact (runs_acceptPunct _ _).ignore.bind fun _ b₅ k₅ _ =>
    .pure ⟨hparts.begun.before k₅, fun loc => ⟨rfl, hparts.before k₅⟩⟩

theorem withStmt : Runs b (r.withStmt ctx) fun s b' => b.Spans b' [.stmt s] := by
  refine runs_node ?_
  refine (runs_expectKeyword _).bind fun _ b₁ k₁ _ => ?_
  refine hr.parenthesized.bind fun e b₂ _ he => ?_
  have he := he.after k₁
  exact (hr.stmt _ _).bind fun s b₃ k₃ hs =>
    .pure ⟨he.begun.before k₃, fun loc => ⟨rfl, he.append hs⟩⟩

theorem returnStmt : Runs b (r.returnStmt ctx) fun s b' => b.Spans b' [.stmt s] := by
  refine runs_node ?_
  refine (runs_begin_keyword _).bind fun _ b₁ k₁ h₁ => ?_
  refine (runs_peek _).bind fun t b₂ k₂ _ => ?_
  refine (runs_optionally_spans (T := Part.ofExpr?) _ rfl (hr.sequence _)).bind
    fun value b₃ k₃ hvalue => ?_
  refine runs_semicolon.bind fun _ b₄ k₄ _ => .pure ⟨?_, fun loc => ⟨rfl, ?_⟩⟩
  · exact h₁.before (k₂.trans (k₃.trans k₄))
  · exact (hvalue.after (k₁.trans k₂)).before k₄

theorem throwStmt : Runs b (r.throwStmt ctx) fun s b' => b.Spans b' [.stmt s] := by
  refine runs_node ?_
  refine (runs_expectKeyword _).bind fun _ b₁ k₁ _ => ?_
  refine (runs_peek _).bind fun t b₂ k₂ _ => .ite (fun _ => .throw) fun _ => ?_
  refine (hr.sequence _).bind fun e b₃ _ he => ?_
  have he := he.after (k₁.trans k₂)
  exact runs_semicolon.bind fun _ b₄ k₄ _ =>
    .pure ⟨he.begun.before k₄, fun loc => ⟨rfl, he.before k₄⟩⟩

theorem labelStmt : Runs b (r.labelStmt ctx) fun s b' => b.Spans b' [.stmt s] := by
  refine runs_node ?_
  refine (runs_consume _).bind fun t b₁ k₁ _ => ?_
  refine (runs_expectPunct _ _).bind fun _ b₂ k₂ _ => ?_
  refine (hr.stmt _ _).bind fun s b₃ _ hs => .pure ?_
  have hs := hs.after (k₁.trans k₂)
  exact ⟨hs.begun, fun loc => ⟨rfl, hs⟩⟩

theorem exprStmt : Runs b (r.exprStmt ctx) fun s b' => b.Spans b' [.stmt s] := by
  refine runs_node ?_
  refine (hr.sequence _).bind fun e b₁ _ he => ?_
  exact runs_semicolon.bind fun _ b₂ k₂ _ =>
    .pure ⟨he.begun.before k₂, fun loc => ⟨rfl, he.before k₂⟩⟩

/-- The semicolon does not belong to the location. -/
theorem varStmt : Runs b (r.varStmt ctx) fun s b' => b.Spans b' [.stmt s] :=
  (runs_node (g := Part.stmt) (hr.varDecl false)).bind fun _ _ _ hs =>
    runs_semicolon.bind fun _ _ k₂ _ => .pure (hs.before k₂)

theorem plainStmt (next : Token) :
    Runs b (r.plainStmt ctx (b.upcoming .standard) next) fun s b' => b.Spans b' [.stmt s] := by
  refine .ite (fun _ => hr.varStmt) fun _ => .ite (fun _ => ?_) fun _ => ?_
  · exact runs_node (hr.funcDecl false false)
  split
  · exact runs_node (hr.block.bind fun _ _ _ h => .pure ⟨h.1, fun _ => ⟨rfl, h.2⟩⟩)
  · exact runs_node (hr.classDecl false false)
  · exact hr.forStmt
  · exact hr.ifStmt
  · exact hr.whileStmt
  · exact hr.doWhileStmt
  · exact hr.returnStmt
  · exact runs_jumpStmt_spans _ fun _ _ => ⟨rfl, rfl⟩
  · exact runs_jumpStmt_spans _ fun _ _ => ⟨rfl, rfl⟩
  · exact hr.throwStmt
  · exact hr.tryStmt
  · exact hr.switchStmt
  · exact hr.withStmt
  · refine runs_node ((runs_begin_keyword _).bind fun _ b₁ k₁ h₁ => ?_)
    exact runs_semicolon.bind fun _ _ k₂ _ =>
      .pure ⟨h₁.before k₂, fun _ => ⟨rfl, (k₁.trans k₂).spans⟩⟩
  · next hkind =>
    refine (runs_consume _).bind fun t b₁ _ h₁ => .pure ?_
    obtain ⟨rfl, h₁⟩ := h₁
    exact .token h₁ (hkind ▸ solid_punct _) rfl rfl
  · exact .ite (fun _ => hr.labelStmt) fun _ => hr.exprStmt

end Rules.Nests

/-! ### Imports and exports -/

theorem runs_exchangedName_reads : Runs b exchangedName fun _ b' =>
    b.Consumes [.read .standard b.position] b' := by
  refine (runs_peek _).bind fun t b₁ _ h₁ => ?_
  obtain ⟨-, h₁⟩ := h₁
  have read : ∀ {b₂}, b₁.Consumes [.read .standard b₁.position] b₂ →
      b.Consumes [.read .standard b.position] b₂ := by
    intro b₂ h₂
    have h₂ := h₁.trans h₂
    rw [h₁.position] at h₂
    exact h₂
  refine .ite (fun _ => ?_) fun _ => .ite (fun _ => ?_) fun _ => .throw
  · exact runs_stringValue.bind fun _ _ _ h₂ => .pure (read h₂)
  · exact (runs_skip _).bind fun _ _ _ h₂ => .pure (read h₂)

theorem runs_importSpec_spans : Runs b (importSpec ctx) fun s b' => b.Spans b' [.pat s.target] := by
  refine (runs_peek _).bind fun t b₁ k₁ h₁ => ?_
  obtain ⟨rfl, h₁⟩ := h₁
  refine runs_exchangedName_reads.bind fun n b₂ k₂ h₂ => ?_
  refine (runs_acceptWord _).bind fun _ b₃ k₃ _ => .ite (fun _ => ?_) fun _ => ?_
  · exact (runs_bindingName_spans .pattern).bind fun id b₄ _ hid =>
      .pure (hid.patIdent.after (k₁.trans (k₂.trans k₃)))
  cases n with
  | quoted name => exact .throw
  | bare name =>
    refine .ite (fun hname => .pure ?_) fun _ => .throw
    -- the name that is imported is the name that is bound
    rw [← h₁.upcoming] at hname
    have hid : b₁.Spans b₂ [.name .pattern ⟨name, (b.upcoming .standard).loc, .unknown⟩] :=
      spans_name _ h₂ hname (by rw [h₁.upcoming])
    exact (hid.patIdent.after k₁).before k₃

namespace Rules

theorem runs_importNames_spans : Runs b (r.importNames ctx) fun n b' => b.Spans b' n.nodes := by
  refine (runs_acceptPunct _ _).bind fun _ b₁ k₁ _ => .ite (fun _ => ?_) fun _ => ?_
  · refine (runs_expectWord _).ignore.bind fun _ b₂ k₂ _ => ?_
    exact (runs_bindingName_spans .pattern).bind fun id b₃ _ hid =>
      .pure (hid.patIdent.after (k₁.trans k₂))
  · refine (runs_expectPunct _ _).bind fun _ b₂ k₂ _ => ?_
    refine (runs_separated_spans _ (fun b => runs_importSpec_spans) _ _).bind fun names b₃ _ h =>
      .pure ?_
    rw [ImportNames.nodes, List.map_eq_flatMap]
    exact h.after (k₁.trans k₂)

theorem runs_exportNames_spans : Runs b (r.exportNames ctx) fun n b' =>
    b.Begun b' ∧ b.Spans b' (Part.ofExport n) := by
  refine (runs_acceptPunct _ _).bind fun star b₁ k₁ h₁ => .ite (fun hstar => ?_) fun _ => ?_
  · obtain rfl : star = true := hstar
    obtain ⟨hkind, h₁⟩ := h₁
    have h₁ : b.Consumes [.read .standard b.position] b₁ := h₁
    have hkind : (b.upcoming .standard).kind = .punct .star := by simpa using hkind.symm
    have hbegun : b.Begun b₁ := h₁.begun (hkind ▸ solid_punct _)
    refine (runs_acceptWord _).bind fun ok b₂ k₂ _ => ?_
    refine (runs_optionally_spans (T := fun o => Part.ofExport (.all o)) ok rfl
      (runs_bindingName_spans .pattern)).bind fun name b₃ k₃ hname => .pure ⟨?_, ?_⟩
    · exact hbegun.before (k₂.trans k₃)
    · exact hname.after (k₁.trans k₂)
  · refine (runs_begin_punct _ _).bind fun _ b₂ k₂ h₂ => ?_
    refine (runs_separated _ (fun b => runs_exportSpec) _ _).bind fun names b₃ k₃ _ => .pure ⟨?_, ?_⟩
    · exact (h₂.before k₃).after k₁
    · exact (k₁.trans (k₂.trans k₃)).spans

end Rules

namespace Rules.Nests

variable (hr : r.Nests)
include hr

theorem moduleSource : Runs b (r.moduleSource ctx) fun _ _ => True := by
  refine runs_stringValue.bind fun v b₁ _ _ => ?_
  have hskip : Runs b₁ (r.skipAttributes ctx) fun _ _ => True := by
    refine (runs_peek _).bind fun t b₂ _ _ => .ite (fun _ => ?_) fun _ => .pure trivial
    exact (runs_skip _).bind fun _ b₃ _ _ => hr.objMembers.ignore
  exact hskip.bind fun _ _ _ _ => .pure trivial

theorem importStmt : Runs b (r.importStmt ctx) fun s b' => b.Spans b' [.stmt s] := by
  refine runs_node ?_
  refine (runs_begin_keyword _).bind fun _ b₁ k₁ h₁ => ?_
  refine (runs_peekKind _).bind fun _ b₂ k₂ _ => .ite (fun _ => ?_) fun _ => ?_
  · refine hr.moduleSource.bind fun m b₃ k₃ _ => ?_
    refine runs_semicolon.bind fun _ b₄ k₄ _ => .pure ⟨?_, fun loc => ⟨rfl, ?_⟩⟩
    · exact h₁.before (k₂.trans (k₃.trans k₄))
    · exact (k₁.trans (k₂.trans (k₃.trans k₄))).spans
  refine (runs_peekKind _).bind fun kind b₃ k₃ _ => ?_
  refine (runs_optionally_spans (T := fun o => Part.ofPat? (o.map .ident)) _ rfl
    ((runs_bindingName_spans .pattern).mono fun _ _ _ h => h.patIdent)).bind fun d b₄ k₄ hd => ?_
  have hbegun : b.Begun b₄ := h₁.before (k₂.trans (k₃.trans k₄))
  have hd : b.Spans b₄ (Part.ofPat? (d.map .ident)) := hd.after (k₁.trans (k₂.trans k₃))
  have hnames : ∀ b₅ flag, b₄.Keeps b₅ → Runs b₅ (do
      let names ← optionally flag (r.importNames ctx)
      discard (expectWord "from")
      let module ← r.moduleSource ctx
      semicolon
      return fun loc => Stmt.importDecl loc (d.map .ident) names module) fun build b' =>
        b.Builds b' fun loc => .stmt (build loc) := by
    intro b₅ flag k₅
    refine (runs_optionally_spans (T := fun o => o.elim [] ImportNames.nodes) flag rfl
      runs_importNames_spans).bind fun names b₆ k₆ hnames => ?_
    refine (runs_expectWord _).ignore.bind fun _ b₇ k₇ _ => ?_
    refine hr.moduleSource.bind fun m b₈ k₈ _ => ?_
    refine runs_semicolon.bind fun _ b₉ k₉ _ => .pure ⟨?_, fun loc => ⟨rfl, ?_⟩⟩
    · exact hbegun.before (k₅.trans (k₆.trans (k₇.trans (k₈.trans k₉))))
    · exact (hd.append (hnames.after k₅)).before (k₇.trans (k₈.trans k₉))
  cases d with
  | none => exact .intro fun hb => hnames b₄ true (.refl hb)
  | some id => exact (runs_acceptPunct _ _).bind fun ok b₅ k₅ _ => hnames b₅ ok k₅

theorem exportList : Runs b (r.exportList ctx) fun build b' =>
    b.Builds b' fun loc => .stmt (build loc) := by
  refine runs_exportNames_spans.bind fun names b₁ _ h₁ => ?_
  obtain ⟨hbegun, hnames⟩ := h₁
  refine (runs_acceptWord _).bind fun ok b₂ k₂ _ => ?_
  refine (runs_optionally (T := fun _ _ => True) ok (fun _ => hr.moduleSource) fun _ => trivial).bind
    fun source b₃ k₃ _ => ?_
  split
  · exact (runs_peek _).bind fun _ _ _ _ => .throw
  · refine runs_semicolon.bind fun _ b₄ k₄ _ => .pure ?_
    have kend := k₂.trans (k₃.trans k₄)
    exact ⟨hbegun.before kend, fun loc => ⟨rfl, hnames.before kend⟩⟩

theorem exportDefault : Runs b (r.exportDefault ctx) fun build b' =>
    b.Builds b' fun loc => .stmt (build loc) := by
  refine runs_peekTwo.bind fun ts b₁ k₁ _ => .ite (fun _ => ?_) fun _ => .ite (fun _ => ?_) fun _ => ?_
  · exact (hr.funcDecl _ _).mono fun _ _ _ h => h.after k₁
  · exact (hr.classDecl _ _).mono fun _ _ _ h => h.after k₁
  refine (hr.assignment _).bind fun e b₂ _ he => ?_
  have he := he.after k₁
  exact runs_semicolon.bind fun _ b₃ k₃ _ =>
    .pure ⟨he.begun.before k₃, fun _ => ⟨rfl, he.before k₃⟩⟩

theorem exportDecl (t next : Token) : Runs b (r.exportDecl ctx t next) fun build b' =>
    b.Builds b' fun loc => .stmt (build loc) := by
  refine .ite (fun _ => hr.funcDecl _ _) fun _ => ?_
  have hdecl : Runs b (do
      let decl ← r.varDecl ctx true
      semicolon
      return decl) fun build b' => b.Builds b' fun loc => .stmt (build loc) :=
    (hr.varDecl true).bind fun _ _ _ h => runs_semicolon.bind fun _ _ k₂ _ => .pure (h.before k₂)
  split
  · exact hdecl
  · exact hdecl
  · exact hdecl
  · exact hr.classDecl _ _
  · exact .throw

/-- The location of what is exported begins with the keyword. -/
theorem exportStmt : Runs b (r.exportStmt ctx) fun s b' => b.Spans b' [.stmt s] := by
  refine runs_node ?_
  refine (runs_expectKeyword _).bind fun _ b₁ k₁ _ => ?_
  refine runs_peekTwo.bind fun ts b₂ k₂ _ => ?_
  have k₂ := k₁.trans k₂
  obtain ⟨t, next⟩ := ts
  dsimp only
  split
  · refine (runs_skip _).bind fun _ b₃ k₃ _ => ?_
    exact hr.exportDefault.mono fun _ _ _ h => h.after (k₂.trans k₃)
  · exact hr.exportList.mono fun _ _ _ h => h.after k₂
  · exact hr.exportList.mono fun _ _ _ h => h.after k₂
  · exact (hr.exportDecl _ _).mono fun _ _ _ h => h.after k₂

theorem statement : Runs b (r.statement ctx) fun s b' => b.Spans b' [.stmt s] := by
  refine runs_peekTwo.bind fun ts b₁ k₁ h₁ => ?_
  obtain ⟨rfl, h₁⟩ := h₁
  have since : ∀ {p : TokenParser Stmt}, Runs b₁ p (fun s b' => b₁.Spans b' [.stmt s]) →
      Runs b₁ p fun s b' => b.Spans b' [.stmt s] := fun h => h.mono fun _ _ _ hs => hs.after k₁
  dsimp only
  split
  · exact .ite (fun _ => since hr.exprStmt) fun _ => since hr.importStmt
  · exact since hr.exportStmt
  · rw [← h₁.upcoming]
    exact since (hr.plainStmt _)

end Rules.Nests

/-! ### Modules -/

theorem Rules.nests_step (hr : r.Nests) : r.step.Nests where
  expr _ _ _ _ := hr.operatorExpr _ _
  operand _ _ _ := hr.operandExpr _
  construct _ _ := hr.constructExpr
  pat _ _ := hr.pattern
  stmt _ _ := hr.statement
  elem _ _ := hr.element.mono fun _ _ _ h => h.2

theorem nests_grammar (length : Nat) : (grammar length).Nests := by
  unfold grammar
  generalize 2 * length + 8 = n
  induction n with
  | zero => exact Rules.nests_exhausted
  | succ n ih => exact Rules.nests_step ih

/-- The statements of a module that is read stand in a row. -/
theorem row_of_parse {source : String} {p : Program} (h : Program.parse source = .ok p) :
    ∃ a z, Row (Cursor.ofString source) a (p.body.map .stmt) z := by
  have hrun : Runs (.ofString source) (grammar source.length).program fun ss b' =>
      (TokenBuffer.ofString source).Spans b' (ss.map .stmt) := by
    refine ((nests_grammar _).stmtsUntil .eof).bind fun ss b₁ _ hss => ?_
    exact (runs_expect _ _).ignore.bind fun _ _ k₂ _ => .pure (hss.before k₂)
  have hout := hrun (.refl (TokenBuffer.coherent_ofString source))
  unfold Program.parse at h
  split at h
  · next body buffer heq =>
    rw [heq] at hout
    cases h
    obtain ⟨-, ts, -, hrow⟩ := hout
    exact ⟨_, _, hrow⟩
  · exact nomatch h

/-- The part takes up a slice of the source, and its children stand inside it without overlap. -/
structure Part.Placed (source : String) (x : Part) : Prop where
  nonempty : x.loc.start < x.loc.stop
  slice : ∃ text, x.loc.Holds source text
  inside : ∀ c ∈ x.children, x.loc.start ≤ c.loc.start ∧ c.loc.stop ≤ x.loc.stop
  apart : x.children.Pairwise fun c d => c.loc.stop ≤ d.loc.start

theorem Part.Nested.placed {source : String} {x : Part} (h : x.Nested (Cursor.ofString source)) :
    x.Placed source where
  nonempty := h.nonempty
  slice := h.within.holds
  inside _ hc := (h.inside.of_mem hc).2
  apart := h.inside.pairwise

/-- **The locations of a module that is read are nested.**  Every statement, expression, pattern
and name takes up a slice of the source; its children stand inside it, and no two of them overlap,
as no two statements of the module do.  The parts that are reached so are all the parts there
are. -/
theorem Program.locations_nest {source : String} {p : Program} (h : Program.parse source = .ok p) :
    (∀ x, p.Contains x → x.Placed source) ∧ (∀ x ∈ p.parts, p.Contains x) ∧
      (p.body.map Part.stmt).Pairwise fun x y => x.loc.stop ≤ y.loc.start := by
  obtain ⟨a, z, hrow⟩ := row_of_parse h
  have hbody : ∀ s ∈ p.body, (Part.stmt s).Nested (Cursor.ofString source) := fun s hs =>
    (hrow.of_mem (List.mem_map_of_mem hs)).1
  refine ⟨fun x hx => (hx.nested hbody).placed, fun x hx => ?_, hrow.pairwise⟩
  rw [Program.parts, stmtsParts_eq] at hx
  obtain ⟨c, hc, hx⟩ := List.mem_flatMap.1 hx
  obtain ⟨s, hs, rfl⟩ := List.mem_map.1 hc
  exact Program.Contains.of_mem_parts (.stmt hs) (hbody s hs) x hx

/-- Literals that turn out to be patterns, parentheses that are dropped, and an asynchronous
arrow. -/
def nestedSource : String := "[x, \x7by = 1, ...z\x7d] = (async (a) => (a))\ndo \x7b\x7d while (x)"

theorem nestedSource_locations :
    ∃ p, Program.parse nestedSource = .ok p ∧ p.parts.length = 19 ∧
      (∀ x, p.Contains x → x.Placed nestedSource) ∧ (∀ x ∈ p.parts, p.Contains x) ∧
      (p.body.map Part.stmt).Pairwise fun x y => x.loc.stop ≤ y.loc.start := by
  have hspelled : nestedSource = String.ofList _ := rfl
  have hsource : (Program.parse nestedSource).toOption.any
      (fun p => decide (p.parts.length = 19)) = true := by
    rw [Program.parse_of_spelled hspelled]
    decide +kernel
  obtain ⟨p, hp, hlength⟩ := (Option.any_eq_true _ _).mp hsource
  have hp := Program.parse_of_toOption hp
  exact ⟨p, hp, of_decide_eq_true hlength, Program.locations_nest hp⟩

end ImportSeam
