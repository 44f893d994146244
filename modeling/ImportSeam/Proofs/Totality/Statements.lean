import ImportSeam.Proofs.Totality.Expressions

/-!
# Statements are read to an end

A statement takes at least one token, also where its semicolon is left out.

## Main results

* `Rules.Total.statement` — a statement of any kind.
* `total_grammar` — **the rules of the grammar are total.**
-/

namespace ImportSeam

open TokenParser

variable {src : Cursor} {b b' : TokenBuffer} {ctx : Context} {r : Rules} {d : Nat}

theorem safe_varMode : Safe src b varMode fun _ b' => b'.left < b.left := by
  refine .consume .standard (fun _ hw b₁ hlt => ?_) fun hbad hw b₁ _ => ?_
  · split
    · exact .pure hlt.1
    · exact .pure hlt.1
    · exact .pure hlt.1
    · exact .reject hw
  · split
    · next hk => exact absurd (hk ▸ solid_keyword _) hbad
    · next hk => exact absurd (hk ▸ solid_keyword _) hbad
    · next hk => exact absurd (hk ▸ solid_keyword _) hbad
    · exact .reject hw

theorem safe_jumpStmt (k : Keyword) (build : Loc → Option String → Stmt) :
    Safe src b (Rules.jumpStmt k build) fun _ b' => b'.left < b.left := by
  refine .spanning ((safe_expectKeyword _).bind fun _ b₁ _ _ => ?_)
  have hlabel : Safe src b₁ jumpLabel? fun _ _ => True := by
    refine (safe_consumeIf fun h => ?_).bind fun _ _ _ _ => .pure trivial
    simp only [Bool.and_eq_true, beq_iff_eq] at h
    exact h.1 ▸ solid_ident
  refine hlabel.bind fun l b₂ _ _ => ?_
  exact safe_semicolon.bind fun _ b₃ _ _ => .pure fun _ _ => by omega

namespace Rules.Total

variable (hr : r.Total src d)
include hr

/-! ### Declarations -/

theorem varBinders (ends : List TokenKind) : ∀ (n : Nat) (b : TokenBuffer), b.left < n →
    r.Room d b 2 →
      Safe src b (r.varBinders ctx ends n) fun _ b' => b'.left < b.left
  | 0, _, hn, _ => absurd hn (Nat.not_lt_zero _)
  | n + 1, b, hn, hd => by
    refine (hr.pat hd.1).bind fun p b₁ _ _ => ?_
    refine (hr.default? _ (by omega)).bind fun init b₂ _ _ => ?_
    refine (safe_acceptPunct _ _).bind fun _ b₃ _ _ => .ite (fun _ => ?_) fun _ => .pure (by omega)
    exact (varBinders ends n b₃ (by omega) (by omega)).bind fun bs b₄ _ _ => .pure (by omega)

theorem varParts (ends : List TokenKind) (hd : r.Room d b 1) :
    Safe src b (r.varParts ctx ends) fun _ b' => b'.left < b.left := by
  refine safe_varMode.bind fun _ b₁ _ _ => ?_
  exact (hr.varBinders ends _ _ (by omega) (by omega)).bind fun _ b₂ _ _ => .pure (by omega)

theorem varDecl (isExported : Bool) (hd : r.Room d b 1) :
    Safe src b (r.varDecl ctx isExported) fun _ b' => b'.left < b.left :=
  (hr.varParts [] hd).bind fun _ _ _ h => .pure h

theorem funcDecl (isExported isDefault : Bool) (hd : r.Room d b 1) :
    Safe src b (r.funcDecl ctx isExported isDefault) fun _ b' => b'.left < b.left := by
  refine (hr.signature hd).bind fun s b₁ _ hlt => .ite (fun _ => ?_) fun _ => .pure hlt
  exact (safe_peek _).bind fun _ _ _ h => .reject h.2.1

theorem classDecl (isExported isDefault : Bool) (hd : r.Room d b 1) :
    Safe src b (r.classDecl ctx isExported isDefault) fun _ b' => b'.left < b.left := by
  refine (hr.classSignature hd).bind fun s b₁ _ hlt => .ite (fun _ => ?_) fun _ => .pure hlt
  exact (safe_peek _).bind fun _ _ _ h => .reject h.2.1

/-! ### Loops -/

theorem forInit (hd : r.Room d b 2) :
    Safe src b (r.forInit ctx) fun x _ => x.1.Within src ∧ x.2.Inside src := by
  refine safe_peekTwo.bind fun ts b₁ _ h₁ => ?_
  refine .ite (fun _ => ?_) fun _ => .ite (fun _ => .pure ⟨h₁.2.1, trivial⟩) fun _ => ?_
  · exact .spanning ((hr.varParts _ (by omega)).bind fun _ _ _ _ => .pure fun _ hw => ⟨hw, trivial⟩)
  · exact (hr.sequence _ (by omega)).bind fun _ _ _ h => .pure ⟨h₁.2.1, h.2⟩

theorem forEachTail (isIn isAwait : Bool) (target : ForTarget) (hd : r.Room d b 2) :
    Safe src b (r.forEachTail ctx isIn isAwait target) fun _ _ => True := by
  refine .join ?_
  have hobject : Safe src b (if isIn = true then r.sequence ctx [.punct .rParen] else
      r.assignment ctx [.punct .rParen]) fun _ b' => b'.left < b.left :=
    .ite (fun _ => (hr.sequence _ hd.1).mono fun _ _ _ h => h.1)
      fun _ => (hr.assignment _ hd.1).mono fun _ _ _ h => h.1
  refine hobject.bind fun e b₁ _ _ => ?_
  refine (safe_expectPunct _ _).bind fun _ b₂ _ _ => ?_
  exact (hr.stmt (by omega)).bind fun s b₃ _ _ => .pure trivial

theorem forLoopTail (init : ForInit) (hd : r.Room d b 2) :
    Safe src b (r.forLoopTail ctx init) fun _ _ => True := by
  -- the condition and the update may both be missing
  have part : ∀ b₁ flag ends, b₁.left ≤ b.left →
      Safe src b₁ (optionally flag (r.sequence ctx ends)) fun _ _ => True := fun b₁ flag ends _ =>
    .optionally (fun _ => (hr.sequence ends (by omega)).mono fun _ _ _ _ => trivial)
      fun _ => trivial
  refine (safe_expectPunct _ _).bind fun _ b₁ _ _ => ?_
  refine (safe_peekKind _).bind fun _ b₂ _ _ => (part _ _ _ (by omega)).bind fun test b₃ _ _ => ?_
  refine (safe_expectPunct _ _).bind fun _ b₄ _ _ => ?_
  refine (safe_peekKind _).bind fun _ b₅ _ _ => (part _ _ _ (by omega)).bind fun post b₆ _ _ => ?_
  refine (safe_expectPunct _ _).bind fun _ b₇ _ _ => ?_
  exact (hr.stmt (by omega)).bind fun s b₈ _ _ => .pure trivial

theorem forStmt (hd : r.Room d b 2) : Safe src b (r.forStmt ctx) fun _ b' => b'.left < b.left := by
  refine .spanning ((safe_expectKeyword _).bind fun _ b₁ _ _ => ?_)
  refine (safe_acceptKeyword _).bind fun isAwait b₂ _ _ => ?_
  refine (safe_expectPunct _ _).bind fun _ b₃ _ _ => ?_
  refine (safe_peek _).bind fun first b₄ _ h₄ => ?_
  refine (hr.forInit (by omega)).bind fun x b₅ _ hx => ?_
  refine (safe_peek _).bind fun t b₆ _ h₆ => .ite (fun hkey => ?_) fun _ => ?_
  · have hsolid : t.kind.Solid := by
      simp only [Bool.or_eq_true, beq_iff_eq] at hkey
      rcases hkey with h | h
      · exact h ▸ solid_keyword _
      · exact Token.solid_of_isWord h
    refine (safe_skip (h₆.1 ▸ hsolid)).bind fun _ b₇ _ _ => ?_
    -- the head was read as an expression, and is rejected where it stands if it is no target
    have htarget : Safe src b₇ (TokenParser.ofExcept (forTarget first x.1 x.2)) fun _ _ => True :=
      safe_ofExcept (forTarget_sane h₄.2.1 hx.1 hx.2) fun _ _ => trivial
    refine htarget.bind fun target b₈ _ _ => ?_
    exact (hr.forEachTail _ _ _ (by omega)).mono fun _ _ _ _ _ _ => by omega
  · exact (hr.forLoopTail _ (by omega)).mono fun _ _ _ _ _ _ => by omega

/-! ### Statements with blocks -/

theorem handler (hd : r.Room d b 2) : Safe src b (r.handler ctx) fun _ _ => True := by
  refine (safe_acceptPunct _ _).bind fun ok b₁ _ _ => ?_
  have hparam : Safe src b₁ (TokenParser.optionally ok do
      let param ← r.pat ctx
      expectPunct .rParen
      return param) fun _ _ => True := by
    refine .optionally (fun _ => ?_) fun _ => trivial
    refine (hr.pat (by omega)).bind fun p b₂ _ _ => ?_
    exact (safe_expectPunct _ _).bind fun _ b₃ _ _ => .pure trivial
  refine hparam.bind fun p b₂ _ _ => ?_
  exact (hr.block (by omega)).bind fun ss b₃ _ _ => .pure trivial

theorem tryStmt (hd : r.Room d b 2) : Safe src b (r.tryStmt ctx) fun _ b' => b'.left < b.left := by
  refine .spanning ((safe_expect (solid_keyword _) _).bind fun t b₁ _ h₁ => ?_)
  refine (hr.block (by omega)).bind fun body b₂ _ _ => ?_
  refine (safe_acceptKeyword _).bind fun ok b₃ _ _ => ?_
  have hhandler : Safe src b₃ (TokenParser.optionally ok (r.handler ctx)) fun _ _ => True :=
    .optionally (fun _ => hr.handler (by omega)) fun _ => trivial
  refine hhandler.bind fun handler b₄ _ _ => ?_
  refine (safe_acceptKeyword _).bind fun ok b₅ _ _ => ?_
  have hfinal : Safe src b₅ (TokenParser.optionally ok (r.block ctx)) fun _ _ => True :=
    .optionally (fun _ => (hr.block (by omega)).mono fun _ _ _ _ => trivial) fun _ => trivial
  refine hfinal.bind fun finalizer b₆ _ _ => ?_
  exact .ite (fun _ => .reject h₁.2.2.1) fun _ => .pure fun _ _ => by omega

theorem branchBody (hd : r.Room d b 3) : Safe src b (r.branchBody ctx) fun _ _ => True := by
  refine .collect _ _ (by omega) fun b₁ _ => ?_
  refine (safe_peek _).bind fun t b₂ _ h₂ => ?_
  split
  · exact .ended trivial
  · exact .ended trivial
  · exact .ended trivial
  · exact .reject h₂.2.1
  · exact (hr.stmt (by omega)).bind fun s b₃ _ _ => .found (by omega)

theorem branch (hd : r.Room d b 2) : Safe src b (r.branch ctx) fun _ b' => b'.left < b.left := by
  have tail : ∀ b₁ test, b₁.left ≤ b.left → Safe src b₁ (do
      expectPunct .colon
      return (⟨test, ← r.branchBody ctx⟩ : SwitchCase)) fun _ b' => b'.left < b.left := by
    intro b₁ test _
    refine (safe_expectPunct _ _).bind fun _ b₂ _ _ => ?_
    exact (hr.branchBody (by omega)).bind fun ss b₃ _ _ => .pure (by omega)
  refine (safe_acceptKeyword _).bind fun ok b₁ _ _ =>
    .ite (fun _ => tail b₁ none (by omega)) fun _ => ?_
  refine (safe_expectKeyword _).bind fun _ b₂ _ _ => ?_
  have htest : Safe src b₂ (some <$> r.sequence ctx [.punct .colon]) fun _ _ => True :=
    .map ((hr.sequence _ (by omega)).mono fun _ _ _ _ => trivial)
  exact htest.bind fun test b₃ _ _ => tail b₃ test (by omega)

theorem switchStmt (hd : r.Room d b 2) :
    Safe src b (r.switchStmt ctx) fun _ b' => b'.left < b.left := by
  refine .spanning ((safe_expectKeyword _).bind fun _ b₁ _ _ => ?_)
  refine (hr.parenthesized (by omega)).bind fun e b₂ _ _ => ?_
  refine (safe_expectPunct _ _).bind fun _ b₃ _ _ => ?_
  refine (Safe.collect (N := fun _ => True) _ _ (by omega) fun b₄ _ => ?_).bind
    fun cs b₅ _ _ => .pure fun _ _ => by omega
  refine (safe_acceptPunct _ _).bind fun _ b₅ _ _ => .ite (fun _ => .ended trivial) fun _ => ?_
  exact (hr.branch (by omega)).bind fun c b₆ _ _ => .found (by omega)

/-! ### Simple statements -/

theorem ifStmt (hd : r.Room d b 2) : Safe src b (r.ifStmt ctx) fun _ b' => b'.left < b.left := by
  refine .spanning ((safe_expectKeyword _).bind fun _ b₁ _ _ => ?_)
  refine (hr.parenthesized (by omega)).bind fun test b₂ _ _ => ?_
  refine (hr.stmt (by omega)).bind fun c b₃ _ _ => ?_
  refine (safe_acceptKeyword _).bind fun ok b₄ _ _ => ?_
  have helse : Safe src b₄ (TokenParser.optionally ok (r.stmt ctx)) fun _ _ => True :=
    .optionally (fun _ => (hr.stmt (by omega)).mono fun _ _ _ _ => trivial) fun _ => trivial
  exact helse.bind fun a b₅ _ _ => .pure fun _ _ => by omega

theorem whileStmt (hd : r.Room d b 2) :
    Safe src b (r.whileStmt ctx) fun _ b' => b'.left < b.left := by
  refine .spanning ((safe_expectKeyword _).bind fun _ b₁ _ _ => ?_)
  refine (hr.parenthesized (by omega)).bind fun test b₂ _ _ => ?_
  exact (hr.stmt (by omega)).bind fun s b₃ _ _ => .pure fun _ _ => by omega

theorem doWhileStmt (hd : r.Room d b 2) :
    Safe src b (r.doWhileStmt ctx) fun _ b' => b'.left < b.left := by
  refine .spanning ((safe_expectKeyword _).bind fun _ b₁ _ _ => ?_)
  refine (hr.stmt (by omega)).bind fun s b₂ _ _ => ?_
  refine (safe_expectKeyword _).bind fun _ b₃ _ _ => ?_
  refine (hr.parenthesized (by omega)).bind fun test b₄ _ _ => ?_
  refine (Safe.discard ((safe_acceptPunct _ _).mono fun _ _ _ _ => trivial)).bind fun _ b₅ _ _ => ?_
  exact .pure fun _ _ => by omega

theorem withStmt (hd : r.Room d b 2) :
    Safe src b (r.withStmt ctx) fun _ b' => b'.left < b.left := by
  refine .spanning ((safe_expectKeyword _).bind fun _ b₁ _ _ => ?_)
  refine (hr.parenthesized (by omega)).bind fun e b₂ _ _ => ?_
  exact (hr.stmt (by omega)).bind fun s b₃ _ _ => .pure fun _ _ => by omega

theorem returnStmt (hd : r.Room d b 2) :
    Safe src b (r.returnStmt ctx) fun _ b' => b'.left < b.left := by
  refine .spanning ((safe_expectKeyword _).bind fun _ b₁ _ _ => ?_)
  refine (safe_peek _).bind fun t b₂ _ _ => ?_
  refine (Safe.optionally (T := fun _ _ => True)
    (fun _ => (hr.sequence _ (by omega)).mono fun _ _ _ _ => trivial) fun _ => trivial).bind
    fun o b₃ _ _ => ?_
  exact safe_semicolon.bind fun _ b₄ _ _ => .pure fun _ _ => by omega

theorem throwStmt (hd : r.Room d b 2) :
    Safe src b (r.throwStmt ctx) fun _ b' => b'.left < b.left := by
  refine .spanning ((safe_expectKeyword _).bind fun _ b₁ _ _ => ?_)
  refine (safe_peek _).bind fun t b₂ _ h₂ => .ite (fun _ => .reject h₂.2.1) fun _ => ?_
  refine (hr.sequence _ (by omega)).bind fun e b₃ _ _ => ?_
  exact safe_semicolon.bind fun _ b₄ _ _ => .pure fun _ _ => by omega

theorem labelStmt (hname : ctx.isName (b.upcoming .standard).kind = true) (hd : r.Room d b 2) :
    Safe src b (r.labelStmt ctx) fun _ b' => b'.left < b.left := by
  refine .spanning ((safe_take (Context.solid_of_isName hname)).bind fun t b₁ _ _ => ?_)
  refine (safe_expectPunct _ _).bind fun _ b₂ _ _ => ?_
  exact (hr.stmt (by omega)).bind fun s b₃ _ _ => .pure fun _ _ => by omega

theorem exprStmt (hd : r.Room d b 2) :
    Safe src b (r.exprStmt ctx) fun _ b' => b'.left < b.left := by
  refine .spanning ((hr.sequence _ hd.1).bind fun e b₁ _ _ => ?_)
  exact safe_semicolon.bind fun _ b₂ _ _ => .pure fun _ _ => by omega

theorem varStmt (hd : r.Room d b 2) : Safe src b (r.varStmt ctx) fun _ b' => b'.left < b.left := by
  have hdecl : Safe src b (TokenParser.spanning (r.varDecl ctx false)) fun _ b' =>
      b'.left < b.left :=
    .spanning ((hr.varDecl false (by omega)).mono fun _ _ _ h _ _ => h)
  refine hdecl.bind fun s b₁ _ _ => ?_
  exact safe_semicolon.bind fun _ b₂ _ _ => .pure (by omega)

theorem plainStmt (next : Token) (hd : r.Room d b 2) :
    Safe src b (r.plainStmt ctx (b.upcoming .standard) next) fun _ b' => b'.left < b.left := by
  refine .ite (fun _ => hr.varStmt hd) fun _ => .ite (fun _ => ?_) fun _ => ?_
  · exact .spanning ((hr.funcDecl false false (by omega)).mono fun _ _ _ h _ _ => h)
  split
  · exact .spanning ((hr.block (by omega)).bind fun _ _ _ h => .pure fun _ _ => h)
  · exact .spanning ((hr.classDecl false false (by omega)).mono fun _ _ _ h _ _ => h)
  · exact hr.forStmt hd
  · exact hr.ifStmt hd
  · exact hr.whileStmt hd
  · exact hr.doWhileStmt hd
  · exact hr.returnStmt hd
  · exact safe_jumpStmt _ _
  · exact safe_jumpStmt _ _
  · exact hr.throwStmt hd
  · exact hr.tryStmt hd
  · exact hr.switchStmt hd
  · exact hr.withStmt hd
  · refine .spanning ((safe_expectKeyword _).bind fun _ b₁ _ _ => ?_)
    exact safe_semicolon.bind fun _ _ _ _ => .pure fun _ _ => by omega
  · next hk => exact (safe_take (hk ▸ solid_punct _)).bind fun _ _ _ h => .pure h.2.2
  · refine .ite (fun h => hr.labelStmt ?_ hd) fun _ => hr.exprStmt hd
    simp only [Bool.and_eq_true] at h
    exact h.1

end Rules.Total

/-! ### Imports and exports -/

theorem safe_exchangedName : Safe src b exchangedName fun _ _ => True := by
  refine (safe_peek _).bind fun t b₁ _ h₁ => ?_
  obtain ⟨rfl, hw, -⟩ := h₁
  refine .ite (fun _ => ?_) fun _ => .ite (fun hk => ?_) fun _ => .reject hw
  · exact safe_stringValue.bind fun _ _ _ _ => .pure trivial
  · have hsolid : (b₁.upcoming .standard).kind.Solid := by
      refine ⟨?_, ?_⟩ <;> intro h <;> rw [h] at hk <;> exact nomatch hk
    exact (safe_skip hsolid).bind fun _ b₂ _ _ => .pure trivial

theorem safe_importSpec : Safe src b (importSpec ctx) fun _ _ => True := by
  refine (safe_peek _).bind fun t b₁ _ h₁ => ?_
  obtain ⟨-, hw, -⟩ := h₁
  refine safe_exchangedName.bind fun n b₂ _ _ => ?_
  refine (safe_acceptWord _).bind fun _ b₃ _ _ => .ite (fun _ => ?_) fun _ => ?_
  · exact safe_bindingName.bind fun id _ _ _ => .pure trivial
  cases n with
  | quoted name => exact .reject hw
  | bare name => exact .ite (fun _ => .pure trivial) fun _ => .reject hw

theorem safe_exportSpec : Safe src b exportSpec fun _ _ => True := by
  refine safe_exchangedName.bind fun n b₁ _ _ => ?_
  refine (safe_acceptWord _).bind fun _ b₂ _ _ => .ite (fun _ => ?_) fun _ => .pure trivial
  exact safe_exchangedName.bind fun m _ _ _ => .pure trivial

theorem safe_importNames (hd : b.left < r.depth) :
    Safe src b (r.importNames ctx) fun _ _ => True := by
  refine (safe_acceptPunct _ _).bind fun _ b₁ _ _ => .ite (fun _ => ?_) fun _ => ?_
  · refine (safe_expectWord _).bind fun _ b₂ _ _ => ?_
    exact safe_bindingName.bind fun id _ _ _ => .pure trivial
  · refine (safe_expectPunct _ _).bind fun _ b₂ _ _ => ?_
    exact (Safe.separated _ _ _ (by omega) fun _ _ => safe_importSpec).bind
      fun _ _ _ _ => .pure trivial

theorem safe_exportNames (hd : b.left < r.depth) :
    Safe src b (r.exportNames ctx) fun _ b' => b'.left < b.left := by
  refine (safe_acceptPunct _ _).bind fun _ b₁ _ h₁ => .ite (fun hok => ?_) fun _ => ?_
  · have hlt := h₁ hok
    refine (safe_acceptWord _).bind fun ok b₂ _ _ => ?_
    have hname : Safe src b₂ (TokenParser.optionally ok (bindingName ctx)) fun _ _ => True :=
      .optionally (fun _ => safe_bindingName.mono fun _ _ _ _ => trivial) fun _ => trivial
    exact hname.bind fun name b₃ _ _ => .pure (by omega)
  · refine (safe_expectPunct _ _).bind fun _ b₂ _ _ => ?_
    exact (Safe.separated _ _ _ (by omega) fun _ _ => safe_exportSpec).bind
      fun _ _ _ _ => .pure (by omega)

namespace Rules.Total

variable (hr : r.Total src d)
include hr

theorem moduleSource (hd : r.Room d b 2) :
    Safe src b (r.moduleSource ctx) fun _ b' => b'.left < b.left := by
  refine safe_stringValue.bind fun v b₁ _ _ => ?_
  have hskip : Safe src b₁ (r.skipAttributes ctx) fun _ _ => True := by
    refine (safe_peek _).bind fun t b₂ _ h₂ => .ite (fun hkey => ?_) fun _ => .pure trivial
    have hsolid : t.kind.Solid := by
      simp only [Bool.or_eq_true, Bool.and_eq_true, beq_iff_eq] at hkey
      rcases hkey with h | h
      · exact h ▸ solid_keyword _
      · exact Token.solid_of_isWord h.1
    refine (safe_skip (h₂.1 ▸ hsolid)).bind fun _ b₃ _ _ => ?_
    exact .discard ((hr.objMembers (by omega)).mono fun _ _ _ _ => trivial)
  exact hskip.bind fun _ b₂ _ _ => .pure (by omega)

theorem importStmt (hd : r.Room d b 2) :
    Safe src b (r.importStmt ctx) fun _ b' => b'.left < b.left := by
  refine .spanning ((safe_expectKeyword _).bind fun _ b₁ _ _ => ?_)
  refine (safe_peekKind _).bind fun _ b₂ _ _ => .ite (fun _ => ?_) fun _ => ?_
  · refine (hr.moduleSource (by omega)).bind fun m b₃ _ _ => ?_
    exact safe_semicolon.bind fun _ _ _ _ => .pure fun _ _ => by omega
  refine (safe_peekKind _).bind fun kind b₃ _ _ => ?_
  refine (Safe.optionally (T := fun _ _ => True)
    (fun _ => safe_bindingName.mono fun _ _ _ _ => trivial) fun _ => trivial).bind
      fun d b₄ _ _ => ?_
  -- the names may be missing only behind a default import
  have hnames : ∀ b₅ flag, b₅.left ≤ b₄.left → Safe src b₅ (do
      let names ← optionally flag (r.importNames ctx)
      discard (expectWord "from")
      let module ← r.moduleSource ctx
      semicolon
      return fun loc => Stmt.importDecl loc (d.map .ident) names module) fun _ b' =>
        ∀ loc : Loc, loc.Within src → b'.left < b.left := by
    intro b₅ flag _
    refine (Safe.optionally (T := fun _ _ => True) (fun _ => safe_importNames (by omega))
      fun _ => trivial).bind fun names b₆ _ _ => ?_
    refine (safe_expectWord _).bind fun _ b₇ _ _ => ?_
    refine (hr.moduleSource (by omega)).bind fun m b₈ _ _ => ?_
    exact safe_semicolon.bind fun _ _ _ _ => .pure fun _ _ => by omega
  cases d with
  | none => exact hnames b₄ true (Nat.le_refl _)
  | some id => exact (safe_acceptPunct _ _).bind fun ok b₅ _ _ => hnames b₅ ok (by omega)

theorem exportList (hd : r.Room d b 2) :
    Safe src b (r.exportList ctx) fun _ b' => b'.left < b.left := by
  refine (safe_exportNames (by omega)).bind fun names b₁ _ _ => ?_
  refine (safe_acceptWord _).bind fun ok b₂ _ _ => ?_
  refine (Safe.optionally (T := fun _ _ => True)
    (fun _ => (hr.moduleSource (by omega)).mono fun _ _ _ _ => trivial) fun _ => trivial).bind
    fun source b₃ _ _ => ?_
  split
  · exact (safe_peek _).bind fun _ _ _ h => .reject h.2.1
  · exact safe_semicolon.bind fun _ _ _ _ => .pure (by omega)

theorem exportDefault (hd : r.Room d b 2) :
    Safe src b (r.exportDefault ctx) fun _ b' => b'.left < b.left := by
  refine safe_peekTwo.bind fun ts b₁ _ _ => .ite (fun _ => ?_) fun _ =>
    .ite (fun _ => ?_) fun _ => ?_
  · exact (hr.funcDecl _ _ (by omega)).mono fun _ _ _ _ => by omega
  · exact (hr.classDecl _ _ (by omega)).mono fun _ _ _ _ => by omega
  · refine (hr.assignment _ (by omega)).bind fun e b₂ _ _ => ?_
    exact safe_semicolon.bind fun _ _ _ _ => .pure (by omega)

theorem exportDecl {t : Token} (hw : t.loc.Within src) (next : Token) (hd : r.Room d b 2) :
    Safe src b (r.exportDecl ctx t next) fun _ b' => b'.left < b.left := by
  refine .ite (fun _ => hr.funcDecl _ _ (by omega)) fun _ => ?_
  have hdecl : Safe src b (do
      let decl ← r.varDecl ctx true
      semicolon
      return decl) fun _ b' => b'.left < b.left := by
    refine (hr.varDecl true (by omega)).bind fun build b₁ _ _ => ?_
    exact safe_semicolon.bind fun _ _ _ _ => .pure (by omega)
  split
  · exact hdecl
  · exact hdecl
  · exact hdecl
  · exact hr.classDecl _ _ (by omega)
  · exact .reject hw

theorem exportStmt (hd : r.Room d b 2) :
    Safe src b (r.exportStmt ctx) fun _ b' => b'.left < b.left := by
  refine .spanning ((safe_expectKeyword _).bind fun _ b₁ _ _ => ?_)
  refine safe_peekTwo.bind fun ts b₂ _ h₂ => ?_
  obtain ⟨rfl, hw, -⟩ := h₂
  dsimp only
  split
  · next hk =>
    refine (safe_skip (hk ▸ solid_keyword _)).bind fun _ b₃ _ _ => ?_
    exact (hr.exportDefault (by omega)).mono fun _ _ _ _ _ _ => by omega
  · exact (hr.exportList (by omega)).mono fun _ _ _ _ _ _ => by omega
  · exact (hr.exportList (by omega)).mono fun _ _ _ _ _ _ => by omega
  · exact (hr.exportDecl hw _ (by omega)).mono fun _ _ _ _ _ _ => by omega

theorem statement (hd : r.Room d b 2) :
    Safe src b (r.statement ctx) fun _ b' => b'.left < b.left := by
  refine safe_peekTwo.bind fun ts b₁ _ h₁ => ?_
  obtain ⟨rfl, -, -⟩ := h₁
  have hmono : ∀ {p : TokenParser Stmt}, Safe src b₁ p (fun _ b' => b'.left < b₁.left) →
      Safe src b₁ p fun _ b' => b'.left < b.left := fun h => h.mono fun _ _ _ _ => by omega
  dsimp only
  split
  · exact hmono (.ite (fun _ => hr.exprStmt (by omega)) fun _ => hr.importStmt (by omega))
  · exact hmono (hr.exportStmt (by omega))
  · exact hmono (hr.plainStmt _ (by omega))

/-! ### The grammar -/

/-- The productions are total one level higher than the rules they are given. -/
theorem step (hdepth : d ≤ r.depth) : r.step.Total src (d + 1) where
  expr least ends hd := hr.operatorExpr least ends (by omega)
  operand ends hd := hr.operandExpr ends (by omega)
  construct hd := hr.constructExpr (by omega)
  pat hd := hr.pattern (by omega)
  stmt hd := hr.statement (by omega)
  elem hd := hr.element (by omega)

end Rules.Total

theorem total_repeat (n : Nat) : (Nat.repeat Rules.step n Rules.exhausted).depth = n ∧
    (Nat.repeat Rules.step n Rules.exhausted).Total src n := by
  induction n with
  | zero => exact ⟨rfl, Rules.total_exhausted⟩
  | succ n ih => exact ⟨congrArg (· + 1) ih.1, ih.2.step (Nat.le_of_eq ih.1.symm)⟩

theorem total_grammar (length : Nat) : (grammar length).Total src (2 * length + 8) :=
  (total_repeat _).2

/-- The token at the end of the source is consumed. -/
theorem safe_expectEnd (hend : (b.upcoming .standard).kind = .eof) :
    Safe src b (Functor.discard (expect .eof)) fun _ b' =>
      ∃ t, b'.consumed.toList.getLast? = some t ∧ t.token.kind = .eof := by
  refine .discard (SafeFrom.chain (safeFrom_consume .standard) fun t b₁ h₁ => ?_)
  obtain ⟨rfl, h₁⟩ := h₁
  refine .ite (fun _ => .pure ⟨.of_read h₁ (hend ▸ nofun), .read .standard b.position, ?_, hend⟩)
    fun hne => ?_
  · rw [h₁.consumed, List.getLast?_concat]
  · exact absurd (by simpa using hend) hne

/-- A whole module is read up to the end of the source. -/
theorem safe_program (source : String) :
    Safe (Cursor.ofString source) (.ofString source) (grammar source.length).program
      fun _ b' => ∃ t, b'.consumed.toList.getLast? = some t ∧ t.token.kind = .eof := by
  have hr : (grammar source.length).Total (Cursor.ofString source) (2 * source.length + 8) :=
    total_grammar _
  have hdepth : (grammar source.length).depth = 2 * source.length + 8 :=
    (@total_repeat (Cursor.ofString source) _).1
  have hleft : (TokenBuffer.ofString source).left = source.length := source.length_toList
  have hroom : (grammar source.length).Room (2 * source.length + 8) (.ofString source) 3 := by
    rw [Rules.Room, hleft, hdepth]
    omega
  refine (hr.stmtsUntil _ hroom).bind fun ss b₁ _ hend => ?_
  exact (safe_expectEnd hend).bind fun _ b₂ _ h => .pure h

end ImportSeam
