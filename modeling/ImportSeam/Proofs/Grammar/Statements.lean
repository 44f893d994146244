import ImportSeam.Proofs.Grammar.Expressions

/-!
# Statements and modules as they are read

An `else` belongs to the nearest `if` before it, so a statement that ends with an `if` without an
`else` is never followed by one.

## Main results

* `Rules.Sound.statement` — a statement of any kind.
* `formed_of_parse` — **every module that is read is formed.**
-/

namespace ImportSeam

open TokenParser

variable {b b' : TokenBuffer} {ctx : Context} {r : Rules}

/-- What is known of a statement after it was read: it is formed, and no `else` follows that it
would have taken. -/
def Stmt.Read (ctx : Context) (s : Stmt) (b' : TokenBuffer) : Prop :=
  s.Formed ctx ∧ (s.endsWithOpenIf = true → (b'.upcoming .standard).kind ≠ .keyword .kElse)

theorem runs_varMode : Runs b varMode fun _ _ => True := by
  refine (runs_consume _).bind fun t b₁ _ _ => ?_
  split
  · exact .pure trivial
  · exact .pure trivial
  · exact .pure trivial
  · exact .throw

theorem runs_jumpLabel? : Runs b jumpLabel? fun o _ => ∀ t ∈ o, IsToken .standard .ident t := by
  refine (runs_consumeIf _ _).bind fun t b₁ _ h₁ => .pure ?_
  rw [h₁.1]
  split
  · next hk =>
    simp only [Bool.and_eq_true, beq_iff_eq] at hk
    simpa using isToken_upcoming hk.1 nofun
  · simp

theorem runs_jumpStmt (k : Keyword) {build : Loc → Option String → Stmt}
    (hbuild : ∀ loc l, (∀ t ∈ l, IsToken .standard .ident t) →
      (build loc l).Formed ctx ∧ (build loc l).endsWithOpenIf = false) :
    Runs b (Rules.jumpStmt k build) fun s b' => s.Read ctx b' := by
  refine runs_spanning ?_
  refine (runs_expectKeyword _).bind fun _ b₁ _ _ => ?_
  refine runs_jumpLabel?.bind fun l b₂ _ hl => ?_
  refine runs_semicolon.bind fun _ b₃ _ _ => .pure ⟨(hbuild _ l hl).1, fun h => ?_⟩
  rw [(hbuild _ l hl).2] at h
  exact nomatch h

namespace Rules.Sound

variable (hr : r.Sound)
include hr

/-! ### Declarations -/

theorem varBinders (ends : List TokenKind) : ∀ (n : Nat) (b : TokenBuffer),
    Runs b (r.varBinders ctx ends n) fun bs _ => bs.isEmpty = false ∧ bindersFormed ctx bs
  | 0, _ => runs_exhausted
  | n + 1, b => by
    refine (hr.pat _ _).bind fun p b₁ _ hp => ?_
    refine (hr.default? _).bind fun init b₂ _ hi => ?_
    refine (runs_acceptPunct _ _).bind fun _ b₃ _ _ => .ite (fun _ => ?_) fun _ => ?_
    · exact (varBinders ends n b₃).bind fun bs b₄ _ h => .pure ⟨rfl, ⟨hp, hi⟩, h.2⟩
    · exact .pure ⟨rfl, ⟨hp, hi⟩, trivial⟩

theorem varParts (ends : List TokenKind) : Runs b (r.varParts ctx ends) fun x _ =>
    x.2.isEmpty = false ∧ bindersFormed ctx x.2 :=
  runs_varMode.bind fun _ _ _ _ => (hr.varBinders ends _ _).bind fun _ _ _ h => .pure h

theorem varDecl (isExported : Bool) : Runs b (r.varDecl ctx isExported) fun build b' =>
    (build (b'.since b.mark)).Read ctx b' :=
  (hr.varParts []).bind fun _ _ _ h => .pure ⟨h, nofun⟩

theorem funcDecl (isExported isDefault : Bool) (hflags : isDefault = true → isExported = true) :
    Runs b (r.funcDecl ctx isExported isDefault) fun build b' =>
      (∀ loc, (build loc).Read ctx b') := by
  refine hr.signature.bind fun s b₁ _ hs => ?_
  refine .ite (fun _ => ?_) fun hname => .pure fun loc => ⟨⟨⟨hflags, ?_⟩, hs⟩, nofun⟩
  · exact (runs_peek _).bind fun _ _ _ _ => .throw
  · intro hnone
    simpa [hnone] using hname

theorem classDecl (isExported isDefault : Bool) (hflags : isDefault = true → isExported = true) :
    Runs b (r.classDecl ctx isExported isDefault) fun build b' =>
      (∀ loc, (build loc).Read ctx b') := by
  refine hr.classSignature.bind fun s b₁ _ hs => ?_
  refine .ite (fun _ => ?_) fun hname => .pure fun loc => ⟨⟨⟨hflags, ?_⟩, hs⟩, nofun⟩
  · exact (runs_peek _).bind fun _ _ _ _ => .throw
  · intro hnone
    simpa [hnone] using hname

end Rules.Sound

/-- What a loop over an object can assign to: a single new binding without a value, or what can be
converted to a pattern. -/
theorem Rules.forTarget_ok {first : Token} {loc : Loc} {init : ForInit} {t : ForTarget}
    (h : Rules.forTarget first loc init = .ok t) :
    (∃ mode p, init = .decl mode [⟨p, none⟩] ∧ t = .decl mode p) ∨
      ∃ e p, init = .expr e ∧ e.toPat = .ok p ∧ t = .assign p := by
  unfold Rules.forTarget at h
  split at h
  · next mode p => exact .inl ⟨mode, p, rfl, (Except.ok.inj h).symm⟩
  · exact nomatch h
  · next e =>
    obtain ⟨p, hp, h⟩ := Except.ok_of_bind (x := e.toPat) h
    exact .inr ⟨e, p, rfl, hp, (Except.ok.inj h).symm⟩
  · exact nomatch h

theorem forTarget_formed {first : Token} {loc : Loc} {init : ForInit} {t : ForTarget}
    (hi : init.Formed ctx) (h : Rules.forTarget first loc init = .ok t) : t.Formed ctx := by
  obtain ⟨mode, p, rfl, rfl⟩ | ⟨e, p, rfl, hp, rfl⟩ := Rules.forTarget_ok h
  · exact hi.2.1.1
  · exact Expr.formed_toPat hi hp

namespace Rules.Sound

variable (hr : r.Sound)
include hr

/-! ### Loops -/

theorem forInit : Runs b (r.forInit ctx) fun x _ => x.2.Formed ctx := by
  refine runs_peekTwo.bind fun ts b₁ _ _ => .ite (fun _ => ?_) fun _ => ?_
  · exact runs_spanning ((hr.varParts _).bind fun _ _ _ h => .pure h)
  · refine .ite (fun _ => .pure trivial) fun _ => ?_
    exact (hr.sequence _).bind fun _ _ _ h => .pure h.1

theorem forEachTail (isIn isAwait : Bool) {target : ForTarget} (ht : target.Formed ctx) :
    Runs b (r.forEachTail ctx isIn isAwait target) fun build b' =>
      ∀ loc, (build loc).Read ctx b' := by
  refine .join ?_
  have hobject : Runs b (if isIn = true then r.sequence ctx [.punct .rParen] else
      r.assignment ctx [.punct .rParen]) fun e _ => e.Formed ctx :=
    .ite (fun _ => (hr.sequence _).mono fun _ _ _ h => h.1)
      fun _ => (hr.assignment _).mono fun _ _ _ h => h.1
  refine hobject.bind fun e b₁ _ he => ?_
  refine (runs_expectPunct _ _).bind fun _ b₂ _ _ => ?_
  refine (hr.stmt _ _).bind fun s b₃ _ hs => .pure fun loc => ?_
  cases isIn <;> exact ⟨⟨ht, he, hs.1⟩, hs.2⟩

theorem forLoopTail {init : ForInit} (hi : init.Formed ctx) :
    Runs b (r.forLoopTail ctx init) fun build b' => ∀ loc, (build loc).Read ctx b' := by
  have part : ∀ b flag ends, Runs b (optionally flag (r.sequence ctx ends)) fun o _ =>
      optFormed ctx o := fun b flag ends =>
    runs_optionally flag (fun _ => (hr.sequence ends).mono fun _ _ _ h => h.1) fun _ => trivial
  refine (runs_expectPunct _ _).bind fun _ b₁ _ _ => ?_
  refine (runs_peekKind _).bind fun _ b₂ _ _ => (part _ _ _).bind fun test b₃ _ ht => ?_
  refine (runs_expectPunct _ _).bind fun _ b₄ _ _ => ?_
  refine (runs_peekKind _).bind fun _ b₅ _ _ => (part _ _ _).bind fun post b₆ _ hp => ?_
  refine (runs_expectPunct _ _).bind fun _ b₇ _ _ => ?_
  exact (hr.stmt _ _).bind fun s b₈ _ hs => .pure fun _ => ⟨⟨hi, ht, hp, hs.1⟩, hs.2⟩

theorem forStmt : Runs b (r.forStmt ctx) fun s b' => s.Read ctx b' := by
  refine runs_spanning ?_
  refine (runs_expectKeyword _).bind fun _ b₁ _ _ => ?_
  refine (runs_acceptKeyword _).bind fun isAwait b₂ _ _ => ?_
  refine (runs_expectPunct _ _).bind fun _ b₃ _ _ => ?_
  refine (runs_peek _).bind fun first b₄ _ _ => ?_
  refine hr.forInit.bind fun x b₅ _ hx => ?_
  refine (runs_peek _).bind fun t b₆ _ _ => .ite (fun _ => ?_) fun _ => ?_
  · refine (runs_skip _).bind fun _ b₇ _ _ => ?_
    refine (runs_ofExcept fun _ h => forTarget_formed hx h).bind fun target b₈ _ ht => ?_
    exact (hr.forEachTail _ _ ht).mono fun _ _ _ h => h _
  · exact (hr.forLoopTail hx).mono fun _ _ _ h => h _

/-! ### Statements with blocks -/

theorem handler : Runs b (r.handler ctx) fun c _ => optCatchFormed ctx (some c) := by
  refine (runs_acceptPunct _ _).bind fun ok b₁ _ _ => ?_
  refine (runs_optionally (T := fun o _ => optPatFormed ctx o) ok (fun _ => ?_) fun _ => trivial).bind
    fun p b₂ _ hp => hr.block.bind fun ss b₃ _ hss => .pure ⟨hp, hss⟩
  refine (hr.pat _ _).bind fun p b₂ _ hp => ?_
  exact (runs_expectPunct _ _).bind fun _ _ _ _ => .pure hp

theorem tryStmt : Runs b (r.tryStmt ctx) fun s b' => s.Read ctx b' := by
  refine runs_spanning ?_
  refine (runs_expect _ _).bind fun t b₁ _ _ => ?_
  refine hr.block.bind fun body b₂ _ hbody => ?_
  refine (runs_acceptKeyword _).bind fun ok b₃ _ _ => ?_
  refine (runs_optionally (T := fun o _ => optCatchFormed ctx o) ok (fun _ => hr.handler)
    fun _ => trivial).bind fun handler b₄ _ hh => ?_
  refine (runs_acceptKeyword _).bind fun ok b₅ _ _ => ?_
  refine (runs_optionally (T := fun o _ => optBlockFormed ctx o) ok (fun _ => hr.block)
    fun _ => trivial).bind fun finalizer b₆ _ hf => ?_
  refine .ite (fun _ => .throw) fun hsome => .pure ⟨⟨hbody, hh, hf, ?_⟩, nofun⟩
  cases handler <;> cases finalizer <;> simp_all

theorem branchBody : Runs b (r.branchBody ctx) fun ss _ => stmtsFormed ctx ss := by
  refine (runs_collect_all (fun s => s.Formed ctx) (fun b => ?_) _).mono
    fun _ _ _ hss => stmtsFormed_of_forall hss
  refine (runs_peek _).bind fun t b₁ _ _ => ?_
  split
  · exact .pure (by simp)
  · exact .pure (by simp)
  · exact .pure (by simp)
  · exact .throw
  · exact (hr.stmt _ _).bind fun s b₂ _ hs => .pure (by simpa using hs.1)

theorem branch : Runs b (r.branch ctx) fun c _ => casesFormed ctx [c] := by
  have tail : ∀ b₂ test, optFormed ctx test → Runs b₂ (do
      expectPunct .colon
      return (⟨test, ← r.branchBody ctx⟩ : SwitchCase)) fun c _ => casesFormed ctx [c] := by
    intro b₂ test ht
    refine (runs_expectPunct _ _).bind fun _ b₃ _ _ => ?_
    exact hr.branchBody.bind fun ss b₄ _ hss => .pure ⟨⟨ht, hss⟩, trivial⟩
  refine (runs_acceptKeyword _).bind fun ok b₁ _ _ => .ite (fun _ => tail b₁ none trivial) fun _ => ?_
  refine (runs_expectKeyword _).bind fun _ b₂ _ _ => ?_
  have htest : Runs b₂ (some <$> r.sequence ctx [.punct .colon]) fun o _ => optFormed ctx o :=
    .map ((hr.sequence _).mono fun _ _ _ h => h.1)
  exact htest.bind fun test b₃ _ ht => tail b₃ test ht

theorem switchStmt : Runs b (r.switchStmt ctx) fun s b' => s.Read ctx b' := by
  refine runs_spanning ?_
  refine (runs_expectKeyword _).bind fun _ b₁ _ _ => ?_
  refine hr.parenthesized.bind fun e b₂ _ he => ?_
  refine (runs_expectPunct _ _).bind fun _ b₃ _ _ => ?_
  refine (runs_collect_all (fun c => casesFormed ctx [c]) (fun b => ?_) _).bind
    fun cs b₄ _ hcs => .pure ⟨⟨he.1, casesFormed_of_forall hcs⟩, nofun⟩
  refine (runs_acceptPunct _ _).bind fun _ b₅ _ _ => .ite (fun _ => .pure (by simp)) fun _ => ?_
  exact hr.branch.bind fun c b₆ _ hc => .pure (by simpa using hc)

end Rules.Sound

namespace Rules.Sound

variable (hr : r.Sound)
include hr

/-! ### Simple statements -/

theorem ifStmt : Runs b (r.ifStmt ctx) fun s b' => s.Read ctx b' := by
  refine runs_spanning ?_
  refine (runs_expectKeyword _).bind fun _ b₁ _ _ => ?_
  refine hr.parenthesized.bind fun test b₂ _ ht => ?_
  refine (hr.stmt _ _).bind fun c b₃ _ hc => ?_
  refine (runs_acceptKeyword _).bind fun ok b₄ _ h₄ => ?_
  obtain ⟨hok, h₄⟩ := h₄
  cases ok with
  | false =>
    have h₄ : b₃.Consumes [] b₄ := h₄
    refine .pure ⟨⟨ht.1, hc.1, nofun, trivial⟩, fun _ => ?_⟩
    rw [h₄.upcoming]
    simpa using hok
  | true =>
    -- the `else` would have gone to an `if` at the end of the consequent
    have hclosed : c.endsWithOpenIf = false :=
      Bool.eq_false_iff.2 fun hopen => hc.2 hopen (by simpa using hok.symm)
    have halt : Runs b₄ (some <$> r.stmt ctx) fun o b' => ∃ s, o = some s ∧ s.Read ctx b' :=
      .map ((hr.stmt _ _).mono fun s _ _ h => ⟨s, rfl, h⟩)
    refine halt.bind fun o b₅ _ ho => .pure ?_
    obtain ⟨a, rfl, ha⟩ := ho
    exact ⟨⟨ht.1, hc.1, fun _ => hclosed, ha.1⟩, ha.2⟩

theorem whileStmt : Runs b (r.whileStmt ctx) fun s b' => s.Read ctx b' := by
  refine runs_spanning ?_
  refine (runs_expectKeyword _).bind fun _ b₁ _ _ => ?_
  refine hr.parenthesized.bind fun test b₂ _ ht => ?_
  exact (hr.stmt _ _).bind fun s b₃ _ hs => .pure ⟨⟨ht.1, hs.1⟩, hs.2⟩

theorem doWhileStmt : Runs b (r.doWhileStmt ctx) fun s b' => s.Read ctx b' := by
  refine runs_spanning ?_
  refine (runs_expectKeyword _).bind fun _ b₁ _ _ => ?_
  refine (hr.stmt _ _).bind fun s b₂ _ hs => ?_
  refine (runs_expectKeyword _).bind fun _ b₃ _ _ => ?_
  refine hr.parenthesized.bind fun test b₄ _ ht => ?_
  exact (runs_acceptPunct _ _).ignore.bind fun _ b₅ _ _ => .pure ⟨⟨hs.1, ht.1⟩, nofun⟩

theorem withStmt : Runs b (r.withStmt ctx) fun s b' => s.Read ctx b' := by
  refine runs_spanning ?_
  refine (runs_expectKeyword _).bind fun _ b₁ _ _ => ?_
  refine hr.parenthesized.bind fun e b₂ _ he => ?_
  exact (hr.stmt _ _).bind fun s b₃ _ hs => .pure ⟨⟨he.1, hs.1⟩, hs.2⟩

theorem returnStmt : Runs b (r.returnStmt ctx) fun s b' => s.Read ctx b' := by
  refine runs_spanning ?_
  refine (runs_expectKeyword _).bind fun _ b₁ _ _ => ?_
  refine (runs_peek _).bind fun t b₂ _ _ => ?_
  refine (runs_optionally (T := fun o _ => optFormed ctx o) _
    (fun _ => (hr.sequence _).mono fun _ _ _ h => h.1) fun _ => trivial).bind fun o b₃ _ ho => ?_
  exact runs_semicolon.bind fun _ b₄ _ _ => .pure ⟨ho, nofun⟩

theorem throwStmt : Runs b (r.throwStmt ctx) fun s b' => s.Read ctx b' := by
  refine runs_spanning ?_
  refine (runs_expectKeyword _).bind fun _ b₁ _ _ => ?_
  refine (runs_peek _).bind fun t b₂ _ _ => .ite (fun _ => .throw) fun _ => ?_
  refine (hr.sequence _).bind fun e b₃ _ he => ?_
  exact runs_semicolon.bind fun _ b₄ _ _ => .pure ⟨he.1, nofun⟩

theorem labelStmt (hname : ctx.isName (b.upcoming .standard).kind = true) :
    Runs b (r.labelStmt ctx) fun s b' => s.Read ctx b' := by
  refine runs_spanning ?_
  refine (runs_consume _).bind fun t b₁ _ h₁ => ?_
  obtain ⟨rfl, -⟩ := h₁
  refine (runs_expectPunct _ _).bind fun _ b₂ _ _ => ?_
  exact (hr.stmt _ _).bind fun s b₃ _ hs => .pure ⟨⟨names_upcoming hname, hs.1⟩, hs.2⟩

theorem exprStmt : Runs b (r.exprStmt ctx) fun s b' => s.Read ctx b' := by
  refine runs_spanning ?_
  refine (hr.sequence _).bind fun e b₁ _ he => ?_
  exact runs_semicolon.bind fun _ b₂ _ _ => .pure ⟨he.1, nofun⟩

theorem varStmt : Runs b (r.varStmt ctx) fun s b' => s.Read ctx b' := by
  have hdecl : Runs b (TokenParser.spanning (r.varDecl ctx false)) fun s _ =>
      s.Formed ctx ∧ s.endsWithOpenIf = false :=
    runs_spanning ((hr.varParts []).bind fun _ _ _ h => .pure ⟨h, rfl⟩)
  refine hdecl.bind fun s b₁ _ hs => runs_semicolon.bind fun _ b₂ _ _ => .pure ⟨hs.1, ?_⟩
  simp [hs.2]

theorem plainStmt (next : Token) :
    Runs b (r.plainStmt ctx (b.upcoming .standard) next) fun s b' => s.Read ctx b' := by
  refine .ite (fun _ => hr.varStmt) fun _ => .ite (fun _ => ?_) fun _ => ?_
  · exact runs_spanning ((hr.funcDecl false false nofun).mono fun _ _ _ h => h _)
  split
  · exact runs_spanning (hr.block.bind fun _ _ _ h => .pure ⟨h, nofun⟩)
  · exact runs_spanning ((hr.classDecl false false nofun).mono fun _ _ _ h => h _)
  · exact hr.forStmt
  · exact hr.ifStmt
  · exact hr.whileStmt
  · exact hr.doWhileStmt
  · exact hr.returnStmt
  · exact runs_jumpStmt _ fun _ _ h => ⟨h, rfl⟩
  · exact runs_jumpStmt _ fun _ _ h => ⟨h, rfl⟩
  · exact hr.throwStmt
  · exact hr.tryStmt
  · exact hr.switchStmt
  · exact hr.withStmt
  · refine runs_spanning ((runs_expectKeyword _).bind fun _ b₁ _ _ => ?_)
    exact runs_semicolon.bind fun _ _ _ _ => .pure ⟨trivial, nofun⟩
  · exact (runs_consume _).bind fun _ _ _ _ => .pure ⟨trivial, nofun⟩
  · refine .ite (fun h => hr.labelStmt ?_) fun _ => hr.exprStmt
    simp only [Bool.and_eq_true] at h
    exact h.1

end Rules.Sound

/-! ### Imports and exports -/

theorem runs_exchangedName : Runs b exchangedName fun n _ => n.Formed ∧
    ∀ name, n = .bare name → name = (b.upcoming .standard).text := by
  refine (runs_peek _).bind fun t b₁ _ h₁ => ?_
  obtain ⟨rfl, -⟩ := h₁
  refine .ite (fun _ => ?_) fun _ => .ite (fun hk => ?_) fun _ => .throw
  · exact runs_stringValue.bind fun _ _ _ _ => .pure ⟨trivial, nofun⟩
  · refine (runs_skip _).bind fun _ b₂ _ _ => .pure ⟨⟨_, ?_, isToken_upcoming rfl ?_⟩, ?_⟩
    · simpa using hk
    · intro hinv
      rw [hinv] at hk
      simp [TokenKind.isKeyword] at hk
    · rintro name hname
      exact (ModuleName.bare.inj hname).symm

theorem runs_importSpec : Runs b (importSpec ctx) fun s _ => s.Formed ctx := by
  refine (runs_peek _).bind fun t b₁ _ h₁ => ?_
  obtain ⟨rfl, h₁⟩ := h₁
  refine runs_exchangedName.bind fun n b₂ _ hn => ?_
  refine (runs_acceptWord _).bind fun _ b₃ _ _ => .ite (fun _ => ?_) fun _ => ?_
  · exact runs_bindingName.bind fun id _ _ hid => .pure ⟨hn.1, hid.1⟩
  cases n with
  | quoted name => exact .throw
  | bare name =>
    refine .ite (fun hname => .pure ⟨hn.1, rfl, ?_⟩) fun _ => .throw
    rw [hn.2 name rfl, h₁.upcoming]
    exact names_upcoming hname

theorem runs_exportSpec : Runs b exportSpec fun s _ => s.exported.Formed ∧ s.publicName.Formed := by
  refine runs_exchangedName.bind fun n b₁ _ hn => ?_
  refine (runs_acceptWord _).bind fun _ b₂ _ _ => .ite (fun _ => ?_) fun _ => ?_
  · exact runs_exchangedName.bind fun m _ _ hm => .pure ⟨hn.1, hm.1⟩
  · exact .pure ⟨hn.1, hn.1⟩

theorem runs_importNames : Runs b (r.importNames ctx) fun n _ => n.Formed ctx := by
  refine (runs_acceptPunct _ _).bind fun _ b₁ _ _ => .ite (fun _ => ?_) fun _ => ?_
  · refine (runs_expectWord _).ignore.bind fun _ b₂ _ _ => ?_
    exact runs_bindingName.bind fun id _ _ hid => .pure hid.1
  · refine (runs_expectPunct _ _).bind fun _ b₂ _ _ => ?_
    exact (runs_separated _ (fun b => runs_importSpec) _ _).bind fun _ _ _ h => .pure h

theorem runs_exportNames : Runs b (r.exportNames ctx) fun n _ => ∀ source : Option String,
    (∀ name, n = .all name → source.isSome = true) → n.Formed ctx source := by
  refine (runs_acceptPunct _ _).bind fun _ b₁ _ _ => .ite (fun _ => ?_) fun _ => ?_
  · refine (runs_acceptWord _).bind fun ok b₂ _ _ => ?_
    refine (runs_optionally (T := fun o _ => ∀ id ∈ o, id.Fresh ctx) ok
      (fun _ => runs_bindingName.mono fun id _ _ h => by simpa using h.1) fun _ => by simp).bind
      fun name b₃ _ hname => .pure fun source hsource => ⟨hsource name rfl, hname⟩
  · refine (runs_expectPunct _ _).bind fun _ b₂ _ _ => ?_
    exact (runs_separated _ (fun b => runs_exportSpec) _ _).bind fun _ _ _ h => .pure fun _ _ => h

namespace Rules.Sound

variable (hr : r.Sound)
include hr

theorem moduleSource : Runs b (r.moduleSource ctx) fun _ _ => True := by
  refine runs_stringValue.bind fun v b₁ _ _ => ?_
  have hskip : Runs b₁ (r.skipAttributes ctx) fun _ _ => True := by
    refine (runs_peek _).bind fun t b₂ _ _ => .ite (fun _ => ?_) fun _ => .pure trivial
    exact (runs_skip _).bind fun _ b₃ _ _ => hr.objMembers.ignore
  exact hskip.bind fun _ _ _ _ => .pure trivial

theorem importStmt : Runs b (r.importStmt ctx) fun s b' => s.Read ctx b' := by
  refine runs_spanning ?_
  refine (runs_expectKeyword _).bind fun _ b₁ _ _ => ?_
  refine (runs_peekKind _).bind fun _ b₂ _ _ => .ite (fun _ => ?_) fun _ => ?_
  · refine hr.moduleSource.bind fun m b₃ _ _ => ?_
    exact runs_semicolon.bind fun _ _ _ _ => .pure ⟨⟨by simp, by simp⟩, nofun⟩
  refine (runs_peekKind _).bind fun kind b₃ _ _ => ?_
  refine (runs_optionally (T := fun o _ => ∀ id ∈ o, id.Fresh ctx) _
    (fun _ => runs_bindingName.mono fun id _ _ h => by simpa using h.1) fun _ => by simp).bind
    fun d b₄ _ hd => ?_
  have hnames : ∀ b₅ flag, Runs b₅ (do
      let names ← optionally flag (r.importNames ctx)
      discard (expectWord "from")
      let module ← r.moduleSource ctx
      semicolon
      return fun loc => Stmt.importDecl loc (d.map .ident) names module) fun build b' =>
        (build (b'.since b.mark)).Read ctx b' := by
    intro b₅ flag
    refine (runs_optionally (T := fun o _ => ∀ n ∈ o, n.Formed ctx) flag
      (fun _ => runs_importNames.mono fun n _ _ h => by simpa using h) fun _ => by simp).bind
      fun names b₆ _ hn => ?_
    refine (runs_expectWord _).ignore.bind fun _ b₇ _ _ => ?_
    refine hr.moduleSource.bind fun m b₈ _ _ => ?_
    refine runs_semicolon.bind fun _ _ _ _ => .pure ⟨⟨?_, hn⟩, nofun⟩
    cases d with
    | none => simp
    | some id =>
      rintro p hp
      obtain rfl := Option.some.inj hp
      exact hd id rfl
  cases d with
  | none => exact hnames b₄ true
  | some id => exact (runs_acceptPunct _ _).bind fun ok b₅ _ _ => hnames b₅ ok

theorem exportList : Runs b (r.exportList ctx) fun build b' => ∀ loc, (build loc).Read ctx b' := by
  refine runs_exportNames.bind fun names b₁ _ hn => ?_
  refine (runs_acceptWord _).bind fun ok b₂ _ _ => ?_
  refine (runs_optionally (T := fun _ _ => True) ok (fun _ => hr.moduleSource) fun _ => trivial).bind
    fun source b₃ _ _ => ?_
  split
  · exact (runs_peek _).bind fun _ _ _ _ => .throw
  · next hsource =>
    refine runs_semicolon.bind fun _ _ _ _ => .pure fun loc => ⟨hn source ?_, nofun⟩
    rintro name rfl
    cases source with
    | none => exact absurd rfl (hsource name rfl)
    | some _ => rfl

theorem exportDefault : Runs b (r.exportDefault ctx) fun build b' =>
    ∀ loc, (build loc).Read ctx b' := by
  refine runs_peekTwo.bind fun ts b₁ _ _ => .ite (fun _ => hr.funcDecl _ _ fun _ => rfl) fun _ => ?_
  refine .ite (fun _ => hr.classDecl _ _ fun _ => rfl) fun _ => ?_
  refine (hr.assignment _).bind fun e b₂ _ he => ?_
  exact runs_semicolon.bind fun _ _ _ _ => .pure fun _ => ⟨he.1, nofun⟩

theorem exportDecl (t next : Token) : Runs b (r.exportDecl ctx t next) fun build b' =>
    ∀ loc, (build loc).Read ctx b' := by
  refine .ite (fun _ => hr.funcDecl _ _ nofun) fun _ => ?_
  have hdecl : Runs b (do
      let decl ← r.varDecl ctx true
      semicolon
      return decl) fun build b' => ∀ loc, (build loc).Read ctx b' := by
    refine (?_ : Runs b (r.varDecl ctx true) fun build _ => ∀ loc,
      (build loc).Formed ctx ∧ (build loc).endsWithOpenIf = false).bind fun build b₁ _ hb => ?_
    · exact (hr.varParts []).bind fun _ _ _ h => .pure fun _ => ⟨h, rfl⟩
    · refine runs_semicolon.bind fun _ _ _ _ => .pure fun loc => ⟨(hb loc).1, ?_⟩
      simp [(hb loc).2]
  split
  · exact hdecl
  · exact hdecl
  · exact hdecl
  · exact hr.classDecl _ _ nofun
  · exact .throw

theorem exportStmt : Runs b (r.exportStmt ctx) fun s b' => s.Read ctx b' := by
  refine runs_spanning ?_
  refine (runs_expectKeyword _).bind fun _ b₁ _ _ => ?_
  refine runs_peekTwo.bind fun ts b₂ _ _ => ?_
  obtain ⟨t, next⟩ := ts
  dsimp only
  split
  · refine (runs_skip _).bind fun _ b₃ _ _ => ?_
    exact hr.exportDefault.mono fun _ _ _ h => h _
  · exact hr.exportList.mono fun _ _ _ h => h _
  · exact hr.exportList.mono fun _ _ _ h => h _
  · exact (hr.exportDecl _ _).mono fun _ _ _ h => h _

theorem statement : Runs b (r.statement ctx) fun s b' => s.Read ctx b' := by
  refine runs_peekTwo.bind fun ts b₁ _ h₁ => ?_
  obtain ⟨rfl, h₁⟩ := h₁
  dsimp only
  split
  · exact .ite (fun _ => hr.exprStmt) fun _ => hr.importStmt
  · exact hr.exportStmt
  · rw [← h₁.upcoming]
    exact hr.plainStmt _

end Rules.Sound

/-! ### Modules -/

theorem Rules.sound_step (hr : r.Sound) : r.step.Sound where
  expr _ _ _ _ := hr.operatorExpr _ _
  operand _ _ _ := (hr.operandExpr _).mono fun _ _ _ h => h.1
  construct _ _ := hr.constructExpr.mono fun _ _ _ h => h.1
  pat _ _ := hr.pattern
  stmt _ _ := hr.statement
  elem _ _ := hr.element

theorem sound_grammar (length : Nat) : (grammar length).Sound := by
  unfold grammar
  generalize 2 * length + 8 = n
  induction n with
  | zero => exact Rules.sound_exhausted
  | succ n ih => exact Rules.sound_step ih

/-- Every module that is read is formed. -/
theorem formed_of_parse {source : String} {p : Program} (h : Program.parse source = .ok p) :
    stmtsFormed .top p.body := by
  have hrun : Runs (.ofString source) (grammar source.length).program fun ss _ =>
      stmtsFormed .top ss := by
    refine ((sound_grammar _).stmtsUntil .eof).bind fun ss b₁ _ hss => ?_
    exact (runs_expect _ _).ignore.bind fun _ _ _ _ => .pure (stmtsFormed_of_forall hss)
  have hout := hrun (.refl (TokenBuffer.coherent_ofString source))
  unfold Program.parse at h
  split at h
  · next body buffer heq =>
    rw [heq] at hout
    cases h
    exact hout.2
  · exact nomatch h

end ImportSeam
