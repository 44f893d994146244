import ImportSeam.Proofs.Reread.Expression

/-!
# Printed formulas are modules of one statement

A formula that is printed as a statement does not start like any other kind of statement, and the
semicolon behind it ends what is read for it.

## Main definitions

* `Expr.SpelledBy` — a text that is read as an expression where a semicolon stands behind it.
* `ReadAsStmt` — a text that is read as one statement.
* `mixedFormula` — a formula whose parentheses are there for many reasons.

## Main results

* `Rules.succeeds_exprStmt` — an expression with a semicolon.
* `parse_single`, `parse_spelled` — a source of one statement, or of one expression.
* `Stmt.parse_print_formula` — **what is printed for a formula is read as the formula.**
-/

namespace ImportSeam

open TokenParser Rules Layout

variable {b : TokenBuffer} {n : Nat} {text rest : List Char} {e : Expr}

/-! ### The statement -/

theorem stands_semicolon (rest : List Char) : Punctuator.semicolon.Stands rest := fun _ _ => rfl

theorem succeeds_semicolon (h : b.At (';' :: rest)) :
    Succeeds b semicolon fun _ b' => b'.At rest := by
  have hl : LexesTo .standard (';' :: rest) (.punct .semicolon) ";" rest :=
    lexesTo_punct (stands_semicolon rest)
  refine (succeeds_peek h hl rfl).bind fun t b₁ _ h₁ => ?_
  obtain ⟨ht, -, h₁⟩ := h₁
  refine .ite (fun _ => (succeeds_skip h₁ hl rfl (solid_punct _)).mono fun _ _ _ h => h.1)
    fun hnot => absurd ?_ hnot
  rw [ht.kind_eq]
  rfl

/-- The statement is the expression but for its locations, and the text stands behind it. -/
def Expr.RereadStmt (e : Expr) (rest : List Char) (s : Stmt) (b' : TokenBuffer) : Prop :=
  (∃ loc e', s = .expr loc e' ∧ e'.unlocated = e.unlocated) ∧ b'.At rest

/-- Where a semicolon stands behind it, the text is read as the expression, and it begins like one. -/
structure Expr.SpelledBy (e : Expr) (text : List Char) : Prop where
  opening (rest : List Char) : Opening (text ++ ';' :: rest) (.punct .semicolon)
  reads {n : Nat} {b : TokenBuffer} {rest : List Char} (hn : 2 * b.left + 2 ≤ n)
    (h : b.At (text ++ ';' :: rest)) :
    Succeeds b ((level n).expr .top 1 []) (e.Reread (';' :: rest))

/-- A formula is spelled by what is printed for it. -/
theorem Expr.IsFormula.spelledBy_placed (he : e.IsFormula) (wrap : Bool) :
    e.SpelledBy (e.placed wrap 0) where
  opening _ := Expr.opening_placed (he.opening (follows_punct (stands_semicolon _))) wrap 0
  reads hn h := he.reads.operand he hn h (follows_punct (stands_semicolon _)) (Nat.le_refl 1)
    (by decide) nofun (by decide)

/-- An expression with a semicolon. -/
theorem Rules.succeeds_exprStmt (he : e.SpelledBy text) (hn : 2 * b.left + 2 ≤ n)
    (h : b.At (text ++ ';' :: rest)) :
    Succeeds b ((level n).exprStmt .top) (e.RereadStmt rest) := by
  refine succeeds_spanning ?_
  refine (he.reads hn h).bind fun e' b₁ _ he' => ?_
  refine (succeeds_semicolon he'.stands).bind fun _ b₂ _ h₂ => .pure fun loc => ?_
  exact ⟨⟨loc, e', rfl, he'.same⟩, h₂⟩

/-- The tokens that a formula can start with. -/
def openingKinds : List TokenKind :=
  [.ident, .keyword .kThis, .keyword .kAwait, .keyword .kDelete, .keyword .kTypeof, .keyword .kVoid,
    .punct .lParen, .punct .bang, .punct .minus, .punct .minusMinus, .punct .plus, .punct .plusPlus,
    .punct .tilde]

theorem mem_openingKinds {kind : TokenKind} (h : kind.opens = true) : kind ∈ openingKinds := by
  cases kind with
  | ident => decide
  | keyword k => cases k <;> first | decide | exact absurd h Bool.false_ne_true
  | punct p => cases p <;> first | decide | exact absurd h Bool.false_ne_true
  | _ => exact absurd h Bool.false_ne_true

/-- Behind these first two tokens stands an expression. -/
structure OpensExpr (t next : Token) : Prop where
  opens : t.kind.opens = true
  no_label : t.kind = .ident → next.kind ≠ .punct .colon
  no_function : t.kind = .ident → next.kind ≠ .keyword .kFunction

/-- The first two tokens make no other statement of an expression. -/
theorem Rules.plainStmt_eq {t next : Token} (h : OpensExpr t next) (r : Rules) :
    r.plainStmt .top t next = r.exprStmt .top := by
  have hmem := mem_openingKinds h.opens
  have hasync : startsFunc t next = false := by
    rw [startsFunc, Bool.or_eq_false_iff]
    constructor
    · rw [beq_eq_false_iff_ne]
      intro hk
      rw [hk] at hmem
      exact absurd hmem (by decide)
    · by_cases hk : t.kind = .ident
      · simp [h.no_function hk]
      · simp [Token.isWord, hk]
  have hlabel : (Context.top.isName t.kind && next.kind == .punct .colon) = false := by
    by_cases hk : t.kind = .ident
    · simp [h.no_label hk]
    · have hname : ∀ kind ∈ openingKinds, kind = .ident ∨ Context.top.isName kind = false := by
        decide
      rw [(hname _ hmem).resolve_left hk, Bool.false_and]
  unfold plainStmt startsVarDecl
  rw [hasync]
  simp only [openingKinds, List.mem_cons, List.not_mem_nil, or_false] at hmem
  rcases hmem with hk | hk | hk | hk | hk | hk | hk | hk | hk | hk | hk | hk | hk <;>
    (rw [hk] at hlabel ⊢; simp only [hlabel]; rfl)

/-- A statement that is neither an import nor an export is read by its first two tokens. -/
theorem Rules.succeeds_of_plainStmt {r : Rules} {Q : Stmt → TokenBuffer → Prop}
    (hfirst : (b.upcoming .standard).kind ∉ [.keyword .kImport, .keyword .kExport])
    (hplain : ∀ b₁, b.Consumes [] b₁ →
      Succeeds b₁ (r.plainStmt .top (b.upcoming .standard) b.second) Q) :
    Succeeds b (r.statement .top) Q := by
  refine succeeds_peekTwo.bind fun ts b₁ _ h₁ => ?_
  obtain ⟨rfl, hc⟩ := h₁
  dsimp only
  split
  · next hk => exact absurd hk fun hk => hfirst (by simp [hk])
  · next hk => exact absurd hk fun hk => hfirst (by simp [hk])
  · exact hplain b₁ hc

/-- **An expression is a statement** with the semicolon behind it. -/
theorem Rules.succeeds_statement (he : e.SpelledBy text) (hn : 2 * b.left + 2 ≤ n)
    (h : b.At (text ++ ';' :: rest)) :
    Succeeds b ((level n).statement .top) (e.RereadStmt rest) := by
  have hopens : OpensExpr (b.upcoming .standard) b.second := by
    rcases he.opening rest with ⟨hl, hf', hnext⟩ | ⟨hl, hk, hne⟩
    · obtain ⟨text', rest', hl'⟩ := hf'.lexes
      have hfirst := h.upcoming_matches hl rfl
      have hsecond := h.near.second_matches hl hl'
      refine ⟨by rw [hfirst.kind_eq]; rfl, fun _ => ?_, fun _ => ?_⟩
      · rw [hsecond.kind_eq]
        rintro rfl
        exact absurd hnext (by decide)
      · rw [hsecond.kind_eq]
        exact hf'.ne_function
    · have hfirst := (h.upcoming_matches hl rfl).kind_eq
      rw [← hfirst] at hk hne
      exact ⟨hk, fun hk => absurd hk hne, fun hk => absurd hk hne⟩
  have hplain : ∀ kind ∈ openingKinds, kind ∉ [.keyword .kImport, .keyword .kExport] := by decide
  refine succeeds_of_plainStmt (hplain _ (mem_openingKinds hopens.opens)) fun b₁ hc => ?_
  have hle := hc.left_le
  rw [plainStmt_eq hopens]
  exact succeeds_exprStmt he (by omega) (h.of_nil hc)

/-! ### Statements in a row -/

section

variable {α : Type} {m : Nat} {item? : TokenParser (Option α)} {T : TokenBuffer → Prop}
  {Q : α → TokenBuffer → Prop} {S : List α → TokenBuffer → Prop}

theorem succeeds_collect_none (h : Succeeds b item? fun o b' => o = none ∧ T b') :
    Succeeds b (collect (m + 1) item?) fun l b' => l = [] ∧ T b' := by
  refine h.bind fun o b₁ _ h₁ => ?_
  obtain ⟨rfl, h₁⟩ := h₁
  exact .pure ⟨rfl, h₁⟩

theorem succeeds_collect_some (h : Succeeds b item? fun o b' => ∃ a, o = some a ∧ Q a b')
    (hrest : ∀ a b', b.Keeps b' → Q a b' →
      Succeeds b' (collect m item?) fun l b'' => S (a :: l) b'') :
    Succeeds b (collect (m + 1) item?) S := by
  refine h.bind fun o b₁ hb₁ h₁ => ?_
  obtain ⟨a, rfl, ha⟩ := h₁
  exact (hrest a b₁ hb₁ ha).bind fun l b₂ _ hl => .pure hl

end

/-- A statement, unless the token is next that ends the statements. -/
def Rules.stmtBefore? (r : Rules) (ctx : Context) (stop : TokenKind) :
    TokenParser (Option Stmt) := do
  let t ← peek
  if t.kind == stop then return none
  if t.kind == .eof then throw (t.error .unexpectedEnd)
  return some (← r.stmt ctx)

theorem Rules.stmtsUntil_eq (r : Rules) (ctx : Context) (stop : TokenKind) :
    r.stmtsUntil ctx stop = collect r.depth (r.stmtBefore? ctx stop) := rfl

theorem Rules.succeeds_stmtBefore? {r : Rules} {stop : TokenKind} {Q : Stmt → TokenBuffer → Prop}
    (hnext : (b.upcoming .standard).kind ∉ [stop, .eof])
    (hs : ∀ b₁, b.Consumes [] b₁ → Succeeds b₁ (r.stmt .top) Q) :
    Succeeds b (r.stmtBefore? .top stop) fun o b' => ∃ s, o = some s ∧ Q s b' := by
  simp only [List.mem_cons, List.not_mem_nil, or_false, not_or] at hnext
  refine (succeeds_peek_any .standard).bind fun t b₁ _ h₁ => ?_
  obtain ⟨rfl, h₁⟩ := h₁
  refine .ite (fun hstop => absurd (by simpa using hstop) hnext.1) fun _ => ?_
  refine .ite (fun heof => absurd (by simpa using heof) hnext.2) fun _ => ?_
  exact (hs b₁ h₁).bind fun s b₂ _ hQ => .pure ⟨s, rfl, hQ⟩

theorem Rules.succeeds_stmtBefore?_stop {r : Rules} {stop : TokenKind}
    (hnext : (b.upcoming .standard).kind = stop) :
    Succeeds b (r.stmtBefore? .top stop) fun o b' => o = none ∧ b.Consumes [] b' := by
  refine (succeeds_peek_any .standard).bind fun t b₁ _ h₁ => ?_
  obtain ⟨rfl, h₁⟩ := h₁
  exact .ite (fun _ => .pure ⟨rfl, h₁⟩) fun hne => absurd (by simp [hnext]) hne

/-! ### The module -/

/-- At the end of the text the end of the source is read. -/
theorem lexesTo_end : LexesTo .standard [] .eof "" [] := by
  have hgap : NoTrivia ("".toList ++ []) := fun offset => by rw [skipTrivia.eq_def]; rfl
  have hend : LexesTo .standard ("".toList ++ []) .eof "" [] := .token hgap rfl
  exact hend

/-- The text is read as a statement that has the property, and nothing is left behind it. -/
structure ReadAsStmt (text : List Char) (Q : Stmt → Prop) : Prop where
  opens : ∃ kind first rest, LexesTo .standard text kind first rest ∧ kind ≠ .eof
  reads {n : Nat} {b : TokenBuffer} (hn : 2 * b.left + 2 ≤ n) (h : b.At text) :
    Succeeds b ((level n).statement .top) fun s b' => Q s ∧ b'.At []

/-- A module of one statement: behind it nothing is left. -/
theorem Rules.succeeds_program {Q : Stmt → Prop} (hs : ReadAsStmt text Q)
    (hn : 2 * b.left + 2 ≤ n) (h : b.At text) :
    Succeeds b (level (n + 1)).program fun body _ => ∃ s, body = [s] ∧ Q s := by
  have hstmts : Succeeds b ((level (n + 1)).stmtsUntil .top .eof) fun body b' =>
      (∃ s, body = [s] ∧ Q s) ∧ b'.At [] := by
    obtain ⟨kind, first, rest, hl, hopens⟩ := hs.opens
    have hnext : (b.upcoming .standard).kind ∉ [.eof, .eof] := by
      rw [(h.upcoming_matches hl rfl).kind_eq]
      simpa using hopens
    obtain ⟨n, rfl⟩ : ∃ k, n = k + 1 := Nat.exists_eq_add_of_le' (by omega)
    rw [stmtsUntil_eq, level_depth]
    have hread : ∀ b₁, b.Consumes [] b₁ →
        Succeeds b₁ ((level (n + 1 + 1)).stmt .top) fun s b' => Q s ∧ b'.At [] := fun b₁ h₁ => by
      have hle := h₁.left_le
      exact hs.reads (by omega) (h.of_nil h₁)
    -- the first round reads the statement, and the second finds the end of the source
    refine succeeds_collect_some (succeeds_stmtBefore? hnext hread) fun s b₁ _ h₁ => ?_
    have hend := (h₁.2.upcoming_matches lexesTo_end rfl).kind_eq
    refine (succeeds_collect_none (succeeds_stmtBefore?_stop hend)).mono fun l b₂ _ h₂ => ?_
    obtain ⟨rfl, h₂⟩ := h₂
    exact ⟨⟨s, rfl, h₁.1⟩, h₁.2.of_nil h₂⟩
  refine hstmts.bind fun body b₁ _ h₁ => ?_
  have hend : Succeeds b₁ (expect .eof) fun _ _ => True := by
    refine (succeeds_consume_any .standard).bind fun t b₂ _ h₂ => ?_
    refine .ite (fun _ => .pure trivial) fun hnot => absurd ?_ hnot
    rw [h₂.1, (h₁.2.upcoming_matches lexesTo_end rfl).kind_eq]
    rfl
  exact hend.discard.bind fun _ b₂ _ _ => .pure h₁.1

/-- **A source of one statement**, in which no arrow stands. -/
theorem parse_single {source : String} {Q : Stmt → Prop} (hs : ReadAsStmt source.toList Q)
    (hplain : Arrowless source.toList) :
    ∃ p, Program.parse source = .ok p ∧ ∃ s, p.body = [s] ∧ Q s := by
  have hat : (TokenBuffer.ofString source).At source.toList := ⟨⟨0, rfl⟩, hplain⟩
  have hleft : (TokenBuffer.ofString source).left = source.length := source.length_toList
  have hn : 2 * (TokenBuffer.ofString source).left + 2 ≤ 2 * source.length + 7 := by omega
  obtain ⟨body, b, hparse, -, hbody⟩ :=
    succeeds_program hs hn hat (.refl (TokenBuffer.coherent_ofString source))
  refine ⟨⟨⟨0, source.utf8ByteSize⟩, body, b.comments⟩, ?_, hbody⟩
  have hgrammar : grammar source.length = level (2 * source.length + 7 + 1) := rfl
  rw [Program.parse, hgrammar, hparse]

/-- A source of one expression with a semicolon. -/
theorem parse_spelled {source : String} (he : e.SpelledBy text)
    (hsource : source.toList = text ++ [';']) (hplain : Arrowless source.toList) :
    ∃ p, Program.parse source = .ok p ∧
      ∃ loc e', p.body = [.expr loc e'] ∧ e'.unlocated = e.unlocated := by
  have hs : ReadAsStmt source.toList fun s =>
      ∃ loc e', s = .expr loc e' ∧ e'.unlocated = e.unlocated := by
    rw [hsource]
    refine ⟨?_, fun hn h => succeeds_statement he hn h⟩
    obtain ⟨kind, first, rest, hl, hopens⟩ := (he.opening []).exists_token
    refine ⟨kind, first, rest, hl, ?_⟩
    rintro rfl
    exact absurd hopens (by decide)
  obtain ⟨p, hparse, s, hbody, loc, e', rfl, hsame⟩ := parse_single hs hplain
  exact ⟨p, hparse, loc, e', hbody, hsame⟩

theorem Stmt.toList_print_expr (loc : Loc) (e : Expr) :
    (Stmt.expr loc e).print.toList = e.placed e.isAmbiguousStart 0 ++ [';'] := by
  have hbare : (Stmt.expr loc e).bare 0 =
      operandOr e.isAmbiguousStart 0 e (e.bare 0) ++ word ";" := rfl
  have hline : (line 0 (.expr loc e) ((Stmt.expr loc e).bare 0)).chars =
      ((Stmt.expr loc e).bare 0).chars := rfl
  rw [Stmt.print, toList_render, hline, hbare, chars_append, Expr.chars_operandOr, chars_word]
  rfl

/-- **What is printed for a formula is read as the formula**, but for its locations: a statement of
the formula is printed as a module that holds just that statement. -/
theorem Stmt.parse_print_formula (loc : Loc) {e : Expr} (he : e.IsFormula) :
    ∃ p, Program.parse (Stmt.expr loc e).print = .ok p ∧
      ∃ loc' e', p.body = [.expr loc' e'] ∧ e'.unlocated = e.unlocated := by
  have hprint := Stmt.toList_print_expr loc e
  refine parse_spelled (he.spelledBy_placed e.isAmbiguousStart) hprint ?_
  rw [hprint]
  exact ((Expr.plain_placed he.plain_chars _ _).append (.of_all (by decide))).arrowless

/-! ### A formula with parentheses of every kind -/

/-- A name of the formula. -/
def formulaName (name : String) : Expr := .ident ⟨name, .point 0, .unknown⟩

/-- A formula whose parentheses are there because of precedence, of a mixture of `??` with `&&` and
of the base of a power; the signs in its key would run together, and its call looks like the
parameters of an arrow. -/
def mixedFormula : Expr :=
  let loc := Loc.point 0
  let power := Expr.binary loc .exponentiation (.unary loc .unaryNegation (formulaName "x"))
    (.update loc .postfixIncrement (formulaName "y"))
  let call := Expr.call loc false (formulaName "async")
    [⟨true, formulaName "p"⟩, ⟨false, .binary loc .comma (formulaName "q") (formulaName "r")⟩]
  let key := Expr.binary loc .assignAddition (.target (.ident ⟨"t", loc, .unknown⟩))
    (.unary loc .unaryNegation (.unary loc .prefixDecrement
      (.member loc false (.binary loc .inOp (formulaName "u") (formulaName "v")) "in")))
  .binary loc .comma
    (.binary loc .assign (.target (.ident ⟨"a", loc, .unknown⟩))
      (.binary loc .nullishCoalescing (formulaName "b")
        (.binary loc .logicalAnd (formulaName "c") (formulaName "d"))))
    (.cond loc power call (.index loc true (.this loc) key))

example : (Stmt.expr (.point 0) mixedFormula).print =
    "a = b ?? (c && d), (-x) ** y++ ? async(...p, (q, r)) : this?.[t += - --(u in v).in];" := by
  rfl

theorem isFormula_name {name : String} (h : Text.isIdentifierName name = true)
    (hk : Keyword.ofWord? name = none) : (formulaName name).IsFormula :=
  .ident (isToken_ident h hk)

theorem mixedFormula_isFormula : mixedFormula.IsFormula := by
  have hname : ∀ name ∈ ["a", "b", "c", "d", "x", "y", "p", "q", "r", "t", "u", "v", "async"],
      Text.isIdentifierName name = true ∧ Keyword.ofWord? name = none := by
    decide
  have name : ∀ name ∈ ["a", "b", "c", "d", "x", "y", "p", "q", "r", "t", "u", "v", "async"],
      (formulaName name).IsFormula := fun name h => isFormula_name (hname name h).1 (hname name h).2
  refine .binary _ rfl (.assignName _ rfl ?_ ?_) (.cond _ ?_ ?_ (.index _ _ (.this _) ?_))
  · exact isToken_ident (hname "a" (by decide)).1 (hname "a" (by decide)).2
  · -- a mixture of `??` with `&&`
    have hright := name "c" (by decide)
    exact .binary _ rfl (name _ (by decide)) (.binary _ rfl hright (name _ (by decide)))
  · -- the base of a power
    exact .binary _ rfl (.unary _ rfl (name _ (by decide))) (.update _ rfl (name _ (by decide)))
  · -- the arguments
    refine .call _ _ (name _ (by decide)) ?_
    simp only [List.mem_cons, List.not_mem_nil, or_false, forall_eq_or_imp, forall_eq]
    exact ⟨name _ (by decide), .binary _ rfl (name _ (by decide)) (name _ (by decide))⟩
  · -- the key
    have hin : IsMemberName "in" := ⟨_, rfl, isToken_keyword .kIn⟩
    refine .assignName _ rfl ?_ (.unary _ rfl (.unary _ rfl (.member _ _ ?_ hin)))
    · exact isToken_ident (hname "t" (by decide)).1 (hname "t" (by decide)).2
    · exact .binary _ rfl (name _ (by decide)) (name _ (by decide))

/-- The formula is read again from what is printed for it. -/
theorem mixedFormula_reread : mixedFormula.IsFormula ∧
    ∃ p, Program.parse (Stmt.expr (.point 0) mixedFormula).print = .ok p ∧
      ∃ loc' e', p.body = [.expr loc' e'] ∧ e'.unlocated = mixedFormula.unlocated :=
  ⟨mixedFormula_isFormula, Stmt.parse_print_formula (.point 0) mixedFormula_isFormula⟩

end ImportSeam
