import ImportSeam.Proofs.Cover.Statements
import ImportSeam.Proofs.Reread.Answer
import ImportSeam.Proofs.Reread.Expression

/-!
# Literals in the place of patterns

Where a pattern is read in front of one tail, an expression can be read in front of the other.  A
name, an array pattern and an object pattern become a name, an array literal and an object literal,
and a default value becomes the right side of an assignment.  What was read as a literal is the
pattern again when it is taken apart.

## Main definitions

* `Expr.Covers`, `Expr.CoversBinder` — expressions that stand for a pattern.

## Main results

* `answers_operandName` — a name is read as an operand.
* `answers_operatorExpr` — an operand is a whole expression in front of what ends it.
* `answers_assign` — a default value is read as the right side of an assignment.
-/

namespace ImportSeam

open TokenParser TokenBuffer

variable {ctx : Context} {r r' : Rules} {w w' : List Char} {b b' c : TokenBuffer}
  {ends : List TokenKind} {least : Nat}

/-! ### Expressions that stand for patterns -/

/-- The expression is a name or a literal, and it is the pattern when it is taken apart. -/
def Expr.Covers (e : Expr) (p : Pat) : Prop :=
  ∃ p', e.toPat = .ok p' ∧ e.toTarget .assign = .ok (.target p') ∧ p'.unmarked = p.unmarked

/-- The expression is the pattern with its default value when it is taken apart. -/
def Expr.CoversBinder (e : Expr) (x : Binder) : Prop :=
  ∃ x', e.toBinder = .ok x' ∧ x'.unmarked = x.unmarked

/-- The elements of a literal are those of a pattern, with what takes the rest. -/
def ElemsCover (es : List ArrayElem) (ps : List (Option Binder) × Option Pat) : Prop :=
  ∀ loc, ∃ ps', elemsToPats loc es = .ok ps' ∧
    Prod.map elemPatsUnmarked optPatUnmarked ps' = Prod.map elemPatsUnmarked optPatUnmarked ps

theorem Expr.covers_ident {id id' : Ident} (h : id'.unmarked = id.unmarked) :
    (Expr.ident id').Covers (.ident id) :=
  ⟨.ident id', rfl, rfl, congrArg Pat.ident h⟩

theorem Expr.covers_array {loc loc' : Loc} {es : List ArrayElem}
    {ps : List (Option Binder) × Option Pat} (h : ElemsCover es ps) :
    (Expr.array loc' es).Covers (.array loc ps.1 ps.2) := by
  obtain ⟨ps', hes, hps⟩ := h loc'
  have hpat := Expr.toPat_array hes
  refine ⟨_, hpat, Expr.toTarget_of_literal hpat (.inl ⟨loc', es, rfl⟩), ?_⟩
  obtain ⟨helems, hrest⟩ := Prod.mk.inj hps
  exact congrArg₂ (Pat.array _) helems hrest

theorem Expr.Covers.binder {e : Expr} {p : Pat} (h : e.Covers p) : e.CoversBinder ⟨p, none⟩ := by
  obtain ⟨p', hp', -, hp⟩ := h
  exact ⟨⟨p', none⟩, Expr.toBinder_of_toPat hp', Binder.unmarked_congr hp rfl⟩

theorem Expr.coversBinder_assign {loc : Loc} {p p' : Pat} {v v' : Expr}
    (hp : p'.unmarked = p.unmarked) (hv : v'.unmarked = v.unmarked) :
    (Expr.binary loc .assign (.target p') v').CoversBinder ⟨p, some v⟩ := by
  exact ⟨⟨p', some v'⟩, Expr.toBinder_assign rfl, Binder.unmarked_congr hp (congrArg some hv)⟩

namespace ElemsCover

variable {es : List ArrayElem} {ps : List (Option Binder) × Option Pat}

theorem nil : ElemsCover [] ([], none) := fun _ => ⟨_, rfl, rfl⟩

theorem hole (h : ElemsCover es ps) : ElemsCover (.hole :: es) (none :: ps.1, ps.2) := by
  intro loc
  obtain ⟨ps', hes, hps⟩ := h loc
  obtain ⟨helems, hrest⟩ := Prod.mk.inj hps
  exact ⟨_, elemsToPats_hole hes, Prod.ext (congrArg (List.cons none) helems) hrest⟩

theorem item {e : Expr} {x : Binder} (he : e.CoversBinder x) (h : ElemsCover es ps) :
    ElemsCover (.item e :: es) (some x :: ps.1, ps.2) := by
  intro loc
  obtain ⟨ps', hes, hps⟩ := h loc
  obtain ⟨helems, hrest⟩ := Prod.mk.inj hps
  obtain ⟨x', hx', hx⟩ := he
  refine ⟨_, elemsToPats_item hx' hes, Prod.ext ?_ hrest⟩
  exact congrArg₂ List.cons (congrArg some hx) helems

theorem spread {e : Expr} {p : Pat} (he : e.Covers p) : ElemsCover [.spread e] ([], some p) := by
  intro loc
  obtain ⟨p', hp', -, hp⟩ := he
  exact ⟨_, elemsToPats_spread hp', Prod.ext rfl (congrArg some hp)⟩

end ElemsCover

/-! ### Tokens before an operand -/

/-- Only a slash starts another token where an operand is expected. -/
theorem scan_operand_of_ne {d : Char} {cs : List Char} (hd : d ≠ '/') :
    scan .operand (d :: cs) = scan .standard (d :: cs) := by
  have htag : (LexMode.standard == LexMode.jsxTag) = (LexMode.operand == LexMode.jsxTag) := rfl
  simp [scan, Scan.ordinary, hd, htag]

theorem TokenBuffer.upcoming_operand_of_ne {d : Char} {cs : List Char} (hd : d ≠ '/')
    (h : (LexMode.trivia .standard b.position).stop.rest = d :: cs) :
    b.upcoming .operand = b.upcoming .standard := by
  have htrivia : LexMode.trivia .operand = LexMode.trivia .standard := rfl
  have hscan : scan .operand (d :: cs) = scan .standard (d :: cs) := scan_operand_of_ne hd
  rw [← h] at hscan
  simp only [TokenBuffer.upcoming, readToken, htrivia, hscan]

theorem TokenBuffer.upcoming_operand_of_name (h : ctx.isName (b.upcoming .standard).kind = true) :
    b.upcoming .operand = b.upcoming .standard := by
  have hmember : isMemberName (b.upcoming .standard).kind = true := by
    revert h
    cases (b.upcoming .standard).kind <;> first | exact fun _ => rfl | exact fun h => nomatch h
  have hscan := scan_kind_of_upcoming rfl (Context.ne_invalid_of_isName h)
  obtain ⟨d, cs, hrest, hd⟩ := Scan.cons_of_isMemberName hscan hmember
  exact upcoming_operand_of_ne (StartsWord.ne hd (by decide)) hrest

theorem TokenBuffer.upcoming_operand_of_punct {q : Punctuator} {d : Char} {cs : List Char}
    (h : (b.upcoming .standard).kind = .punct q) (hq : q.chars = d :: cs) (hd : d ≠ '/') :
    b.upcoming .operand = b.upcoming .standard := by
  obtain ⟨rest, hrest⟩ := Scan.prefix_of_punct (scan_kind_of_upcoming h TokenKind.noConfusion)
  rw [hq, List.cons_append] at hrest
  exact upcoming_operand_of_ne hd hrest.symm

/-! ### Names -/

/-- What may follow a pattern, or the text that it ends. -/
def patternEnds : List TokenKind :=
  [.eof, .punct .assign, .punct .comma, .punct .rBrace, .punct .rBracket, .punct .rParen]

theorem Context.isName_cases {kind : TokenKind} (h : ctx.isName kind = true) :
    kind = .ident ∨ kind = .keyword .kLet ∨ (kind = .keyword .kAwait ∧ ctx.awaitIsName = true) ∨
      (kind = .keyword .kYield ∧ ctx.yieldIsName = true) := by
  unfold isName at h
  split at h
  · exact .inl rfl
  · exact .inr (.inl rfl)
  · exact .inr (.inr (.inl ⟨rfl, h⟩))
  · exact .inr (.inr (.inr ⟨rfl, h⟩))
  · exact absurd h Bool.false_ne_true

/-- A name is neither an operator nor a `yield`. -/
theorem Rules.operandExpr_eq (r : Rules) (ends : List TokenKind) {kind : TokenKind}
    (h : ctx.isName kind = true) {t : Token} (ht : t.kind = kind) :
    prefixAt? ctx kind = none ∧ (kind == .keyword .kYield && !ctx.yieldIsName) = false ∧
      r.primaryExpr ctx ends t =
        if t.isWord "async" then r.asyncOrName ctx ends else r.nameOrArrow ctx ends := by
  obtain rfl | rfl | ⟨rfl, hctx⟩ | ⟨rfl, hctx⟩ := Context.isName_cases h
  all_goals
    unfold primaryExpr
    simp_all [prefixAt?, TokenKind.prefixOperator?]

section

variable (hname : ctx.isName (b.upcoming .standard).kind = true)
  (hnext : b.second.kind ∈ patternEnds)
include hname hnext

/-- A name that nothing goes on from is an operand. -/
theorem Rules.succeeds_operandName (r : Rules) (ends : List TokenKind) :
    Succeeds b (r.operandExpr ctx ends) fun e c =>
      e = .ident ⟨(b.upcoming .standard).text, (b.upcoming .standard).loc, .unknown⟩ ∧
        b.Consumes [.read .standard b.position] c := by
  have hends : ∀ kind ∈ patternEnds, kind ≠ .punct .arrow ∧ kind ≠ .keyword .kFunction ∧
      kind ≠ .punct .lParen ∧ ctx.isName kind = false := by
    simp [patternEnds, Context.isName]
  obtain ⟨harrow, hfunction, hparen, hnot⟩ := hends _ hnext
  have second : ∀ {b₁}, b.Consumes [] b₁ → b₁.second = b.second := by
    intro b₁ h₁
    have hpos : b₁.position = b.position := h₁.position
    rw [TokenBuffer.second, TokenBuffer.second, hpos]
  have name : ∀ {b₁}, b.Consumes [] b₁ → Succeeds b₁ (nameExpr ctx) fun e c =>
      e = .ident ⟨(b.upcoming .standard).text, (b.upcoming .standard).loc, .unknown⟩ ∧
        b.Consumes [.read .standard b.position] c := by
    intro b₁ h₁
    have hbinding : Succeeds b₁ (bindingName ctx) fun id c =>
        id = ⟨(b.upcoming .standard).text, (b.upcoming .standard).loc, .unknown⟩ ∧
          b.Consumes [.read .standard b.position] c := by
      refine (succeeds_consume_any .standard).bind fun t b₂ _ h₂ => ?_
      obtain ⟨rfl, h₂⟩ := h₂
      have hread := h₁.trans h₂
      rw [h₁.position] at hread
      rw [h₁.upcoming]
      exact .ite (fun _ => .pure ⟨rfl, hread⟩) fun hnot => absurd hname hnot
    exact hbinding.bind fun id c _ h => .pure ⟨congrArg Expr.ident h.1, h.2⟩
  have plain : ∀ {b₁}, b.Consumes [] b₁ → Succeeds b₁ (r.nameOrArrow ctx ends) fun e c =>
      e = .ident ⟨(b.upcoming .standard).text, (b.upcoming .standard).loc, .unknown⟩ ∧
        b.Consumes [.read .standard b.position] c := by
    intro b₁ h₁
    refine succeeds_peekTwo.bind fun ts b₂ _ h₂ => ?_
    obtain ⟨rfl, h₂⟩ := h₂
    rw [second h₁]
    exact .ite (fun h => absurd (beq_iff_eq.mp h) harrow) fun _ => name (h₁.trans h₂)
  refine (succeeds_peek_any .operand).bind fun t b₁ _ h₁ => ?_
  obtain ⟨rfl, h₁⟩ := h₁
  rw [upcoming_operand_of_name hname]
  obtain ⟨hno, hyield, hprimary⟩ := operandExpr_eq r ends hname rfl
  rw [hno, hyield, hprimary]
  refine .ite (fun h => absurd h Bool.false_ne_true) fun _ => ?_
  refine .ite (fun _ => ?_) fun _ => plain h₁
  -- the word `async` before the end of a pattern is a name like any other
  refine succeeds_peekTwo.bind fun ts b₂ _ h₂ => ?_
  obtain ⟨rfl, h₂⟩ := h₂
  rw [second h₁]
  refine .ite (fun _ => ?_) fun _ => plain (h₁.trans h₂)
  refine .ite (fun h => absurd (beq_iff_eq.mp h) hfunction) fun _ => ?_
  refine .ite (fun h => ?_) fun _ => plain (h₁.trans h₂)
  rw [hnot, Bool.or_false] at h
  exact absurd (beq_iff_eq.mp h) hparen

end

theorem runs_bindingName_read : Runs b (bindingName ctx) fun id c =>
    ctx.isName (b.upcoming .standard).kind = true ∧
      id = ⟨(b.upcoming .standard).text, (b.upcoming .standard).loc, .unknown⟩ ∧
      b.Consumes [.read .standard b.position] c := by
  refine (runs_consume .standard).bind fun t b₁ _ h₁ => ?_
  obtain ⟨rfl, h₁⟩ := h₁
  exact .ite (fun hname => .pure ⟨hname, rfl, h₁⟩) fun _ => .throw

/-- **A name of a pattern is read as an operand.** -/
theorem answers_operandName (r' : Rules) (hw : Tails w w') (hb : b.Abreast w w' b') {id : Ident}
    (h : bindingName ctx b = .ok id c) (hk : (c.upcoming .standard).kind ∈ patternEnds)
    (hl : w.length < c.left) (ends : List TokenKind) :
    Answers (c.Beside w w') (fun e => ∃ id', e = .ident id' ∧ id'.unmarked = id.unmarked)
      (r'.operandExpr ctx ends b') := by
  obtain ⟨hkeeps, hname, rfl, hc⟩ := runs_bindingName_read.keeps_ok hb.coherent h
  have hb := hb.beside (Nat.lt_of_lt_of_le hl hkeeps.left_le)
  have hsecond : b.second = c.upcoming .standard := by
    have hpos : c.position = (readToken .standard b.position).stop := hc.position
    rw [TokenBuffer.second, TokenBuffer.upcoming, hpos]
  have hname' : ctx.isName (b'.upcoming .standard).kind = true := by
    rwa [← Token.kind_of_face (hb.face hw .standard)]
  have hnext' : b'.second.kind ∈ patternEnds := by
    rcases (hb.ahead hw).second with hface | ⟨-, ⟨hk', -⟩, -⟩
    · rwa [← Token.kind_of_face hface, hsecond]
    · rcases hk' with hk' | hk' <;> rw [hk'] <;> decide
  obtain ⟨e', c', he', -, rfl, hc'⟩ :=
    Rules.succeeds_operandName hname' hnext' r' ends (.refl hb.coherent')
  rw [he']
  obtain ⟨hsaying, hbeside⟩ := hb.passed hw hc hc' hl
  exact ⟨⟨_, rfl, (Ident.unmarked_of_saying hsaying _).symm⟩, hbeside⟩

/-! ### What follows an operand -/

/-- An operand is a whole expression where a token comes next that ends expressions. -/
theorem answers_operatorExpr {P : Expr → Prop} (hw : Tails w w')
    (h : Answers (c.Beside w w') P (r'.operandExpr ctx ends b'))
    (hk : (c.upcoming .standard).kind ∈ ends) :
    Answers (c.Beside w w') P (r'.operatorExpr ctx least ends b') := by
  refine h.bind fun e c' he hc => ?_
  rw [Token.kind_of_face (hc.face hw .standard)] at hk
  refine (answers_tailEnd r' ctx least hc.coherent' (.inl hk) e r'.depth).mono (fun d hd => ?_) ?_
  · exact hc.unread (.refl hc.coherent) hd
  · rintro _ rfl
    exact he

/-- An equals sign behind an operand makes it the left side of an assignment. -/
theorem Rules.operatorTail_assign (r : Rules) (ctx : Context) {e t : Expr} {b₁ : TokenBuffer}
    {u : Token} (ht : e.toTarget .assign = .ok t) (hu : consume .standard b = .ok u b₁)
    (hk : u.kind = .punct .assign) (hends : .punct .assign ∉ ends)
    (hleast : least ≤ Operator.assign.precedence) (n : Nat) :
    r.operatorTail ctx least ends e (n + 1) b = ((do
      let right ← r.assignment ctx ends
      return .binary (t.loc.join right.loc) .assign t right : TokenParser Expr) >>= fun x =>
        r.operatorTail ctx least ends x n) b₁ := by
  have htail : r.operatorTail ctx least ends e (n + 1) b = _ :=
    (bind_of_ok (p := mark) rfl).trans (bind_of_ok hu)
  rw [htail, hk, if_neg hends]
  dsimp only [Rules.updateOperator?, TokenKind.infixOperator?]
  rw [if_neg (Nat.not_lt.mpr hleast), Rules.applyOperator_eq rfl, Rules.binaryTail_eq]
  have hleft : Operator.assign.leftSide e = .ok t := ht
  rw [hleft]
  rfl

/-- What is assigned inside the text is read alike on both sides. -/
theorem answers_assign (hr : r.Agree r') {b₁ : TokenBuffer} {e t v : Expr} (hw : Tails w w')
    (hb : b.Beside w w' b') (ht : e.toTarget .assign = .ok t)
    (hassign : acceptPunct .assign .standard b = .ok true b₁)
    (hv : r.assignment ctx ends b₁ = .ok v c) (hends : .punct .assign ∉ ends)
    (hk : (c.upcoming .standard).kind ∈ ends) (hl : w.length < c.left) :
    ∀ n, Answers (c.Beside w w')
      (fun x => ∃ loc v', x = .binary loc .assign t v' ∧ v'.unmarked = v.unmarked)
      (r'.operatorTail ctx Operator.assign.precedence ends e n b')
  | 0 => rfl
  | n + 1 => by
    obtain ⟨hkeeps, hsign, hc⟩ := (runs_acceptPunct .assign .standard).keeps_ok hb.coherent hassign
    obtain ⟨hkeeps₁, -⟩ := ((hr.assignment ctx ends).keeps b₁).keeps_ok hkeeps.coherent hv
    obtain ⟨u, b₁', hu, -, rfl, hc'⟩ := succeeds_consume_any .standard (.refl hb.coherent')
    obtain ⟨-, hb₁⟩ := hb.passed hw hc hc' (Nat.lt_of_lt_of_le hl hkeeps₁.left_le)
    have hsign' : (b'.upcoming .standard).kind = .punct .assign :=
      (Token.kind_of_face (hb.face hw .standard)).symm.trans (beq_iff_eq.mp hsign.symm)
    rw [Rules.operatorTail_assign r' ctx ht hu hsign' hends (Nat.le_refl _)]
    have happly : Answers (c.Beside w w')
        (fun x => ∃ loc v', x = .binary loc .assign t v' ∧ v'.unmarked = v.unmarked)
        ((do
          let right ← r'.assignment ctx ends
          return .binary (t.loc.join right.loc) .assign t right : TokenParser Expr) b₁') :=
      ((hr.assignment ctx ends).follows hw hb₁ hv hl).bind fun v' c' hv' hc =>
        ⟨⟨_, v', rfl, hv'.symm⟩, hc⟩
    refine happly.bind fun x c' hx hc => ?_
    rw [Token.kind_of_face (hc.face hw .standard)] at hk
    refine (answers_tailEnd r' ctx _ hc.coherent' (.inl hk) x n).mono (fun d hd => ?_) ?_
    · exact hc.unread (.refl hc.coherent) hd
    · rintro _ rfl
      exact hx

end ImportSeam
