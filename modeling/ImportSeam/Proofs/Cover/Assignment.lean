import ImportSeam.Proofs.Cover.Items
import ImportSeam.Proofs.Grammar.Spelled
import ImportSeam.Proofs.Reread.Answer
import ImportSeam.Proofs.Reread.Statement
import ImportSeam.Tree.Names

/-!
# Patterns that are assigned to

A text that is an array or object pattern is put in front of an equals sign, in parentheses.  The
parentheses may be the parameters of an arrow, and these are tried first; but the pattern in them
ends where the text does, and no arrow comes behind it.  So the parentheses are read as an
expression, the pattern in them as a literal, and the literal is taken apart when the equals sign is
met.

## Main definitions

* `TokenBuffer.ClosedBy` — the last token that is consumed is a sign.
* `assigned`, `wholePattern?` — the text of the assignment, and the pattern that a text is.

## Main results

* `Rules.Sound.pattern_shut` — a text that is an array or object pattern ends with its closing sign.
* `Rules.Twins.arrow?_none` — the parentheses are not the parameters of an arrow.
* `assigned_pattern` — an assignment to a pattern has the pattern as its left side.
-/

namespace ImportSeam

open TokenParser TokenBuffer

variable {ctx : Context} {r r' : Rules} {w w' : List Char} {b b' c : TokenBuffer} {p : Pat}

/-! ### Patterns that are a whole text -/

/-- The last token that is consumed is the sign. -/
def TokenBuffer.ClosedBy (q : Punctuator) (b c : TokenBuffer) : Prop :=
  ∃ d, b.Keeps d ∧ (d.upcoming .standard).kind = .punct q ∧
    d.Consumes [.read .standard d.position] c

namespace TokenBuffer.ClosedBy

variable {q : Punctuator}

theorem after {b₀ : TokenBuffer} (hb : b.Keeps b₀) (h : ClosedBy q b₀ c) : ClosedBy q b c := by
  obtain ⟨d, hd, hk, hc⟩ := h
  exact ⟨d, hb.trans hd, hk, hc⟩

/-- A text that is read up to a closing sign at its end is closed. -/
theorem shut (h : ClosedBy q b c) (hq : q = .rBrace ∨ q = .rBracket) (hend : c.position.rest = []) :
    Shut b.position.rest := by
  obtain ⟨d, hd, hk, hc⟩ := h
  obtain ⟨rest, hrest⟩ := Scan.prefix_of_punct (scan_kind_of_upcoming hk TokenKind.noConfusion)
  have hstands : q.Stands rest := by
    rcases hq with rfl | rfl <;> exact fun _ _ => rfl
  obtain ⟨-, -, hscan⟩ := (lexesTo_punct hstands).skipTrivia_eq 0
  rw [Punctuator.toList_spelling, hrest] at hscan
  -- nothing is left behind the sign
  have hpos : c.position = (readToken .standard d.position).stop := hc.position
  rw [hpos, readToken] at hend
  simp only [hscan, Cursor.advance] at hend
  rw [← hrest, List.drop_left] at hend
  rw [hend, List.append_nil] at hrest
  obtain ⟨taken, htaken, -⟩ := reaches_trivia .standard d.position
  have hsuffix : q.chars <:+ d.position.rest := ⟨taken, by rw [htaken, hrest]⟩
  obtain ⟨v, hv⟩ := hsuffix.trans hd.suffix
  rcases hq with rfl | rfl
  · exact ⟨v, '\x7d', hv.symm, .inr rfl⟩
  · exact ⟨v, ']', hv.symm, .inl rfl⟩

end TokenBuffer.ClosedBy

namespace Rules.Sound

variable (hr : r.Sound)
include hr

theorem elemPats_closed : ∀ (n : Nat) (b : TokenBuffer),
    Runs b (r.elemPats ctx n) fun _ c => ClosedBy .rBracket b c
  | 0, _ => runs_exhausted
  | n + 1, b => by
    refine .coherent fun hb => (runs_acceptPunct _ _).bind fun closed b₁ k₁ h₁ => ?_
    refine .ite (fun hc => .pure ?_) fun _ => ?_
    · subst hc
      exact ⟨b, .refl hb, beq_iff_eq.mp h₁.1.symm, h₁.2⟩
    refine (runs_acceptPunct _ _).bind fun _ b₂ k₂ _ => .ite (fun _ => ?_) fun _ => ?_
    · exact (elemPats_closed n b₂).bind fun _ _ _ h => .pure (h.after (k₁.trans k₂))
    refine (runs_acceptPunct _ _).bind fun _ b₃ k₃ _ => .ite (fun _ => ?_) fun _ => ?_
    · refine (hr.pat _ _).bind fun _ b₄ k₄ _ => ?_
      exact (runs_expectPunct _ _).bind fun _ _ _ h =>
        .pure ⟨b₄, k₁.trans (k₂.trans (k₃.trans k₄)), h⟩
    refine (hr.pat _ _).bind fun _ b₄ k₄ _ => ?_
    refine (hr.default? _).bind fun _ b₅ k₅ _ => ?_
    have k := k₁.trans (k₂.trans (k₃.trans (k₄.trans k₅)))
    refine (runs_acceptPunct _ _).bind fun _ b₆ k₆ _ => .ite (fun _ => ?_) fun _ => ?_
    · exact (elemPats_closed n b₆).bind fun _ _ _ h => .pure (h.after (k.trans k₆))
    · exact (runs_expectPunct _ _).bind fun _ _ _ h => .pure ⟨b₆, k.trans k₆, h⟩

theorem propPats_closed : ∀ (n : Nat) (b : TokenBuffer),
    Runs b (r.propPats ctx n) fun _ c => ClosedBy .rBrace b c
  | 0, _ => runs_exhausted
  | n + 1, b => by
    refine .coherent fun hb => (runs_acceptPunct _ _).bind fun closed b₁ k₁ h₁ => ?_
    refine .ite (fun hc => .pure ?_) fun _ => ?_
    · subst hc
      exact ⟨b, .refl hb, beq_iff_eq.mp h₁.1.symm, h₁.2⟩
    refine (runs_acceptPunct _ _).bind fun _ b₂ k₂ _ => .ite (fun _ => ?_) fun _ => ?_
    · refine runs_bindingName.bind fun _ b₃ k₃ _ => ?_
      exact (runs_expectPunct _ _).bind fun _ _ _ h => .pure ⟨b₃, k₁.trans (k₂.trans k₃), h⟩
    refine hr.propPat.bind fun _ b₃ k₃ _ => ?_
    have k := k₁.trans (k₂.trans k₃)
    refine (runs_acceptPunct _ _).bind fun _ b₄ k₄ _ => .ite (fun _ => ?_) fun _ => ?_
    · exact (propPats_closed n b₄).bind fun _ _ _ h => .pure (h.after (k.trans k₄))
    · exact (runs_expectPunct _ _).bind fun _ _ _ h => .pure ⟨b₄, k.trans k₄, h⟩

/-- **A text that is an array or object pattern is closed.** -/
theorem pattern_shut (hb : b.Coherent) (hp : r.pattern ctx b = .ok p c)
    (hshape : ∀ id, p ≠ .ident id)
    (hend : c.position.rest = []) : Shut b.position.rest ∧
      ((b.upcoming .standard).kind = .punct .lBracket ∨
        (b.upcoming .standard).kind = .punct .lBrace) := by
  obtain ⟨b₁, hc₁, hpattern⟩ := Rules.pattern_cases hb hp
  have closed : ∀ {q b₂}, b₁.Keeps b₂ → ClosedBy q b₂ c → q = .rBrace ∨ q = .rBracket →
      Shut b.position.rest := fun hkeeps h hq =>
    (h.after (hc₁.keeps.trans hkeeps)).shut hq hend
  cases hpattern with
  | array hopen hes =>
    obtain ⟨hkeeps, hk, -⟩ := (runs_expectPunct _ _).keeps_ok hc₁.coherent hopen
    rw [hc₁.upcoming] at hk
    exact ⟨closed hkeeps ((hr.elemPats_closed _ _).keeps_ok hkeeps.coherent hes).2 (.inr rfl), .inl hk⟩
  | object hopen hps =>
    obtain ⟨hkeeps, hk, -⟩ := (runs_expectPunct _ _).keeps_ok hc₁.coherent hopen
    rw [hc₁.upcoming] at hk
    exact ⟨closed hkeeps ((hr.propPats_closed _ _).keeps_ok hkeeps.coherent hps).2 (.inl rfl), .inr hk⟩
  | name hid => exact absurd rfl (hshape _)

end Rules.Sound

/-! ### Parentheses that are not those of an arrow -/

theorem Rules.Sound.runs_param (hr : r.Sound) : Runs b (r.param ctx) fun _ _ => True := by
  refine (runs_acceptPunct _ _).bind fun _ b₁ _ _ => ?_
  refine (hr.pat _ _).bind fun _ b₂ _ _ => ?_
  exact (hr.default? _).bind fun _ b₃ _ _ => .pure trivial

/-- Parameters in parentheses start with a pattern. -/
theorem Rules.Sound.pat_of_arrowParams? (hr : r.Sound) (hb : b.Coherent)
    (hk : (b.upcoming .standard).kind = .punct .lParen)
    (hinner : ∀ b₁, b.Consumes [.read .standard b.position] b₁ →
      (b₁.upcoming .standard).kind ≠ .punct .rParen ∧
        (b₁.upcoming .standard).kind ≠ .punct .ellipsis)
    {ps : List Param} (h : r.arrowParams? ctx b = .ok (some ps) c) :
    ∃ b₁ p c₁, b.Consumes [.read .standard b.position] b₁ ∧ r.pat ctx b₁ = .ok p c₁ ∧
      c₁.Keeps c := by
  rw [Rules.arrowParams?_eq] at h
  obtain ⟨kind, b₁, hkind, h⟩ := bind_ok h
  obtain ⟨hkeeps₁, rfl, hc₁⟩ := (runs_peekKind _).keeps_ok hb hkind
  rw [if_pos (beq_iff_eq.mpr hk), tryCatch_eq_tried] at h
  cases hps : r.params ctx b₁ with
  | error e b₂ =>
    rw [hps, tried] at h
    split at h <;> cases h
  | ok qs b₂ =>
    rw [hps] at h
    cases h
    obtain ⟨_, b₃, hopen, hps⟩ := bind_ok hps
    obtain ⟨hkeeps₃, -, hc₃⟩ := (runs_expectPunct _ _).keeps_ok hkeeps₁.coherent hopen
    have hc : b.Consumes [.read .standard b.position] b₃ := by
      have hboth := hc₁.trans hc₃
      rwa [hc₁.position] at hboth
    obtain ⟨hclose, hspread⟩ := hinner b₃ hc
    cases hdepth : r.depth with
    | zero =>
      rw [hdepth] at hps
      cases hps
    | succ n =>
      rw [hdepth] at hps
      obtain ⟨closed, b₄, hclosed, hps⟩ := bind_ok hps
      obtain ⟨hkeeps₄, hflag, hc₄⟩ := (runs_acceptPunct _ _).keeps_ok hkeeps₃.coherent hclosed
      obtain rfl : closed = false := hflag.trans (beq_eq_false_iff_ne.mpr hclose)
      rw [if_neg Bool.false_ne_true] at hps
      obtain ⟨param, b₅, hparam, hps⟩ := bind_ok hps
      obtain ⟨isRest, b₆, hrest, hparam⟩ := bind_ok hparam
      obtain ⟨hkeeps₆, hflag, hc₆⟩ := (runs_acceptPunct _ _).keeps_ok hkeeps₄.coherent hrest
      rw [TokenBuffer.Consumes.upcoming hc₄, beq_eq_false_iff_ne.mpr hspread] at hflag
      subst hflag
      obtain ⟨p, b₇, hp, hparam⟩ := bind_ok hparam
      obtain ⟨hkeeps₇, -⟩ := (hr.pat _ _).keeps_ok hkeeps₆.coherent hp
      refine ⟨b₆, p, b₇, (hc.trans hc₄).trans hc₆, hp, ?_⟩
      obtain ⟨d, b₈, hd, hparam⟩ := bind_ok hparam
      cases hparam
      obtain ⟨hkeeps₈, -⟩ := (hr.default? _).keeps_ok hkeeps₇.coherent hd
      obtain ⟨more, b₉, hmore, hps⟩ := bind_ok hps
      obtain ⟨hkeeps₉, -⟩ := (runs_acceptPunct _ _).keeps_ok hkeeps₈.coherent hmore
      refine hkeeps₈.trans (hkeeps₉.trans ?_)
      cases more with
      | true =>
        obtain ⟨qs, b₁₀, hqs, hps⟩ := bind_ok hps
        cases hps
        have hitems : ∀ b, Runs b (r.param ctx) fun _ _ => True := fun _ => hr.runs_param
        exact ((runs_separated _ hitems n b₉).keeps_ok hkeeps₉.coherent hqs).1
      | false =>
        obtain ⟨_, b₁₀, hclose, hps⟩ := bind_ok hps
        cases hps
        exact ((runs_expectPunct _ _).keeps_ok hkeeps₉.coherent hclose).1

/-- **No arrow comes behind parentheses** in which a pattern is assigned to. -/
theorem Rules.Twins.arrow?_none (hr : r.Twins r') (hw : Tails w w') (hb' : b'.Coherent)
    (hk' : (b'.upcoming .standard).kind = .punct .lParen)
    (hinner : ∀ b₁', b'.Consumes [.read .standard b'.position] b₁' → b.Beside w w' b₁')
    (hopen : (b.upcoming .standard).kind = .punct .lBracket ∨
      (b.upcoming .standard).kind = .punct .lBrace)
    (hp : r.pat ctx b = .ok p c) (hend : c.position.rest = w) (ends : List TokenKind) :
    Answers (b'.Consumes []) (· = none) (r'.arrow? ctx false ends b') := by
  cases hx : r'.arrowParams? ctx b' with
  | error e d =>
    have hhead : r'.arrowHead? ctx b' = _ := bind_of_error (p := r'.arrowParams? ctx) hx
    have harrow : r'.arrow? ctx false ends b' = _ := bind_of_error (p := r'.arrowHead? ctx) hhead
    rw [harrow]
    exact Rules.exhausted_of_arrowParams? hx
  | ok x d =>
    have hno : ¬MeetsArrow x d := by
      rintro ⟨hsome, hk⟩
      obtain ⟨ps, rfl⟩ := Option.isSome_iff_exists.mp hsome
      have hkinds : ∀ b₁', b'.Consumes [.read .standard b'.position] b₁' →
          (b₁'.upcoming .standard).kind ≠ .punct .rParen ∧
            (b₁'.upcoming .standard).kind ≠ .punct .ellipsis := by
        intro b₁' hc'
        rw [← Token.kind_of_face ((hinner b₁' hc').face hw .standard)]
        rcases hopen with hopen | hopen <;> rw [hopen] <;> decide
      obtain ⟨b₁', p', c', hc', hp', hkeeps⟩ := hr.back.sound.pat_of_arrowParams? hb' hk' hkinds hx
      have hb := (hinner b₁' hc').symm
      -- the pattern would end before the arrow, so inside the text
      obtain ⟨hkeeps', -⟩ := (hr.back.sound.pat _ _).keeps_ok hc'.coherent hp'
      have hlt := lt_of_apart hw.symm.left (by decide) hb.suffix (hkeeps'.trans hkeeps) hk
      have hout := (hr.back.pat ctx).follows hw.symm hb hp' (Nat.lt_of_lt_of_le hlt hkeeps.left_le)
      rw [hp] at hout
      have hlt := hout.2.symm.lt
      rw [TokenBuffer.left, hend] at hlt
      exact Nat.lt_irrefl _ hlt
    obtain ⟨d, hhead, hd⟩ := Rules.arrowHead?_none hr.back.sound hb' hx hno
    have harrow : r'.arrow? ctx false ends b' = _ := bind_of_ok (p := r'.arrowHead? ctx) hhead
    rw [harrow]
    exact ⟨rfl, hd⟩

/-! ### The assignment -/

/-- A pattern in parentheses, assigned a name. -/
def assigned (text : String) : String := String.ofList ('(' :: (text.toList ++ assigning))

/-- The expression is a name. -/
def Expr.Names (name : String) (e : Expr) : Prop := ∃ id, e = .ident id ∧ id.name = name

/-- The expression assigns the name of the tail to the pattern. -/
def Expr.AssignsTo (p : Pat) (e : Expr) : Prop :=
  ∃ loc p' value, e = .binary loc .assign (.target p') value ∧ p'.unmarked = p.unmarked ∧
    value.Names "x"

theorem lexesTo_closingParen : LexesTo .standard [')'] (.punct .rParen) ")" [] := by
  have hstands : Punctuator.rParen.Stands [] := fun _ _ => rfl
  exact lexesTo_punct hstands

theorem lexesTo_value : LexesTo .standard [' ', 'x', ')'] .ident "x" [')'] := by
  have htoken : IsToken .standard .ident "x" := isToken_ident (by decide) (by decide)
  have hends : EndsWord [')'] := endsWord_cons (by decide) []
  exact .blank (lexesTo_word htoken rfl hends)

theorem lexesTo_assigning : LexesTo .standard assigning (.punct .assign) "=" [' ', 'x', ')'] :=
  .blank (lexesTo_punct (Punctuator.stands_blank .assign ['x', ')']))

/-- **The name that is assigned** is a whole expression in front of the closing parenthesis. -/
theorem answers_value (ctx : Context) (h : b.Before [' ', 'x', ')']) :
    ∀ n, Answers (TokenBuffer.Before [')']) (Expr.Names "x")
      ((Rules.level n).assignment ctx [.punct .rParen] b)
  | 0 => rfl
  | n + 1 => by
    obtain ⟨hkind, htext, hpassed⟩ := h.read lexesTo_value
    have hname : ctx.isName (b.upcoming .standard).kind = true := by
      rw [hkind]
      rfl
    have hnext : b.second.kind ∈ patternEnds := by
      obtain ⟨-, -, -, hrest⟩ := lexesTo_value.readToken_eq rfl h.2
      have hsecond : b.second.kind = .punct .rParen := (lexesTo_closingParen.readToken_eq rfl hrest).1
      rw [hsecond]
      decide
    have hoperand : Answers (TokenBuffer.Before [')']) (Expr.Names "x")
        ((Rules.level n).operandExpr ctx [.punct .rParen] b) :=
      .of_succeeds (Rules.succeeds_operandName hname hnext _ _) h.1
        (fun e c he => ⟨_, he.1, htext⟩) fun e c he => hpassed he.2
    refine hoperand.bind fun e c he hc => ?_
    exact answers_stop hc lexesTo_closingParen (.inl (List.mem_singleton_self _)) he _

/-- What stands in the parentheses is read as the assignment. -/
theorem Rules.Covering.answers_assignment {n : Nat} (h : r.Covering (level n))
    (hb : b.Beside [] assigning b') (hp : r.pattern ctx b = .ok p c) (hshape : ∀ id, p ≠ .ident id)
    (hend : c.position.rest = []) :
    Answers (TokenBuffer.Before [')']) (Expr.AssignsTo p)
      ((level (n + 1)).sequence ctx [.punct .rParen] b') := by
  have hw : Tails [] assigning := .inl ⟨rfl, rfl⟩
  have hoperand := h.literal hw (.inl hb) hp hshape [.punct .rParen]
  refine hoperand.bind fun e c' he hc => ?_
  obtain ⟨p', -, htarget, hsame⟩ := he
  have hbefore : c'.Before assigning := by
    rcases hc with hc | ⟨-, hcoherent, -, hrest⟩
    · have hlt := hc.lt
      rw [TokenBuffer.left, hend] at hlt
      exact absurd hlt (Nat.lt_irrefl _)
    · exact ⟨hcoherent, hrest⟩
  obtain ⟨hkind, -, hpassed⟩ := hbefore.read lexesTo_assigning
  obtain ⟨u, d, hu, -, rfl, hd⟩ := succeeds_consume_any .standard (.refl hbefore.1)
  change Answers _ _ ((level n).operatorTail ctx _ _ e (level n).depth c')
  rw [level_depth]
  cases n with
  | zero => rfl
  | succ n =>
    rw [Rules.operatorTail_assign _ ctx htarget hu hkind (by decide) (by decide)]
    have hassign : Answers (TokenBuffer.Before [')']) (Expr.AssignsTo p) ((do
        let right ← (level (n + 1)).assignment ctx [.punct .rParen]
        return .binary ((Expr.target p').loc.join right.loc) .assign (.target p') right :
          TokenParser Expr) d) :=
      (answers_value ctx (hpassed hd) (n + 1)).bind fun v d hv hd => ⟨⟨_, p', v, rfl, hsame, hv⟩, hd⟩
    refine hassign.bind fun e d he hd => ?_
    exact answers_stop hd lexesTo_closingParen (.inl (List.mem_singleton_self _)) he _

/-- A sign that comes next is skipped. -/
theorem answers_sign {q : Punctuator} (hb : b.Coherent) (hk : (b.upcoming .standard).kind = .punct q) :
    Answers (b.Consumes [.read .standard b.position]) (fun _ => True) (expectPunct q .standard b) := by
  obtain ⟨t, c, ht, -, rfl, hc⟩ := succeeds_consume_any .standard (.refl hb)
  have hexpect : expect (.punct q) .standard b = .ok (b.upcoming .standard) c := by
    rw [expect, bind_of_ok ht, if_pos (beq_iff_eq.mpr hk)]
    rfl
  have hsign : expectPunct q .standard b = .ok () c := bind_of_ok hexpect
  rw [hsign]
  exact ⟨trivial, hc⟩

/-- **The parentheses are read as the assignment** that stands in them. -/
theorem Rules.Covering.answers_parenthesized {n : Nat} (h : r.Covering (level n))
    (hr : r.step.Twins (level (n + 1)))
    (hb : ∀ {b₁'}, b'.Consumes [.read .standard b'.position] b₁' → b.Beside [] assigning b₁')
    (hb' : b'.Coherent) (hk' : (b'.upcoming .standard).kind = .punct .lParen)
    (hp : r.pattern ctx b = .ok p c) (hshape : ∀ id, p ≠ .ident id)
    (hopen : (b.upcoming .standard).kind = .punct .lBracket ∨
      (b.upcoming .standard).kind = .punct .lBrace)
    (hend : c.position.rest = []) (ends : List TokenKind) :
    Answers (TokenBuffer.Before []) (Expr.AssignsTo p)
      ((level (n + 1)).operandExpr ctx ends b') := by
  have hw : Tails [] assigning := .inl ⟨rfl, rfl⟩
  -- an opening parenthesis leads to an arrow or to an expression in parentheses
  have hoperand := TokenBuffer.upcoming_operand_of_punct hk' rfl (by decide)
  obtain ⟨t, b₁', ht, -, rfl, hc'⟩ := succeeds_peek_any .operand (.refl hb')
  have hnone : prefixAt? ctx (.punct .lParen) = none := rfl
  have hprimary : (level (n + 1)).primaryExpr ctx ends (b'.upcoming .operand) =
      (level (n + 1)).arrowOrParenthesized ctx ends := by
    rw [primaryExpr, hoperand, hk']
  have hrun : (level (n + 1)).operandExpr ctx ends b' =
      (level (n + 1)).arrowOrParenthesized ctx ends b₁' := by
    rw [operandExpr, bind_of_ok ht, hprimary, hoperand, hk', hnone]
    rfl
  rw [hrun]
  have hpos : b₁'.position = b'.position := hc'.position
  have hk₁ : (b₁'.upcoming .standard).kind = .punct .lParen := by rw [hc'.upcoming, hk']
  have hb₁ : ∀ {b₂'}, b₁'.Consumes [.read .standard b₁'.position] b₂' →
      b.Beside [] assigning b₂' := by
    intro b₂' hc
    rw [hpos] at hc
    exact hb (hc'.trans hc)
  have harrow := hr.arrow?_none hw hc'.coherent hk₁ (fun _ hc => hb₁ hc) hopen hp hend ends
  refine harrow.bind fun o b₂' hnone hc₂ => ?_
  subst hnone
  -- so the parenthesis is skipped, and the assignment is read up to the closing one
  have hpos₂ : b₂'.position = b₁'.position := hc₂.position
  have hk₂ : (b₂'.upcoming .standard).kind = .punct .lParen := by rw [hc₂.upcoming, hk₁]
  refine (answers_sign hc₂.coherent hk₂).bind fun _ b₃' _ hc₃ => ?_
  rw [hpos₂] at hc₃
  have hb₃ := hb₁ (hc₂.trans hc₃)
  refine (h.answers_assignment hb₃ hp hshape hend).bind fun e b₄' he hb₄ => ?_
  exact (hb₄.answers_expectPunct lexesTo_closingParen rfl).bind fun _ _ _ hb₅ => ⟨he, hb₅⟩

/-- A parser whose bound is not used up gives what it answers. -/
theorem Safe.exists_ok {α : Type} {src : Cursor} {x : TokenParser α} {Q : α → TokenBuffer → Prop}
    {E : TokenBuffer → Prop} {P : α → Prop} (h : Safe src b x Q) (hs : b.source = src)
    (hb : b.Coherent) (hx : Answers E P (x b)) : ∃ a c, x b = .ok a c ∧ P a ∧ E c := by
  have hout := h hs (.refl hb)
  cases hxb : x b with
  | ok a c =>
    rw [hxb] at hx
    exact ⟨a, c, rfl, hx⟩
  | error e c =>
    rw [hxb] at hx hout
    exact absurd (hx.symm.trans hout.2.genuine) (by decide)

/-- The pattern that all of a text is read as. -/
def wholePattern? (ctx : Context) (text : String) : Option Pat :=
  match (grammar text.length).pat ctx (.ofString text) with
  | .ok p c => if c.position.rest.isEmpty then some p else none
  | .error _ _ => none

theorem exists_of_wholePattern? {text : String} (h : wholePattern? ctx text = some p) :
    ∃ c, (grammar text.length).pat ctx (.ofString text) = .ok p c ∧ c.position.rest = [] := by
  unfold wholePattern? at h
  split at h
  · next q c hp =>
    split at h
    · next hend =>
      cases h
      exact ⟨c, hp, List.isEmpty_iff.mp hend⟩
    · cases h
  · cases h

theorem wholePattern?_of_spelled {text : String} {cs : List Char} (h : text = String.ofList cs) :
    wholePattern? ctx text =
      match (grammar cs.length).pat ctx (.ofChars cs) with
      | .ok p c => if c.position.rest.isEmpty then some p else none
      | .error _ _ => none := by
  rw [wholePattern?, length_of_spelled h, TokenBuffer.ofString_of_spelled h]

/-- **What is read as a pattern is read as the left side of an assignment.**  Let a text be an array
or object pattern in some context.  In parentheses, and with an equals sign and a name behind it, it
is an expression in that context, and all of the text is read: an assignment, whose left side is the
pattern but for its locations, the shorthand flags and the kinds of the tokens of unquoted keys. -/
theorem assigned_pattern (ctx : Context) (ends : List TokenKind) {text : String} {p : Pat}
    (h : wholePattern? ctx text = some p) (hshape : ∀ id, p ≠ .ident id) :
    ∃ loc p' value b, (grammar (assigned text).length).sequence ctx ends
        (.ofString (assigned text)) = .ok (.binary loc .assign (.target p') value) b ∧
      b.position.rest = [] ∧ p'.unmarked = p.unmarked ∧ value.Names "x" := by
  obtain ⟨c, hp, hend⟩ := exists_of_wholePattern? h
  have hb := TokenBuffer.coherent_ofString text
  have hb' := TokenBuffer.coherent_ofString (assigned text)
  have hrest' : (TokenBuffer.ofString (assigned text)).position.rest =
      '(' :: (text.toList ++ assigning) := String.toList_ofList
  have hgrammar : grammar text.length = Rules.level (2 * text.length + 7 + 1) := rfl
  rw [hgrammar] at hp
  have hsound := Rules.sound_level (2 * text.length + 7)
  obtain ⟨hshut, hopen⟩ := hsound.pattern_shut hb hp hshape hend
  -- the parenthesis leads to the text with the tail behind it
  have hparen : LexesTo .standard ('(' :: (text.toList ++ assigning)) (.punct .lParen) "("
      (text.toList ++ assigning) := by
    have hstands : Punctuator.lParen.Stands (text.toList ++ assigning) := fun _ _ => rfl
    exact lexesTo_punct hstands
  obtain ⟨hk', -, hpassed⟩ := TokenBuffer.Before.read ⟨hb', hrest'⟩ hparen
  have hbeside : ∀ {b₁'}, (TokenBuffer.ofString (assigned text)).Consumes
      [.read .standard (TokenBuffer.ofString (assigned text)).position] b₁' →
        (TokenBuffer.ofString text).Beside [] assigning b₁' := fun hc =>
    ⟨hb, hc.coherent, text.toList, hshut, (List.append_nil _).symm, (hpassed hc).2⟩
  obtain ⟨n, hn⟩ : ∃ n, 2 * (assigned text).length + 8 = n + 2 := ⟨_, rfl⟩
  have hgrammar' : grammar (assigned text).length = Rules.level (n + 2) := by
    rw [← hn]
    rfl
  have htwins := Rules.twins_level (2 * text.length + 7 + 1) (n + 1)
  have hoperand := (Rules.covering_level (2 * text.length + 7) n).answers_parenthesized htwins
    hbeside hb' hk' hp hshape hopen hend ends
  have hx : Answers (TokenBuffer.Before []) (Expr.AssignsTo p)
      ((Rules.level (n + 2)).sequence ctx ends (.ofString (assigned text))) :=
    hoperand.bind fun e c he hc => answers_stop hc lexesTo_end (.inr ⟨rfl, rfl⟩) he _
  -- and the bound is not used up
  have hleft : (TokenBuffer.ofString (assigned text)).left = (assigned text).length :=
    (assigned text).length_toList
  have htotal : Safe (.ofString (assigned text)) (.ofString (assigned text))
      ((Rules.level (n + 2)).sequence ctx ends) _ :=
    (Rules.level_total (n + 2) _).sequence ends (by omega)
  obtain ⟨e, c', hrun, ⟨loc, p', value, rfl, hsame, hvalue⟩, hc'⟩ := htotal.exists_ok rfl hb' hx
  refine ⟨loc, p', value, c', ?_, hc'.2, hsame, hvalue⟩
  rw [hgrammar']
  exact hrun

/-- A pattern with names that are words elsewhere, a hole, defaults and rests, and keys of every
kind. -/
def wordyPattern : String :=
  "\x7bget, let: [async = (yield) => 1, , ...[b]], [k]: \x7bawait = \x7bf: 2\x7d\x7d, 'g': h, ...i\x7d"

theorem wordyPattern_assigned : ∃ p, wholePattern? ⟨true, true⟩ wordyPattern = some p ∧
    (∀ id, p ≠ .ident id) ∧ ∃ loc p' value b,
      (grammar (assigned wordyPattern).length).sequence ⟨true, true⟩ []
        (.ofString (assigned wordyPattern)) = .ok (.binary loc .assign (.target p') value) b ∧
      b.position.rest = [] ∧ p'.unmarked = p.unmarked ∧ value.Names "x" := by
  have hspelled : wordyPattern = String.ofList _ := rfl
  have hseveral : (wholePattern? ⟨true, true⟩ wordyPattern).any (1 < ·.names.length) = true := by
    rw [wholePattern?_of_spelled hspelled]
    decide +kernel
  obtain ⟨p, hp, hnames⟩ := (Option.any_eq_true _ _).mp hseveral
  have hshape : ∀ id, p ≠ .ident id := by
    rintro id rfl
    exact absurd hnames (by simp [Pat.names])
  exact ⟨p, hp, hshape, assigned_pattern _ _ hp hshape⟩

end ImportSeam
