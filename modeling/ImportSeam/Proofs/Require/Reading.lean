import ImportSeam.Proofs.Cover.Literal
import ImportSeam.Proofs.Reread.Answer
import ImportSeam.Proofs.Reread.Statement
import ImportSeam.Proofs.Require.Literal
import ImportSeam.Proofs.Totality.Source

/-!
# Reading a call of `require`

A property is taken from the result of `require` by a pattern or in brackets.  Both sources are read
token by token, up to the statement that they are; the key in it is kept as it was written in the
pattern, and as the value that it has in the brackets.

## Main definitions

* `Expr.Requires` — a call of `require` with a module.
* `Expr.NamesProperty` — a literal in brackets.
* `Stmt.Destructures`, `Stmt.TakesProperty` — the two statements.

## Main results

* `Rules.answers_destructured`, `Rules.answers_propertyTaken` — the two statements are read.
* `parse_of_answers` — a source whose statements are known has a module.
-/

namespace ImportSeam

open TokenParser Rules

variable {r : Rules} {ctx : Context} {b : TokenBuffer} {cs rest : List Char} {kind : TokenKind}
  {text value path : String} {ends : List TokenKind} {least : Nat}

/-! ### What is read -/

/-- The expression is a call of `require` with the module.  The name of the function mentions what
it was given: nothing after reading. -/
def Expr.Requires (callee : Mention) (path : String) (e : Expr) : Prop :=
  ∃ loc nameLoc arg, e =
    .call loc false (.ident ⟨"require", nameLoc, callee⟩) [⟨false, .str arg path⟩]

/-- The expression is a literal that names the property. -/
inductive Expr.NamesProperty : String → Expr → Prop
  | str (loc : Loc) (value : String) : NamesProperty value (.str loc value)
  | num (loc : Loc) (value : Number) : NamesProperty value.text (.num loc value)

/-- The statement binds the name to the property with the key, by a pattern. -/
def Stmt.Destructures (own callee : Mention) (name path key : String) (s : Stmt) : Prop :=
  ∃ loc patLoc idLoc kind init, s = .varDecl loc false .constant
    [⟨.object patLoc [⟨.direct key kind, ⟨.ident ⟨name, idLoc, own⟩, none⟩, false⟩] none,
      some init⟩] ∧ init.Requires callee path

/-- The statement binds the name to the property in brackets. -/
def Stmt.TakesProperty (own callee : Mention) (name path property : String) (s : Stmt) : Prop :=
  ∃ loc idLoc indexLoc call key, s = .varDecl loc false .constant
    [⟨.ident ⟨name, idLoc, own⟩, some (.index indexLoc false call key)⟩] ∧
      call.Requires callee path ∧ key.NamesProperty property

/-! ### Tokens -/

/-- A token in front of a text, which is the same where an operand is expected. -/
structure Opens (cs : List Char) (kind : TokenKind) (text : String) (rest : List Char) : Prop where
  standard : LexesTo .standard cs kind text rest
  operand : LexesTo .operand cs kind text rest

theorem Opens.blank (h : Opens cs kind text rest) : Opens (' ' :: cs) kind text rest :=
  ⟨.blank h.standard, .blank h.operand⟩

theorem IsStringLiteral.opens (h : IsStringLiteral text value) (rest : List Char) :
    Opens (text.toList ++ rest) .str text rest := by
  obtain ⟨hl, hfirst⟩ := h.whole.lexesTo_string rest
  exact ⟨hl, hl.operand hfirst⟩

theorem IsNumberLiteral.opens {n : Number} (h : IsNumberLiteral text n) (hr : EndsNumber rest) :
    Opens (text.toList ++ rest) .num text rest := by
  obtain ⟨hl, hfirst⟩ := h.whole.lexesTo_number (.inl rfl) hr
  exact ⟨hl, hl.operand hfirst⟩

/-- The signs that no longer sign goes on with, whatever follows. -/
def loneSigns : List Punctuator :=
  [.lParen, .rParen, .lBrace, .rBrace, .lBracket, .rBracket, .comma, .colon, .semicolon]

theorem lexesTo_sign (p : Punctuator) (hp : p ∈ loneSigns) (rest : List Char) :
    LexesTo .standard (p.chars ++ rest) (.punct p) p.spelling rest := by
  refine lexesTo_punct ?_
  simp only [loneSigns, List.mem_cons, List.not_mem_nil, or_false] at hp
  rcases hp with rfl | rfl | rfl | rfl | rfl | rfl | rfl | rfl | rfl <;> exact fun _ _ => rfl

/-- A name in front of a text that ends it. -/
theorem opens_name {name : String} (h : ctx.isName kind = true) (hname : IsToken .standard kind name)
    (hr : EndsWord rest) : Opens (name.toList ++ rest) kind name rest := by
  have hword : isMemberName kind = true := by
    revert h
    cases kind <;> first | exact fun _ => rfl | exact fun h => nomatch h
  have hl := lexesTo_word hname hword hr
  obtain ⟨c, cs, hc, hstart⟩ := hname.cons_of_word hword
  exact ⟨hl, hl.operand ⟨c, cs, hc, hstart.ne (by decide)⟩⟩

theorem lexesTo_name {name : String} (h : ctx.isName kind = true)
    (hname : IsToken .standard kind name) (hr : EndsWord rest) :
    LexesTo .standard (name.toList ++ rest) kind name rest := (opens_name h hname hr).standard

theorem opens_require (rest : List Char) :
    Opens ("require".toList ++ '(' :: rest) .ident "require" ('(' :: rest) := by
  have hname : Context.top.isName .ident = true := rfl
  exact opens_name hname (isToken_ident (by decide) (by decide)) (endsWord_cons (by decide) rest)

/-! ### Operands -/

/-- A single token is an operand if it is read as one. -/
theorem Rules.answers_operandExpr {E : TokenBuffer → Prop} {P : Expr → Prop} (r : Rules)
    (h : b.Before cs) (hl : Opens cs kind text rest) (hno : prefixAt? ctx kind = none)
    (hyield : (kind == .keyword .kYield && !ctx.yieldIsName) = false)
    (hprimary : ∀ t c, t.Matches kind text → c.Before cs →
      Answers E P (r.primaryExpr ctx ends t c)) :
    Answers E P (r.operandExpr ctx ends b) := by
  refine (h.answers_peek hl.operand rfl).bind fun t c ht hc => ?_
  rw [ht.kind_eq, hno, hyield]
  exact hprimary t c ht hc

theorem IsStringLiteral.answers_stringValue (hs : IsStringLiteral text value)
    (h : b.Before (text.toList ++ rest)) :
    Answers (TokenBuffer.Before rest) (·.2 = value) (stringValue b) := by
  refine (h.answers_expect (hs.opens rest).standard).bind fun t c ht hc => ?_
  have hvalue : decodeString (unquoted t) = some value := by rw [unquoted, ht.text_eq, hs.value]
  rw [hvalue]
  exact .pure rfl hc

/-- A string is an operand. -/
theorem IsStringLiteral.answers_operand (hs : IsStringLiteral text value)
    (h : b.Before (text.toList ++ rest)) (r : Rules) :
    Answers (TokenBuffer.Before rest) (∃ loc, · = .str loc value) (r.operandExpr ctx ends b) := by
  refine r.answers_operandExpr h (hs.opens rest) rfl rfl fun t c ht hc => ?_
  have hprimary : r.primaryExpr ctx ends t = stringLiteral := by
    unfold primaryExpr
    rw [ht.kind_eq]
  rw [hprimary]
  exact (hs.answers_stringValue hc).bind fun x d hx hd => .pure ⟨x.1, congrArg _ hx⟩ hd

/-- A number is an operand. -/
theorem IsNumberLiteral.answers_operand {n : Number} (hs : IsNumberLiteral text n)
    (hr : EndsNumber rest) (h : b.Before (text.toList ++ rest)) (r : Rules) :
    Answers (TokenBuffer.Before rest) (∃ loc, · = .num loc n) (r.operandExpr ctx ends b) := by
  refine r.answers_operandExpr h (hs.opens hr) rfl rfl fun t c ht hc => ?_
  have hprimary : r.primaryExpr ctx ends t = numberLiteral := by
    unfold primaryExpr
    rw [ht.kind_eq]
  rw [hprimary]
  refine (hc.answers_expect (hs.opens hr).standard).bind fun t d ht hd => ?_
  have hvalue : Number.ofLiteral? t.text = some n := by rw [ht.text_eq, hs.value]
  rw [hvalue]
  exact .pure ⟨t.loc, rfl⟩ hd

theorem answers_bindingName (h : b.Before cs) (hl : LexesTo .standard cs kind text rest)
    (hk : ctx.isName kind = true) :
    Answers (TokenBuffer.Before rest) (∃ loc, · = ⟨text, loc, .unknown⟩) (bindingName ctx b) := by
  refine (h.answers_consume hl rfl).bind fun t c ht hc => ?_
  refine .ite (fun _ => .pure ⟨t.loc, by rw [ht.text_eq]⟩ hc) fun hnot => absurd ?_ hnot
  rw [ht.kind_eq, hk]

/-- A name that is not `async` is an operand, if no arrow stands behind it. -/
theorem Rules.answers_operandName {next : TokenKind} {word : String} {after : List Char} (r : Rules)
    (hname : ctx.isName kind = true) (hasync : text ≠ "async") (h : b.Before cs)
    (hl : Opens cs kind text rest) (hnext : LexesTo .standard rest next word after)
    (harrow : next ≠ .punct .arrow) :
    Answers (TokenBuffer.Before rest) (∃ loc, · = .ident ⟨text, loc, .unknown⟩)
      (r.operandExpr ctx ends b) := by
  obtain ⟨hno, hyield, -⟩ := operandExpr_eq r ends hname (h.upcoming_matches hl.operand rfl).kind_eq
  refine r.answers_operandExpr h hl hno hyield fun t c ht hc => ?_
  rw [(operandExpr_eq r ends hname ht.kind_eq).2.2]
  have hnot : t.isWord "async" = false := by simp [Token.isWord, ht.text_eq, hasync]
  rw [hnot, if_neg Bool.false_ne_true]
  refine (hc.answers_peekTwo hl.standard hnext).bind fun ts d hts hd => ?_
  refine .ite (fun hyes => ?_) fun _ => ?_
  · rw [hts.2.kind_eq] at hyes
    exact absurd (by simpa using hyes) harrow
  · exact (answers_bindingName hd hl.standard hname).bind fun id d hid hd => by
      obtain ⟨loc, rfl⟩ := hid
      exact .pure ⟨loc, rfl⟩ hd

/-! ### Operators -/

/-- An operator behind an expression is applied to it. -/
theorem answers_operator {E F : TokenBuffer → Prop} {P Q : Expr → Prop} {e : Expr} {op : Operator}
    (h : b.Before cs) (hl : LexesTo .standard cs kind text rest) (hends : kind ∉ ends)
    (hupdate : updateOperator? kind = none) (hoperator : kind.infixOperator? = some op)
    (hleast : least ≤ op.precedence)
    (happly : ∀ start t c, t.Matches kind text → c.Before rest →
      Answers E P (r.applyOperator ctx ends start t op e c))
    (htail : ∀ e' c n, P e' → E c → Answers F Q (r.operatorTail ctx least ends e' n c)) :
    ∀ n, Answers F Q (r.operatorTail ctx least ends e n b)
  | 0 => rfl
  | n + 1 => by
    refine Answers.bind (E := (b.Consumes [])) (P := fun _ => True) ⟨trivial, .refl h.1⟩
      fun start c _ hc => ?_
    refine ((h.unread hc).answers_consume hl rfl).bind fun t c ht hc => ?_
    rw [ht.kind_eq, if_neg hends, hupdate, hoperator]
    refine .ite (fun hlt => absurd hleast (Nat.not_le_of_lt hlt)) fun _ => ?_
    exact (happly start t c ht hc).bind fun e' d he' hd => htail e' d n he' hd

/-! ### A call of `require` -/

/-- A rule that reads expressions answers if the production does at every level. -/
theorem Rules.answers_level {E : TokenBuffer → Prop} {P : Expr → Prop}
    (h : ∀ n, Answers E P ((level n).operatorExpr ctx least ends b)) :
    ∀ n, Answers E P ((level n).expr ctx least ends b)
  | 0 => rfl
  | n + 1 => h n

/-- The module is a whole argument. -/
theorem IsStringLiteral.answers_argument (hs : IsStringLiteral text value)
    (h : b.Before (text.toList ++ ')' :: rest)) (n : Nat) :
    Answers (TokenBuffer.Before (')' :: rest)) (∃ loc, · = .str loc value)
      ((level n).assignment ctx [.punct .comma, .punct .rParen] b) := by
  have hclose : LexesTo .standard (')' :: rest) (.punct .rParen) ")" rest :=
    lexesTo_sign .rParen (by decide) rest
  refine answers_level (fun n => ?_) n
  refine (hs.answers_operand h (level n)).bind fun e c he hc => ?_
  exact answers_stop hc hclose (.inl (by decide)) he _

/-- The module in parentheses is the only argument. -/
theorem IsStringLiteral.answers_args (hs : IsStringLiteral text value)
    (h : b.Before (text.toList ++ ')' :: rest)) (n : Nat) :
    Answers (TokenBuffer.Before rest) (∃ loc, · = [⟨false, .str loc value⟩])
      ((level n).args ctx b) := by
  have hl := (hs.opens (')' :: rest)).standard
  have hclose : LexesTo .standard (')' :: rest) (.punct .rParen) ")" rest :=
    lexesTo_sign .rParen (by decide) rest
  have hitem : ∀ {b : TokenBuffer}, b.Before (text.toList ++ ')' :: rest) →
      Answers (TokenBuffer.Before (')' :: rest)) (∃ loc, · = (⟨false, .str loc value⟩ : Arg)) ((do
        let isSpread ← acceptPunct .ellipsis
        let value ← (level n).assignment ctx [.punct .comma, .punct .rParen]
        return ⟨isSpread, value⟩ : TokenParser Arg) b) := by
    intro b h
    refine (h.answers_acceptPunct_of_ne hl (by decide)).bind fun _ c hno hc => ?_
    refine (hs.answers_argument hc n).bind fun e d he hd => ?_
    obtain ⟨loc, rfl⟩ := he
    exact .pure ⟨loc, by rw [hno]⟩ hd
  unfold args
  cases (level n).depth with
  | zero => rfl
  | succ k =>
    refine (h.answers_acceptPunct_of_ne hl (by decide)).bind fun _ c hno hc => ?_
    refine .ite (fun hyes => absurd (hno.symm.trans hyes) Bool.false_ne_true) fun _ => ?_
    refine (hitem hc).bind fun a d ha hd => ?_
    refine (hd.answers_acceptPunct_of_ne hclose (by decide)).bind fun _ e hno he => ?_
    refine .ite (fun hyes => absurd (hno.symm.trans hyes) Bool.false_ne_true) fun _ => ?_
    refine (he.answers_expectPunct hclose rfl).bind fun _ f _ hf => ?_
    obtain ⟨loc, rfl⟩ := ha
    exact .pure ⟨loc, rfl⟩ hf

/-- A call of `require` and what the operators behind it make of it. -/
theorem IsStringLiteral.answers_requireCall {F : TokenBuffer → Prop} {Q : Expr → Prop} {n : Nat}
    (hs : IsStringLiteral text value) (h : b.Before cs)
    (hl : Opens cs .ident "require" ('(' :: (text.toList ++ ')' :: rest)))
    (hends : .punct .lParen ∉ ends) (hleast : least ≤ Operator.call.precedence)
    (htail : ∀ e c k, e.Requires .unknown value → c.Before rest →
      Answers F Q ((level n).operatorTail ctx least ends e k c)) :
    Answers F Q ((level n).operatorExpr ctx least ends b) := by
  have hparen : LexesTo .standard ('(' :: (text.toList ++ ')' :: rest)) (.punct .lParen) "("
      (text.toList ++ ')' :: rest) := lexesTo_sign .lParen (by decide) _
  refine ((level n).answers_operandName rfl (by decide) h hl hparen (by decide)).bind fun e c he hc => ?_
  obtain ⟨callee, rfl⟩ := he
  refine answers_operator (P := (·.Requires .unknown value)) hc hparen hends rfl rfl hleast
    (fun start t d ht hd => ?_) (fun e' d k he' hd => htail e' d k he' hd) _
  have happly : (level n).applyOperator ctx ends start t .call
      (.ident ⟨"require", callee, .unknown⟩) = (do
        let args ← (level n).args ctx
        return .call ((Expr.ident ⟨"require", callee, .unknown⟩).loc.join (← since start)) false
          (.ident ⟨"require", callee, .unknown⟩) args) := by
    unfold applyOperator
    dsimp only
    rw [ht.kind_eq]
    rfl
  rw [happly]
  refine (hs.answers_args hd n).bind fun as d has hd => ?_
  obtain ⟨arg, rfl⟩ := has
  exact ⟨⟨_, callee, arg, rfl⟩, hd⟩

/-! ### Keys -/

variable {source direct property : String}

theorem endsNumber_colon (rest : List Char) : EndsNumber (':' :: rest) := by
  rintro c ⟨⟩
  decide

theorem endsNumber_bracket (rest : List Char) : EndsNumber (']' :: rest) := by
  rintro c ⟨⟩
  decide

/-- A key is a token in front of a text that no number goes on with. -/
theorem IsKeyLiteral.opens (hk : IsKeyLiteral source direct property) (hr : EndsNumber rest) :
    ∃ kind, (kind = .str ∨ kind = .num) ∧ Opens (source.toList ++ rest) kind source rest := by
  cases hk with
  | string hs => exact ⟨.str, .inl rfl, hs.opens rest⟩
  | number hs => exact ⟨.num, .inr rfl, hs.opens hr⟩

/-- A direct key is kept as a string's value, or as it was written if it is a number. -/
theorem IsKeyLiteral.answers_key (hk : IsKeyLiteral source direct property) (hr : EndsNumber rest)
    (h : b.Before (source.toList ++ rest)) (r : Rules) :
    Answers (TokenBuffer.Before rest) (∃ kind, · = .direct direct kind) (r.key ctx false b) := by
  cases hk with
  | string hs =>
    have hl := (hs.opens rest).standard
    refine (h.answers_peek hl rfl).bind fun t c ht hc => ?_
    rw [ht.kind_eq]
    refine (hs.answers_stringValue hc).bind fun x d hx hd => ?_
    exact .pure ⟨_, congrArg (Key.direct · _) hx⟩ hd
  | number hs =>
    have hl := (hs.opens hr).standard
    refine (h.answers_peek hl rfl).bind fun t c ht hc => ?_
    rw [ht.kind_eq]
    refine (hc.answers_skip hl rfl).bind fun _ d _ hd => ?_
    exact .pure ⟨_, congrArg (Key.direct · _) ht.text_eq⟩ hd

/-- A key in brackets is read as the value that it has. -/
theorem IsKeyLiteral.answers_index (hk : IsKeyLiteral source direct property)
    (h : b.Before (source.toList ++ ']' :: rest)) (n : Nat) :
    Answers (TokenBuffer.Before (']' :: rest)) (Expr.NamesProperty property)
      ((level n).sequence ctx [.punct .rBracket] b) := by
  have hclose : LexesTo .standard (']' :: rest) (.punct .rBracket) "]" rest :=
    lexesTo_sign .rBracket (by decide) rest
  refine answers_level (fun n => ?_) n
  have hoperand : Answers (TokenBuffer.Before (']' :: rest)) (Expr.NamesProperty property)
      ((level n).operandExpr ctx [.punct .rBracket] b) := by
    cases hk with
    | string hs =>
      refine (hs.answers_operand h (level n)).mono (fun _ hc => hc) ?_
      rintro _ ⟨loc, rfl⟩
      exact .str loc _
    | number hs =>
      refine (hs.answers_operand (endsNumber_bracket rest) h (level n)).mono (fun _ hc => hc) ?_
      rintro _ ⟨loc, rfl⟩
      exact .num loc _
  exact hoperand.bind fun e c he hc => answers_stop hc hclose (.inl (by decide)) he _

/-! ### Patterns -/

variable {name : String}

theorem answers_namePat (hname : ctx.isName kind = true) (h : b.Before cs)
    (hl : LexesTo .standard cs kind name rest) :
    ∀ n, Answers (TokenBuffer.Before rest) (∃ loc, · = .ident ⟨name, loc, .unknown⟩)
      ((level n).pat ctx b)
  | 0 => rfl
  | n + 1 => by
    refine (h.answers_peekKind hl).bind fun k c hk hc => ?_
    subst hk
    have hident : Answers (TokenBuffer.Before rest) (∃ loc, · = Pat.ident ⟨name, loc, .unknown⟩)
        ((do return .ident (← bindingName ctx) : TokenParser Pat) c) :=
      (answers_bindingName hc hl hname).bind fun id d hid hd => by
        obtain ⟨loc, rfl⟩ := hid
        exact .pure ⟨loc, rfl⟩ hd
    obtain rfl | rfl | ⟨rfl, -⟩ | ⟨rfl, -⟩ := Context.isName_cases hname <;> exact hident

/-- Where no equals sign stands, there is no value. -/
theorem answers_noDefault (h : b.Before cs) (hl : LexesTo .standard cs kind text rest)
    (hk : kind ≠ .punct .assign) :
    Answers (TokenBuffer.Before cs) (· = none) (r.default? ctx ends b) :=
  (h.answers_acceptPunct_of_ne hl hk).bind fun _ c hno hc => by
    subst hno
    exact .pure rfl hc

section

variable (hk : IsKeyLiteral source direct property) (hname : ctx.isName kind = true)
  (htoken : IsToken .standard kind name)
include hk hname htoken

/-- A key with a name. -/
theorem answers_propPat
    (h : b.Before (source.toList ++ ':' :: ' ' :: (name.toList ++ '\x7d' :: rest))) (n : Nat) :
    Answers (TokenBuffer.Before ('\x7d' :: rest))
      (∃ kind loc, · = ⟨.direct direct kind, ⟨.ident ⟨name, loc, .unknown⟩, none⟩, false⟩)
      ((level n).propPat ctx b) := by
  have hr := endsNumber_colon (' ' :: (name.toList ++ '\x7d' :: rest))
  have hcolon : LexesTo .standard (':' :: ' ' :: (name.toList ++ '\x7d' :: rest)) (.punct .colon)
      ":" (' ' :: (name.toList ++ '\x7d' :: rest)) := lexesTo_sign .colon (by decide) _
  have hbrace : LexesTo .standard ('\x7d' :: rest) (.punct .rBrace) "\x7d" rest :=
    lexesTo_sign .rBrace (by decide) rest
  have hword : LexesTo .standard (name.toList ++ '\x7d' :: rest) kind name ('\x7d' :: rest) :=
    lexesTo_name hname htoken (endsWord_cons (by decide) rest)
  obtain ⟨keyKind, -, hl⟩ := hk.opens hr
  refine (h.answers_peek hl.standard rfl).bind fun t b₁ _ h₁ => ?_
  refine (hk.answers_key hr h₁ _).bind fun key b₂ hkey h₂ => ?_
  refine (h₂.answers_acceptPunct hcolon rfl).bind fun _ b₃ hyes h₃ => ?_
  refine .ite (fun _ => ?_) fun hno => absurd hyes hno
  refine (answers_namePat hname h₃ (.blank hword) n).bind fun p b₄ hp h₄ => ?_
  refine (answers_noDefault h₄ hbrace (by decide)).bind fun o b₅ ho h₅ => ?_
  obtain ⟨keyKind, rfl⟩ := hkey
  obtain ⟨loc, rfl⟩ := hp
  subst ho
  exact .pure ⟨keyKind, loc, rfl⟩ h₅

/-- The properties of a pattern that has one. -/
theorem answers_propPats {n : Nat}
    (h : b.Before (source.toList ++ ':' :: ' ' :: (name.toList ++ '\x7d' :: rest))) :
    ∀ k, Answers (TokenBuffer.Before rest)
      (∃ kind loc, · = ([⟨.direct direct kind, ⟨.ident ⟨name, loc, .unknown⟩, none⟩, false⟩], none))
      ((level n).propPats ctx k b)
  | 0 => rfl
  | k + 1 => by
    have hbrace : LexesTo .standard ('\x7d' :: rest) (.punct .rBrace) "\x7d" rest :=
      lexesTo_sign .rBrace (by decide) rest
    obtain ⟨keyKind, hkey, hl⟩ := hk.opens (endsNumber_colon _)
    have hsign : ∀ p : Punctuator, keyKind ≠ .punct p := by
      rintro p rfl
      rcases hkey with hkey | hkey <;> cases hkey
    refine (h.answers_acceptPunct_of_ne hl.standard (hsign _)).bind fun _ b₁ hno h₁ => ?_
    refine .ite (fun hyes => absurd (hno.symm.trans hyes) Bool.false_ne_true) fun _ => ?_
    refine (h₁.answers_acceptPunct_of_ne hl.standard (hsign _)).bind fun _ b₂ hno h₂ => ?_
    refine .ite (fun hyes => absurd (hno.symm.trans hyes) Bool.false_ne_true) fun _ => ?_
    refine (answers_propPat hk hname htoken h₂ n).bind fun prop b₃ hprop h₃ => ?_
    refine (h₃.answers_acceptPunct_of_ne hbrace (by decide)).bind fun _ b₄ hno h₄ => ?_
    refine .ite (fun hyes => absurd (hno.symm.trans hyes) Bool.false_ne_true) fun _ => ?_
    refine (h₄.answers_expectPunct hbrace rfl).bind fun _ b₅ _ h₅ => ?_
    obtain ⟨keyKind, loc, rfl⟩ := hprop
    exact .pure ⟨keyKind, loc, rfl⟩ h₅

/-- A pattern with one property. -/
theorem answers_objectPat
    (h : b.Before
      (' ' :: '\x7b' :: (source.toList ++ ':' :: ' ' :: (name.toList ++ '\x7d' :: rest)))) :
    ∀ n, Answers (TokenBuffer.Before rest)
      (∃ patLoc kind loc, · = .object patLoc
        [⟨.direct direct kind, ⟨.ident ⟨name, loc, .unknown⟩, none⟩, false⟩] none)
      ((level n).pat ctx b)
  | 0 => rfl
  | n + 1 => by
    have hopen : LexesTo .standard
        (' ' :: '\x7b' :: (source.toList ++ ':' :: ' ' :: (name.toList ++ '\x7d' :: rest)))
        (.punct .lBrace) "\x7b" (source.toList ++ ':' :: ' ' :: (name.toList ++ '\x7d' :: rest)) :=
      .blank (lexesTo_sign .lBrace (by decide) _)
    refine (h.answers_peekKind hopen).bind fun k b₁ hk₁ h₁ => ?_
    subst hk₁
    refine Answers.spanning ?_
    refine (h₁.answers_expectPunct hopen rfl).bind fun _ b₂ _ h₂ => ?_
    refine (answers_propPats hk hname htoken h₂ (level n).depth).bind fun ps c hps hc => ?_
    obtain ⟨keyKind, loc, rfl⟩ := hps
    exact .pure (fun patLoc => ⟨patLoc, keyKind, loc, rfl⟩) hc

end

/-! ### Declarations -/

theorem lexesTo_semicolon (rest : List Char) :
    LexesTo .standard (';' :: rest) (.punct .semicolon) ";" rest :=
  lexesTo_sign .semicolon (by decide) rest

theorem answers_semicolon (h : b.Before (';' :: rest)) :
    Answers (TokenBuffer.Before rest) (fun _ => True) (semicolon b) := by
  have hl := lexesTo_semicolon rest
  refine (h.answers_peek hl rfl).bind fun t c ht hc => ?_
  refine .ite (fun _ => hc.answers_skip hl rfl) fun hno => absurd ?_ hno
  rw [ht.kind_eq]
  rfl

theorem lexesTo_const (hcs : EndsWord cs) :
    LexesTo .standard ("const".toList ++ cs) (.keyword .kConst) "const" cs :=
  lexesTo_word (isToken_keyword .kConst) rfl hcs

/-- The statement declares a constant, whose pattern and value are as described. -/
def Stmt.Declares (T : Pat → Prop) (I : Expr → Prop) (s : Stmt) : Prop :=
  ∃ loc p e, s = .varDecl loc false .constant [⟨p, some e⟩] ∧ T p ∧ I e

section

variable {T : Pat → Prop} {I : Expr → Prop} {inner : List Char}
  (hpat : ∀ {c}, c.Before cs →
    Answers (TokenBuffer.Before (' ' :: '=' :: ' ' :: inner)) T (r.pat ctx c))
  (hinit : ∀ {c}, c.Before (' ' :: inner) →
    Answers (TokenBuffer.Before (';' :: rest)) I (r.assignment ctx [.punct .comma] c))
include hpat hinit

theorem answers_varBinders (h : b.Before cs) :
    ∀ k, Answers (TokenBuffer.Before (';' :: rest)) (∃ p e, · = [⟨p, some e⟩] ∧ T p ∧ I e)
      (r.varBinders ctx [] k b)
  | 0 => rfl
  | k + 1 => by
    have hassign :
        LexesTo .standard (' ' :: '=' :: ' ' :: inner) (.punct .assign) "=" (' ' :: inner) :=
      .blank (lexesTo_punct (Punctuator.stands_blank .assign inner))
    have hsemicolon := lexesTo_semicolon rest
    refine (hpat h).bind fun p b₁ hp h₁ => ?_
    have hvalue : Answers (TokenBuffer.Before (';' :: rest)) (∃ e, · = some e ∧ I e)
        (r.default? ctx [.punct .comma] b₁) := by
      refine (h₁.answers_acceptPunct hassign rfl).bind fun flag b₂ hyes h₂ => ?_
      subst hyes
      exact (hinit h₂).bind fun e b₃ he h₃ => .pure ⟨e, rfl, he⟩ h₃
    refine hvalue.bind fun o b₂ ho h₂ => ?_
    refine (h₂.answers_acceptPunct_of_ne hsemicolon (by decide)).bind fun _ b₃ hno h₃ => ?_
    refine .ite (fun hyes => absurd (hno.symm.trans hyes) Bool.false_ne_true) fun _ => ?_
    obtain ⟨e, rfl, he⟩ := ho
    exact .pure ⟨p, e, rfl, hp, he⟩ h₃

theorem answers_varDecl
    (hconst : LexesTo .standard ("const".toList ++ cs) (.keyword .kConst) "const" cs)
    (h : b.Before ("const".toList ++ cs)) :
    Answers (TokenBuffer.Before (';' :: rest)) (fun build => ∀ loc, (build loc).Declares T I)
      (r.varDecl ctx false b) := by
  have hmode : Answers (TokenBuffer.Before cs) (· = .constant) (varMode b) := by
    refine (h.answers_consume hconst rfl).bind fun t c ht hc => ?_
    rw [ht.kind_eq]
    exact .pure rfl hc
  have hparts : Answers (TokenBuffer.Before (';' :: rest))
      (∃ p e, · = (.constant, [⟨p, some e⟩]) ∧ T p ∧ I e) (r.varParts ctx [] b) := by
    refine hmode.bind fun mode c hmode hc => ?_
    subst hmode
    refine (answers_varBinders hpat hinit hc _).bind fun bs d hbs hd => ?_
    obtain ⟨p, e, rfl, hp, he⟩ := hbs
    exact .pure ⟨p, e, rfl, hp, he⟩ hd
  refine hparts.bind fun parts c hparts hc => ?_
  obtain ⟨p, e, rfl, hp, he⟩ := hparts
  exact .pure (fun loc => ⟨loc, p, e, rfl, hp, he⟩) hc

/-- A declaration of a constant with a value. -/
theorem answers_constant (hcs : EndsWord cs) (h : b.Before ("const".toList ++ cs)) :
    Answers (TokenBuffer.Before rest) (Stmt.Declares T I) (r.statement ctx b) := by
  have hconst := lexesTo_const hcs
  refine (h.answers_peekFirst hconst).bind fun ts c hts hc => ?_
  obtain ⟨t, next⟩ := ts
  have hkind : t.kind = .keyword .kConst := hts.kind_eq
  have hplain : r.plainStmt ctx t next = r.varStmt ctx := by
    unfold plainStmt
    rw [startsVarDecl, hkind]
    rfl
  dsimp only
  rw [hkind, hplain]
  refine (Answers.spanning (answers_varDecl hpat hinit hconst hc)).bind fun s d hs hd => ?_
  exact (answers_semicolon hd).bind fun _ e _ he => .pure hs he

end

/-! ### Modules -/

/-- A module of one statement, behind which the source ends. -/
theorem answers_program {V : Stmt → Prop} (h : b.Before cs)
    (hl : LexesTo .standard cs kind text rest) (hk : kind ≠ .eof)
    (hstmt : ∀ {c}, c.Before cs → ∀ n, Answers (TokenBuffer.Before []) V ((level n).stmt .top c))
    (n : Nat) : Answers (fun _ => True) (∃ s, · = [s] ∧ V s) ((level n).program b) := by
  have hstmts : Answers (TokenBuffer.Before []) (∃ s, · = [s] ∧ V s)
      ((level n).stmtsUntil .top .eof b) := by
    refine Answers.collect_one (E := TokenBuffer.Before []) ?_ (fun c hc => ?_) _
    · -- the first round reads the statement
      refine (h.answers_peek hl rfl).bind fun t c ht hc => ?_
      have hne : t.kind ≠ .eof := by rwa [ht.kind_eq]
      refine .ite (fun heof => absurd (by simpa using heof) hne) fun _ => ?_
      refine .ite (fun heof => absurd (by simpa using heof) hne) fun _ => ?_
      exact (hstmt hc n).bind fun s d hs hd => .pure ⟨s, rfl, hs⟩ hd
    · -- the second round finds the end of the source
      refine (hc.answers_peek lexesTo_end rfl).bind fun t d ht hd => ?_
      refine .ite (fun _ => .pure rfl hd) fun hno => absurd ?_ hno
      rw [ht.kind_eq]
      rfl
  refine hstmts.bind fun body c hbody hc => ?_
  refine Answers.bind (E := TokenBuffer.Before []) (P := fun _ => True) ?_
    fun _ d _ _ => .pure hbody trivial
  exact (hc.answers_expect lexesTo_end).bind fun _ d _ hd => .pure trivial hd

/-- **A source whose statements are known** has a module with them. -/
theorem parse_of_answers {E : TokenBuffer → Prop} {V : List Stmt → Prop}
    (h : ∀ n, Answers E V ((level n).program (.ofString source))) :
    ∃ p, Program.parse source = .ok p ∧ V p.body := by
  obtain ⟨⟨b, -, hparse⟩, -⟩ := parse_total source
  have hanswer : Answers E V ((grammar source.length).program (.ofString source)) := h _
  rcases hparse with ⟨p, hp, hbody⟩ | ⟨e, -, herror, hlocated⟩
  · rw [hbody] at hanswer
    exact ⟨p, hp, hanswer.1⟩
  · rw [herror] at hanswer
    exact absurd (hlocated.1.symm.trans hanswer) Bool.false_ne_true

/-! ### The two sources -/

/-- The source `const {key: name} = require(path);`. -/
def destructuring (key name path : String) : String :=
  "const \x7b" ++ key ++ ": " ++ name ++ "\x7d = require(" ++ path ++ ");"

/-- The source `const name = require(path)[key];`. -/
def propertyAccess (key name path : String) : String :=
  "const " ++ name ++ " = require(" ++ path ++ ")[" ++ key ++ "];"

theorem toList_destructuring (key name path : String) :
    (destructuring key name path).toList = "const".toList ++ ' ' :: '\x7b' ::
      (key.toList ++ ':' :: ' ' :: (name.toList ++ '\x7d' :: ' ' :: '=' :: ' ' ::
        ("require".toList ++ '(' :: (path.toList ++ ')' :: [';'])))) := by
  simp [destructuring]

theorem toList_propertyAccess (key name path : String) :
    (propertyAccess key name path).toList = "const".toList ++ ' ' ::
      (name.toList ++ ' ' :: '=' :: ' ' :: ("require".toList ++ '(' ::
        (path.toList ++ ')' :: '[' :: (key.toList ++ ']' :: [';'])))) := by
  simp [propertyAccess]

section

variable {pathText : String} (hp : IsStringLiteral pathText path)
include hp

/-- The value of the first source: the result of `require`. -/
theorem IsStringLiteral.answers_result
    (h : b.Before (' ' :: ("require".toList ++ '(' :: (pathText.toList ++ ')' :: ';' :: rest))))
    (n : Nat) : Answers (TokenBuffer.Before (';' :: rest)) (Expr.Requires .unknown path)
      ((level n).assignment ctx [.punct .comma] b) :=
  answers_level (fun n => hp.answers_requireCall h (opens_require _).blank (by decide) (by decide)
    fun _ _ k he hc => answers_stop hc (lexesTo_semicolon rest) (.inr ⟨rfl, rfl⟩) he k) n

/-- The value of the second source: a property of the result. -/
theorem IsStringLiteral.answers_property (hk : IsKeyLiteral source direct property)
    (h : b.Before (' ' :: ("require".toList ++ '(' :: (pathText.toList ++ ')' :: '[' ::
      (source.toList ++ ']' :: ';' :: rest))))) (n : Nat) :
    Answers (TokenBuffer.Before (';' :: rest))
      (∃ loc call key, · = .index loc false call key ∧ call.Requires .unknown path ∧
        key.NamesProperty property)
      ((level n).assignment ctx [.punct .comma] b) := by
  have hopen : LexesTo .standard ('[' :: (source.toList ++ ']' :: ';' :: rest)) (.punct .lBracket)
      "[" (source.toList ++ ']' :: ';' :: rest) := lexesTo_sign .lBracket (by decide) _
  have hclose : LexesTo .standard (']' :: ';' :: rest) (.punct .rBracket) "]" (';' :: rest) :=
    lexesTo_sign .rBracket (by decide) _
  refine answers_level (fun n => hp.answers_requireCall h (opens_require _).blank (by decide)
    (by decide) fun call c k hcall hc => ?_) n
  refine answers_operator hc hopen (by decide) rfl rfl (by decide) (fun start t d _ hd => ?_)
    (fun e d k he hd => answers_stop hd (lexesTo_semicolon rest) (.inr ⟨rfl, rfl⟩) he k) k
  refine (hk.answers_index hd n).bind fun key d hkey hd => ?_
  refine (hd.answers_expect hclose).bind fun close d _ hd => ?_
  exact .pure ⟨_, call, key, rfl, hcall, hkey⟩ hd

variable (hk : IsKeyLiteral source direct property) (hname : Context.top.Names name)
include hk hname

/-- **The property taken by a pattern** is a module of one statement. -/
theorem exists_destructures : ∃ p, Program.parse (destructuring source name pathText) = .ok p ∧
    ∃ s, p.body = [s] ∧ s.Destructures .unknown .unknown name path direct := by
  obtain ⟨kind, hkind, htoken⟩ := hname
  refine parse_of_answers (E := fun _ => True)
    (V := fun body => ∃ s, body = [s] ∧ s.Destructures .unknown .unknown name path direct)
    fun n => ?_
  have hbefore : (TokenBuffer.ofString (destructuring source name pathText)).Before _ :=
    ⟨TokenBuffer.coherent_ofString _, toList_destructuring source name pathText⟩
  refine answers_program hbefore (lexesTo_const (endsWord_cons (by decide) _)) (by decide)
    (fun {c} hc n => ?_) n
  cases n with
  | zero => rfl
  | succ n =>
    refine (answers_constant (r := level n) (fun hc => answers_objectPat hk hkind htoken hc n)
      (fun hc => hp.answers_result hc n) (endsWord_cons (by decide) _) hc).mono (fun _ hd => hd) ?_
    rintro s ⟨loc, _, init, rfl, ⟨patLoc, keyKind, idLoc, rfl⟩, hinit⟩
    exact ⟨loc, patLoc, idLoc, keyKind, init, rfl, hinit⟩

/-- **The property taken in brackets** is a module of one statement. -/
theorem exists_takesProperty : ∃ p, Program.parse (propertyAccess source name pathText) = .ok p ∧
    ∃ s, p.body = [s] ∧ s.TakesProperty .unknown .unknown name path property := by
  obtain ⟨kind, hkind, htoken⟩ := hname
  refine parse_of_answers (E := fun _ => True)
    (V := fun body => ∃ s, body = [s] ∧ s.TakesProperty .unknown .unknown name path property)
    fun n => ?_
  have hbefore : (TokenBuffer.ofString (propertyAccess source name pathText)).Before _ :=
    ⟨TokenBuffer.coherent_ofString _, toList_propertyAccess source name pathText⟩
  refine answers_program hbefore (lexesTo_const (endsWord_cons (by decide) _)) (by decide)
    (fun {c} hc n => ?_) n
  cases n with
  | zero => rfl
  | succ n =>
    have hword := fun rest => lexesTo_name hkind htoken (endsWord_cons (c := ' ') (by decide) rest)
    refine (answers_constant (r := level n)
      (fun hc => answers_namePat hkind hc (.blank (hword _)) n)
      (fun hc => hp.answers_property hk hc n) (endsWord_cons (by decide) _) hc).mono
      (fun _ hd => hd) ?_
    rintro s ⟨loc, _, _, rfl, ⟨idLoc, rfl⟩, indexLoc, call, key, rfl, hcall, hkey⟩
    exact ⟨loc, idLoc, indexLoc, call, key, rfl, hcall, hkey⟩

end

end ImportSeam
