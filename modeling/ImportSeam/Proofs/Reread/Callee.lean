import ImportSeam.Proofs.Require.Reading
import ImportSeam.Proofs.Text.Quoted

/-!
# Callees of `new`

What stands behind `new` is read by rules of its own: an operand, or another `new`, with members, keys
and templates behind it.  Arguments belong to the `new`, and a link that is optional to no callee.  The
printer puts a callee in parentheses where it contains a call or holds together less tightly than an
access.  So a callee without parentheses is read back if its parts are, unless one of its links is
optional: there it ends too early, and the rest of it is read as something else.

## Main definitions

* `Expr.linksOptionally` — whether a link of the callee is optional.
* `Expr.Linked` — the parts of a callee are read back.
* `ArgsRead` — the arguments are, or there are none.

## Main results

* `Expr.Linked.answers` — a callee without optional links is read whole.
* `Expr.Linked.answers_optional` — a callee with one ends before it.
* `headReads_name`, `Expr.Linked.stringKey`, `argsRead_string` — names and strings are read back as
  parts of a callee.
* `construct_reread_iff` — **a `new` expression is read back exactly if no link is optional.**
* `optionalCallee_split` — a source that is printed as a different one.
* `idleCallee_changed` — what is printed need not be read as the same statements.
-/

namespace ImportSeam

open TokenParser Rules Layout

variable {b c : TokenBuffer} {ctx : Context} {depth n : Nat} {cs rest after : List Char}
  {kind : TokenKind} {word : String} {e : Expr} {args : Option (List Arg)} {r : Rules}
  {E F : TokenBuffer → Prop} {P Q : Expr → Prop}

/-! ### What is printed -/

/-- What is printed for an expression in front of a link. -/
def Expr.site (depth : Nat) (e : Expr) : List Char :=
  (operand accessPrecedence e (e.bare depth)).chars

/-- What is printed for a callee. -/
def Expr.calleeChars (depth : Nat) (e : Expr) : List Char :=
  (operandOr e.containsCall accessPrecedence e (e.bare depth)).chars

/-- What is printed for the arguments of `new`, which may be missing. -/
def optArgsChars (depth : Nat) : Option (List Arg) → List Char
  | none => []
  | some args => (parens (commas (argLayouts depth args))).chars

namespace Expr

variable (loc : Loc)

theorem site_eq (h : accessPrecedence ≤ e.precedence) : e.site depth = (e.bare depth).chars := by
  rw [site, Layout.operand, chars_append, chars_commentsBefore, List.nil_append,
    if_neg (Nat.not_lt.mpr h)]

theorem calleeChars_eq (h : e.containsCall = false) : e.calleeChars depth = e.site depth := by
  rw [calleeChars, h]
  rfl

theorem site_member (optional : Bool) (hnum : ∀ l v, optional = false → e ≠ .num l v)
    (p : String) : (member loc optional e p).site depth =
      e.site depth ++ ((if optional then "?." else ".").toList ++ p.toList) := by
  have hbare : (member loc optional e p).bare depth = operand accessPrecedence e (e.bare depth) ++
      Layout.word (if optional then "?." else ".") ++ Layout.word p := by
    cases optional with
    | true => rfl
    | false =>
      cases e with
      | num l v => exact absurd rfl (hnum l v rfl)
      | _ => rfl
  rw [site_eq (Nat.le_refl _), hbare]
  simp only [chars_append, chars_word, List.append_assoc, site]

/-- A number before a point is printed in a way of its own. -/
theorem site_point (l : Loc) (v : Number) (p : String) :
    (member loc false (num l v) p).site depth = (numberBeforeDot v).chars ++ '.' :: p.toList := by
  rw [site_eq (Nat.le_refl _)]
  change Layout.chars (numberBeforeDot v ++ Layout.word "." ++ Layout.word p) = _
  simp

theorem site_index (optional : Bool) (e k : Expr) : (index loc optional e k).site depth =
    e.site depth ++ ((if optional then "?.".toList else []) ++
      '[' :: ((operand 0 k (k.bare depth)).chars ++ [']'])) := by
  rw [site_eq (Nat.le_refl _)]
  change Layout.chars (operand _ e _ ++ Layout.when _ _ ++ brackets (operand 0 k _)) = _
  simp [site]

theorem site_tagged (t : Expr) (parts : List TemplatePart) : (tagged loc t parts).site depth =
    t.site depth ++ (Layout.template (templateLayouts depth parts)).chars :=
  (site_eq (Nat.le_refl _)).trans (chars_append _ _)

theorem chars_construct (f : Expr) (args : Option (List Arg)) :
    ((construct loc f args).bare depth).chars =
      "new".toList ++ ' ' :: (f.calleeChars depth ++ optArgsChars depth args) := by
  cases args with
  | none =>
    change Layout.chars (Layout.word "new " ++ operandOr _ _ f _ ++ []) = _
    simp [optArgsChars, calleeChars]
  | some args =>
    change Layout.chars (Layout.word "new " ++ operandOr _ _ f _ ++
      parens (commas (argLayouts depth args))) = _
    simp [optArgsChars, calleeChars]

/-- A `new` expression with arguments needs no parentheses in front of a link. -/
theorem site_construct (f : Expr) (args : List Arg) (rest : List Char) :
    (construct loc f (some args)).site depth ++ rest =
      "new".toList ++ ' ' :: (f.calleeChars depth ++ (optArgsChars depth (some args) ++ rest)) := by
  rw [site_eq (Nat.le_refl _), chars_construct]
  simp

end Expr

theorem lexesTo_new (rest : List Char) :
    LexesTo .standard ("new".toList ++ ' ' :: rest) (.keyword .kNew) "new" (' ' :: rest) :=
  lexesTo_word (isToken_keyword .kNew) rfl (endsWord_cons (by decide) rest)

/-! ### Room for what is read -/

theorem TokenBuffer.Before.left_eq (h : b.Before cs) : b.left = cs.length :=
  congrArg List.length h.2

theorem LexesTo.length_add_le {mode : LexMode} (h : LexesTo mode cs kind word rest) :
    word.toList.length + rest.length ≤ cs.length := by
  induction h with
  | token => rw [List.length_append]
  | blank _ ih => exact Nat.le_succ_of_le ih

/-- Behind the word `new` one level less is enough. -/
theorem TokenBuffer.Before.room_behind_new {ds : List Char} (hb : b.Before cs)
    (hnew : LexesTo .standard cs (.keyword .kNew) "new" rest) (hc : c.Before ds)
    (hds : ds.length ≤ rest.length) (hn : 2 * b.left + 1 ≤ n) : 2 * c.left + 2 ≤ n := by
  have hle := hnew.length_add_le
  have hword : "new".toList.length = 3 := rfl
  rw [hb.left_eq] at hn
  rw [hc.left_eq]
  omega

/-! ### The steps of reading a callee -/

/-- The expression that a callee starts with. -/
def Rules.calleeHead (r : Rules) (ctx : Context) : TokenParser Expr := do
  if (← peekKind) == .keyword .kNew then r.construct ctx else r.operand ctx []

/-- A whole callee, with a bound on its links. -/
def Rules.callee (r : Rules) (ctx : Context) (bound : Nat) : TokenParser Expr := do
  r.calleeTail ctx (← r.calleeHead ctx) bound

/-- The arguments of `new`, if there are any. -/
def Rules.args? (r : Rules) (ctx : Context) : TokenParser (Option (List Arg)) := do
  optionally (← acceptPunct .lParen) (r.args ctx)

theorem Rules.constructExpr_eq (r : Rules) (ctx : Context) : r.constructExpr ctx = spanning (do
    expectKeyword .kNew
    if ← acceptPunct .dot then
      discard (expectWord "target")
      return .newTarget
    else do
      let callee ← r.callee ctx r.depth
      let args ← r.args? ctx
      return fun loc => .construct loc callee args) := by
  unfold constructExpr callee calleeHead args?
  simp only [bind_assoc]
  -- what follows the head is written once for each of the two ways to read it
  congr
  funext _
  congr
  funext ok
  congr
  funext k
  split <;> rfl

/-- Whether a token goes on with a callee. -/
def TokenKind.linksCallee (kind : TokenKind) : Bool :=
  kind ∈ [.punct .dot, .punct .lBracket, .templateChunk, .templateEnd]

/-- In front of any other token the callee is complete. -/
theorem Rules.answers_calleeEnd (h : b.Before cs) (hl : LexesTo .standard cs kind word rest)
    (hk : kind.linksCallee = false) (e : Expr) :
    ∀ k, Answers (TokenBuffer.Before cs) (· = e) (r.calleeTail ctx e k b)
  | 0 => rfl
  | k + 1 => (h.answers_peekKind hl).bind fun kind' c hkind hc => by
    subst hkind
    split
    · exact absurd hk (by decide)
    · exact absurd hk (by decide)
    · exact absurd hk (by decide)
    · exact absurd hk (by decide)
    · exact .pure rfl hc

/-- In front of the rest, reading a callee goes on from the expression to an answer. -/
def Rules.GoesOnFrom (r : Rules) (ctx : Context) (e : Expr) (rest : List Char)
    (F : TokenBuffer → Prop) (Q : Expr → Prop) : Prop :=
  ∀ e' c k, e'.unmarked = e.unmarked → c.Before rest → Answers F Q (r.calleeTail ctx e' k c)

namespace Rules.GoesOnFrom

theorem ofEnd (hl : LexesTo .standard rest kind word after) (hk : kind.linksCallee = false)
    (hE : ∀ c, c.Before rest → E c) (hQ : ∀ e', e'.unmarked = e.unmarked → Q e') :
    r.GoesOnFrom ctx e rest E Q := by
  intro e' c k he' hc
  refine (answers_calleeEnd hc hl hk e' k).mono hE ?_
  rintro _ rfl
  exact hQ _ he'

/-- The name of a member behind its point. -/
theorem answers_memberAccess {p : String} (hp : IsMemberName p) (hend : EndsWord rest)
    (h : b.Before (p.toList ++ rest)) (optional : Bool) (e : Expr) :
    Answers (TokenBuffer.Before rest) (∃ loc, · = .member loc optional e p)
      (memberAccess e optional b) := by
  obtain ⟨kind, hkind, htoken⟩ := hp
  refine (h.answers_consume (lexesTo_word htoken hkind hend) rfl).bind fun t c ht hc => ?_
  refine .ite (fun hnot => ?_) fun _ => .pure ⟨_, by rw [ht.text_eq]⟩ hc
  rw [ht.kind_eq, hkind] at hnot
  exact nomatch hnot

theorem member {loc : Loc} {p : String} (hp : IsMemberName p) (hend : EndsWord rest)
    (h : r.GoesOnFrom ctx (.member loc false e p) rest F Q) :
    r.GoesOnFrom ctx e (".".toList ++ (p.toList ++ rest)) F Q
  | _, _, 0, _, _ => rfl
  | e', c, k + 1, he', hc => by
    have hl := (goesOn_member false hp rest).lexes
    refine (hc.answers_peekKind hl).bind fun kind d hkind hd => ?_
    subst hkind
    refine (hd.answers_skip hl rfl).bind fun _ d _ hd => ?_
    refine (answers_memberAccess hp hend hd false e').bind fun e'' d he'' hd => ?_
    obtain ⟨loc', rfl⟩ := he''
    exact h _ d k (congrArg (Expr.member _ false · p) he') hd

theorem index {loc : Loc} {k : Expr} {key : List Char}
    (hkey : ∀ c, c.Before (key ++ ']' :: rest) → Answers (TokenBuffer.Before (']' :: rest))
      (·.unmarked = k.unmarked) (r.sequence ctx [.punct .rBracket] c))
    (h : r.GoesOnFrom ctx (.index loc false e k) rest F Q) :
    r.GoesOnFrom ctx e ('[' :: (key ++ ']' :: rest)) F Q
  | _, _, 0, _, _ => rfl
  | e', c, m + 1, he', hc => by
    have hopen := lexesTo_sign .lBracket (by decide) (key ++ ']' :: rest)
    have hclose := lexesTo_sign .rBracket (by decide) rest
    refine (hc.answers_peekKind hopen).bind fun kind d hkind hd => ?_
    subst hkind
    refine (hd.answers_skip hopen rfl).bind fun _ d _ hd => ?_
    have hindex : Answers (TokenBuffer.Before rest)
        (·.unmarked = (Expr.index loc false e k).unmarked) (r.indexAccess ctx e' false d) := by
      refine (hkey d hd).bind fun k' d hk' hd => ?_
      exact (hd.answers_expect hclose).bind fun t d _ hd =>
        .pure (congrArg₂ (Expr.index _ false) he' hk') hd
    exact hindex.bind fun e'' d he'' hd => h e'' d m he'' hd

theorem tagged {loc : Loc} {parts : List TemplatePart}
    (hl : LexesTo .standard cs kind word after) (hk : kind = .templateChunk ∨ kind = .templateEnd)
    (hparts : ∀ t c, t.Matches kind word → c.Before after → Answers (TokenBuffer.Before rest)
      (fun x => templateUnmarked x.1 = templateUnmarked parts) (r.templateAfter ctx t c))
    (h : r.GoesOnFrom ctx (.tagged loc e parts) rest F Q) : r.GoesOnFrom ctx e cs F Q
  | _, _, 0, _, _ => rfl
  | e', c, m + 1, he', hc => by
    refine (hc.answers_peekKind hl).bind fun kind' d hkind hd => ?_
    have htagged : ∀ t d, t.Matches kind word → d.Before after → Answers (TokenBuffer.Before rest)
        (·.unmarked = (Expr.tagged loc e parts).unmarked) (r.taggedTemplate ctx e' t d) := by
      intro t d ht hd
      exact (hparts t d ht hd).bind fun x d hx hd => .pure (congrArg₂ (Expr.tagged _) he' hx) hd
    have hnext : Answers F Q ((do
        let first ← consume
        r.calleeTail ctx (← r.taggedTemplate ctx e' first) m : TokenParser Expr) d) := by
      refine (hd.answers_consume hl rfl).bind fun t d ht hd => ?_
      exact (htagged t d ht hd).bind fun e'' d he'' hd => h e'' d m he'' hd
    rw [hkind]
    rcases hk with rfl | rfl <;> exact hnext

end Rules.GoesOnFrom

/-- Another `new` at the beginning of a callee is read one level below. -/
theorem Rules.answers_calleeHead_new (hb : b.Before cs)
    (hnew : LexesTo .standard cs (.keyword .kNew) "new" rest)
    (h : ∀ c m, n = m + 1 → c.Before cs → Answers E P ((level m).constructExpr ctx c)) :
    Answers E P ((level n).calleeHead ctx b) := by
  refine (hb.answers_peekKind hnew).bind fun kind c hkind hc => ?_
  subst hkind
  cases n with
  | zero => rfl
  | succ m => exact h c m rfl hc

/-- **A `new` expression is read** if its callee is and what stands behind it. -/
theorem Rules.answers_constructExpr (hb : b.Before cs)
    (hnew : LexesTo .standard cs (.keyword .kNew) "new" rest)
    (hopens : LexesTo .standard rest kind word after) (hdot : kind ≠ .punct .dot)
    (hcallee : ∀ c k, c.Before rest → Answers E P (r.callee ctx k c))
    (hargs : ∀ f c, P f → E c →
      Answers F (fun args => ∀ loc, Q (.construct loc f args)) (r.args? ctx c)) :
    Answers F Q (r.constructExpr ctx b) := by
  rw [constructExpr_eq]
  have hskip : Answers (TokenBuffer.Before rest) (fun _ => True) (expectKeyword .kNew b) :=
    (hb.answers_expect hnew).bind fun _ c _ hc => .pure trivial hc
  refine Answers.spanning (hskip.bind fun _ c _ hc => ?_)
  refine (hc.answers_acceptPunct_of_ne hopens hdot).bind fun ok d hok hd => ?_
  subst hok
  refine (hcallee d _ hd).bind fun f d hf hd => ?_
  exact (hargs f d hf hd).bind fun args d hargs hd => .pure hargs hd

/-! ### Callees whose parts are read back -/

/-- Whether a link of the callee is optional. -/
def Expr.linksOptionally : Expr → Bool
  | .member _ optional e _ => optional || e.linksOptionally
  | .index _ optional e _ => optional || e.linksOptionally
  | .tagged _ t _ => t.linksOptionally
  | .construct _ f (some _) => !f.containsCall && f.linksOptionally
  | _ => false

/-- An expression is read back as what a callee starts with, where its text stands behind a blank and
in front of the rest. -/
structure Expr.HeadReads (ctx : Context) (e : Expr) (text rest : List Char) : Prop where
  opens : ∃ kind word after, LexesTo .standard (text ++ rest) kind word after ∧ kind ≠ .punct .dot
  reads : ∀ n b, 2 * b.left + 2 ≤ n → b.Before (' ' :: (text ++ rest)) →
    Answers (TokenBuffer.Before rest) (·.unmarked = e.unmarked) ((level n).calleeHead ctx b)

/-- The arguments of `new` are read back where they are printed in front of the rest.  If there are
none, neither arguments nor a link stand there. -/
inductive ArgsRead (ctx : Context) (depth : Nat) : Option (List Arg) → List Char → Prop
  | none {rest after : List Char} {kind : TokenKind} {word : String}
      (hl : LexesTo .standard rest kind word after) (hk : kind.linksCallee = false)
      (hparen : kind ≠ .punct .lParen) : ArgsRead ctx depth none rest
  | some {args : List Arg} {rest : List Char}
      (h : ∀ n b, 2 * b.left + 2 ≤ n →
        b.Before ((commas (argLayouts depth args)).chars ++ ')' :: rest) →
        Answers (TokenBuffer.Before rest) (argsUnmarked · = argsUnmarked args)
          ((level n).args ctx b)) : ArgsRead ctx depth (some args) rest

/-- The parts of a callee are read back where they are printed in front of the rest: what it starts
with, the keys and templates of its links, and the arguments of another `new` in it. -/
inductive Expr.Linked (ctx : Context) (depth : Nat) : Expr → List Char → Prop
  | head {e : Expr} {rest : List Char} (h : e.HeadReads ctx (e.site depth) rest)
      (hplain : e.linksOptionally = false) : Linked ctx depth e rest
  | member (loc : Loc) (optional : Bool) {e : Expr} {p : String} {rest : List Char}
      (hnum : ∀ l v, optional = false → e ≠ .num l v) (hp : IsMemberName p) (hend : EndsWord rest)
      (he : Linked ctx depth e ((if optional then "?." else ".").toList ++ (p.toList ++ rest))) :
      Linked ctx depth (.member loc optional e p) rest
  | point (loc l : Loc) {v : Number} {p : String} {rest : List Char} (hp : IsMemberName p)
      (hend : EndsWord rest)
      (h : (Expr.num l v).HeadReads ctx (numberBeforeDot v).chars
        (".".toList ++ (p.toList ++ rest))) :
      Linked ctx depth (.member loc false (.num l v) p) rest
  | index (loc : Loc) (optional : Bool) {e k : Expr} {rest : List Char}
      (hk : ∀ n b, 2 * b.left + 2 ≤ n →
        b.Before ((operand 0 k (k.bare depth)).chars ++ ']' :: rest) →
        Answers (TokenBuffer.Before (']' :: rest)) (·.unmarked = k.unmarked)
          ((level n).sequence ctx [.punct .rBracket] b))
      (he : Linked ctx depth e ((if optional then "?.".toList else []) ++
        '[' :: ((operand 0 k (k.bare depth)).chars ++ ']' :: rest))) :
      Linked ctx depth (.index loc optional e k) rest
  | tagged (loc : Loc) {t : Expr} {parts : List TemplatePart} {rest after : List Char}
      {kind : TokenKind} {word : String}
      (hl : LexesTo .standard ((Layout.template (templateLayouts depth parts)).chars ++ rest)
        kind word after)
      (hk : kind = .templateChunk ∨ kind = .templateEnd)
      (hparts : ∀ n first b, 2 * b.left + 2 ≤ n → first.Matches kind word → b.Before after →
        Answers (TokenBuffer.Before rest) (fun x => templateUnmarked x.1 = templateUnmarked parts)
          ((level n).templateAfter ctx first b))
      (ht : Linked ctx depth t ((Layout.template (templateLayouts depth parts)).chars ++ rest)) :
      Linked ctx depth (.tagged loc t parts) rest
  | construct (loc : Loc) {f : Expr} {args : List Arg} {rest : List Char}
      (hbare : f.containsCall = false) (hargs : ArgsRead ctx depth (some args) rest)
      (hf : Linked ctx depth f (optArgsChars depth (some args) ++ rest)) :
      Linked ctx depth (.construct loc f (some args)) rest
  | wrapped (loc : Loc) {f : Expr} {args : List Arg} {rest : List Char}
      (hcall : f.containsCall = true) (hargs : ArgsRead ctx depth (some args) rest)
      (hf : f.HeadReads ctx (f.calleeChars depth) (optArgsChars depth (some args) ++ rest)) :
      Linked ctx depth (.construct loc f (some args)) rest

namespace ArgsRead

variable (h : ArgsRead ctx depth args rest)
include h

/-- The arguments that are printed are read back, or that there are none. -/
theorem answers (hb : b.Before (optArgsChars depth args ++ rest)) (hn : 2 * b.left + 2 ≤ n) :
    Answers (TokenBuffer.Before rest) (optArgsUnmarked · = optArgsUnmarked args)
      ((level n).args? ctx b) := by
  cases h with
  | none hl hk hparen =>
    refine (hb.answers_acceptPunct_of_ne hl hparen).bind fun ok c hok hc => ?_
    subst hok
    exact .pure rfl hc
  | @some args rest h =>
    rw [optArgsChars, chars_parens, List.cons_append, List.append_assoc] at hb
    have hopen := lexesTo_sign .lParen (by decide)
      ((commas (argLayouts depth args)).chars ++ ')' :: rest)
    refine (hb.answers_acceptPunct hopen rfl).bind fun ok c hok hc => ?_
    subst hok
    have hleft : c.left ≤ b.left := by
      rw [hc.left_eq, hb.left_eq, List.length_cons]
      exact Nat.le_succ _
    refine (h n c (by omega) hc).bind fun as d has hd => .pure ?_ hd
    rw [optArgsUnmarked, optArgsUnmarked, has]

/-- In front of the arguments, or of nothing, a callee is complete. -/
theorem goesOnFrom (e : Expr) : r.GoesOnFrom ctx e (optArgsChars depth args ++ rest)
    (TokenBuffer.Before (optArgsChars depth args ++ rest)) (·.unmarked = e.unmarked) := by
  cases h with
  | none hl hk => exact .ofEnd hl hk (fun _ hc => hc) fun _ he => he
  | @some args rest h =>
    have hopen : LexesTo .standard (optArgsChars depth (.some args) ++ rest) (.punct .lParen) "("
        ((commas (argLayouts depth args)).chars ++ [')'] ++ rest) := by
      rw [optArgsChars, chars_parens]
      exact lexesTo_sign .lParen (by decide) _
    exact .ofEnd hopen rfl (fun _ hc => hc) fun _ he => he

/-- A `new` expression is read back if its callee is. -/
theorem answers_construct {f : Expr} {text : List Char} (loc : Loc) (hb : b.Before cs)
    (hnew : LexesTo .standard cs (.keyword .kNew) "new"
      (' ' :: (text ++ (optArgsChars depth args ++ rest))))
    (hopens : ∃ kind word after, LexesTo .standard (text ++ (optArgsChars depth args ++ rest))
      kind word after ∧ kind ≠ .punct .dot)
    (hcallee : ∀ c k, 2 * c.left + 2 ≤ n →
      c.Before (' ' :: (text ++ (optArgsChars depth args ++ rest))) →
      Answers (TokenBuffer.Before (optArgsChars depth args ++ rest)) (·.unmarked = f.unmarked)
        ((level n).callee ctx k c))
    (hn : 2 * b.left + 1 ≤ n) :
    Answers (TokenBuffer.Before rest) (·.unmarked = (Expr.construct loc f args).unmarked)
      ((level n).constructExpr ctx b) := by
  obtain ⟨kind, word, after, hl, hdot⟩ := hopens
  refine answers_constructExpr hb hnew (.blank hl) hdot
    (fun c k hc => hcallee c k (hb.room_behind_new hnew hc (Nat.le_refl _) hn) hc)
    fun f' c hf' hc => ?_
  have hshort : (optArgsChars depth args ++ rest).length ≤
      (' ' :: (text ++ (optArgsChars depth args ++ rest))).length := by
    simp only [List.length_cons, List.length_append]
    omega
  have hroom := hb.room_behind_new hnew hc hshort hn
  exact (h.answers hc hroom).mono (fun _ hd => hd) fun as has loc' =>
    congrArg₂ (Expr.construct _) hf' has

end ArgsRead

namespace Expr.Linked

/-- No callee begins with a point. -/
theorem opens (h : e.Linked ctx depth rest) :
    ∃ kind word after, LexesTo .standard (e.site depth ++ rest) kind word after ∧
      kind ≠ .punct .dot := by
  induction h with
  | head h => exact h.opens
  | member loc optional hnum hp hend he ih =>
    rwa [site_member loc optional hnum, List.append_assoc, List.append_assoc]
  | point loc l hp hend h =>
    rw [site_point, List.append_assoc]
    exact h.opens
  | index loc optional hk he ih =>
    rw [site_index, List.append_assoc, List.append_assoc, List.cons_append, List.append_assoc]
    exact ih
  | tagged loc hl hk hparts ht ih => rwa [site_tagged, List.append_assoc]
  | construct | wrapped =>
    rw [site_construct]
    exact ⟨_, _, _, lexesTo_new _, by decide⟩

/-- **A callee without optional links** is read whole, one link after another, and reading goes on
behind it. -/
theorem answers {k : Nat} (h : e.Linked ctx depth rest) (hplain : e.linksOptionally = false)
    (hn : 2 * b.left + 2 ≤ n) (hb : b.Before (' ' :: (e.site depth ++ rest)))
    (hnext : (level n).GoesOnFrom ctx e rest F Q) : Answers F Q ((level n).callee ctx k b) := by
  induction h generalizing n b F Q k with
  | head h => exact (h.reads n b hn hb).bind fun e' c he' hc => hnext e' c k he' hc
  | member loc optional hnum hp hend he ih =>
    obtain ⟨rfl, hplain⟩ := Bool.or_eq_false_iff.mp hplain
    rw [site_member loc false hnum, List.append_assoc, List.append_assoc] at hb
    exact ih hplain hn hb (hnext.member hp hend)
  | @point loc l v p rest hp hend h =>
    rw [site_point, List.append_assoc] at hb
    have hpoint := hnext.member (e := .num l v) hp hend
    exact (h.reads n b hn hb).bind fun e' c he' hc => hpoint e' c k he' hc
  | @index loc optional e key rest hk he ih =>
    obtain ⟨rfl, hplain⟩ := Bool.or_eq_false_iff.mp hplain
    rw [site_index, List.append_assoc, List.append_assoc, List.cons_append, List.append_assoc] at hb
    refine ih hplain hn hb (hnext.index fun c hc => hk n c ?_ hc)
    have hleft := hb.left_eq
    rw [hc.left_eq]
    simp only [List.length_append, List.length_cons, List.singleton_append] at hleft ⊢
    omega
  | tagged loc hl hk hparts ht ih =>
    rw [site_tagged, List.append_assoc] at hb
    refine ih hplain hn hb (hnext.tagged hl hk fun first c hfirst hc =>
      hparts n first c ?_ hfirst hc)
    have hle := hl.length_add_le
    have hleft := hb.left_eq
    rw [hc.left_eq]
    simp only [List.length_append, List.length_cons] at hleft hle
    omega
  | @construct loc f args rest hbare hargs hf ih =>
    have hplain : f.linksOptionally = false := by
      rwa [linksOptionally, hbare] at hplain
    rw [site_construct, calleeChars_eq hbare] at hb
    have hnew := LexesTo.blank (lexesTo_new (f.site depth ++ (optArgsChars depth (some args) ++ rest)))
    refine Answers.bind (answers_calleeHead_new hb hnew fun c m hm hc => ?_)
      fun e' c he' hc => hnext e' c k he' hc
    refine hargs.answers_construct loc hc hnew hf.opens
      (fun c k hn hc => ih hplain hn hc (hargs.goesOnFrom f)) ?_
    rw [hc.left_eq, ← hb.left_eq]
    omega
  | @wrapped loc f args rest hcall hargs hf =>
    rw [site_construct] at hb
    have hnew := LexesTo.blank
      (lexesTo_new (f.calleeChars depth ++ (optArgsChars depth (some args) ++ rest)))
    refine Answers.bind (answers_calleeHead_new hb hnew fun c m hm hc => ?_)
      fun e' c he' hc => hnext e' c k he' hc
    refine hargs.answers_construct loc hc hnew hf.opens (fun c k hn hc =>
      (hf.reads m c hn hc).bind fun f' d hf' hd => hargs.goesOnFrom f f' d k hf' hd) ?_
    rw [hc.left_eq, ← hb.left_eq]
    omega

end Expr.Linked

/-! ### Callees with an optional link -/

/-- How many links the callee has. -/
def Expr.links : Expr → Nat
  | .member _ _ e _ => e.links + 1
  | .index _ _ e _ => e.links + 1
  | .tagged _ t _ => t.links + 1
  | .construct _ f (some _) => f.links + 1
  | _ => 0

theorem Expr.links_unmarked : (e : Expr) → e.unmarked.links = e.links
  | .member _ _ e _ => congrArg (· + 1) e.links_unmarked
  | .index _ _ e _ => congrArg (· + 1) e.links_unmarked
  | .tagged _ t _ => congrArg (· + 1) t.links_unmarked
  | .construct _ f (some _) => congrArg (· + 1) f.links_unmarked
  | .construct _ _ none => rfl
  | .ident _ | .arrow _ _ | .binary _ _ _ _ | .call _ _ _ _ | .classExpr _ _ _ _ => rfl
  | .cond _ _ _ _ | .func _ _ _ | .importCall _ _ | .importMeta _ | .newTarget _ => rfl
  | .superRef _ | .this _ | .unary _ _ _ | .update _ _ _ | .yield _ _ _ | .jsx _ _ => rfl
  | .array _ _ | .bigInt _ _ | .bool _ _ | .null _ | .num _ _ | .object _ _ | .regex _ _ => rfl
  | .str _ _ | .template _ _ | .target _ => rfl

/-- Whether the token is the sign of an optional access. -/
def TokenKind.linksOptionally (kind : TokenKind) : Bool :=
  kind ∈ [.punct .questionDot, .punct .questionDotLBracket]

/-- The sign of an optional access goes on with no callee, and it starts no arguments. -/
theorem TokenKind.not_linksCallee (h : kind.linksOptionally = true) :
    kind.linksCallee = false ∧ kind ≠ .punct .lParen := by
  simp only [linksOptionally, decide_eq_true_eq, List.mem_cons, List.not_mem_nil, or_false] at h
  rcases h with rfl | rfl <;> decide

/-- The buffer stands in front of the sign of an optional access. -/
def TokenBuffer.BeforeOptional (c : TokenBuffer) : Prop :=
  ∃ cs kind word after, c.Before cs ∧ LexesTo .standard cs kind word after ∧
    kind.linksOptionally = true

/-- In front of the sign of an optional access a callee has come to its end. -/
theorem Rules.GoesOnFrom.ofOptional {m : Nat} (hl : LexesTo .standard rest kind word after)
    (hk : kind.linksOptionally = true) (hlinks : e.links < m) :
    r.GoesOnFrom ctx e rest TokenBuffer.BeforeOptional (·.links < m) := by
  refine .ofEnd hl (TokenKind.not_linksCallee hk).1 (fun c hc => ⟨_, _, _, _, hc, hl, hk⟩) ?_
  intro e' he'
  rw [← e'.links_unmarked, he', e.links_unmarked]
  exact hlinks

/-- Then the `new` has no arguments. -/
theorem answers_construct_optional {m : Nat} (hb : b.Before cs)
    (hnew : LexesTo .standard cs (.keyword .kNew) "new" rest)
    (hopens : LexesTo .standard rest kind word after) (hdot : kind ≠ .punct .dot)
    (hcallee : ∀ c k, c.Before rest →
      Answers TokenBuffer.BeforeOptional (·.links < m) (r.callee ctx k c)) :
    Answers TokenBuffer.BeforeOptional (∃ loc f, · = .construct loc f none ∧ f.links < m)
      (r.constructExpr ctx b) := by
  refine answers_constructExpr hb hnew hopens hdot hcallee fun f c hf hc => ?_
  obtain ⟨ds, kind', word', after', hd, hl, hk⟩ := hc
  have hparen := (TokenKind.not_linksCallee hk).2
  refine (hd.answers_acceptPunct_of_ne hl hparen).bind fun ok d hok hd => ?_
  subst hok
  exact .pure (fun loc => ⟨loc, f, rfl, hf⟩) ⟨ds, kind', word', after', hd, hl, hk⟩

namespace Expr.Linked

/-- **A callee with an optional link** ends before the first one. -/
theorem answers_optional {k : Nat} (h : e.Linked ctx depth rest)
    (hoptional : e.linksOptionally = true) (hn : 2 * b.left + 2 ≤ n)
    (hb : b.Before (' ' :: (e.site depth ++ rest))) :
    Answers TokenBuffer.BeforeOptional (·.links < e.links) ((level n).callee ctx k b) := by
  induction h generalizing n b k with
  | head h hplain => exact absurd (hplain.symm.trans hoptional) Bool.false_ne_true
  | point => exact absurd hoptional Bool.false_ne_true
  | @member loc optional e p rest hnum hp hend he ih =>
    rw [site_member loc optional hnum, List.append_assoc, List.append_assoc] at hb
    by_cases hinner : e.linksOptionally = true
    · exact (ih hinner hn hb).mono (fun _ hc => hc) fun _ hlt => Nat.lt_succ_of_lt hlt
    · -- the links before this one are read
      obtain rfl : optional = true := (Bool.or_eq_true_iff.mp hoptional).resolve_right hinner
      have hl := (goesOn_member true hp rest).lexes
      exact he.answers (by simpa using hinner) hn hb (.ofOptional hl rfl (Nat.lt_succ_self _))
  | @index loc optional e key rest hk he ih =>
    rw [site_index, List.append_assoc, List.append_assoc, List.cons_append, List.append_assoc] at hb
    by_cases hinner : e.linksOptionally = true
    · exact (ih hinner hn hb).mono (fun _ hc => hc) fun _ hlt => Nat.lt_succ_of_lt hlt
    · obtain rfl : optional = true := (Bool.or_eq_true_iff.mp hoptional).resolve_right hinner
      have hl := (goesOn_index true ((operand 0 key (key.bare depth)).chars ++ ']' :: rest)).lexes
      exact he.answers (by simpa using hinner) hn hb (.ofOptional hl rfl (Nat.lt_succ_self _))
  | tagged loc hl hk hparts ht ih =>
    rw [site_tagged, List.append_assoc] at hb
    exact (ih hoptional hn hb).mono (fun _ hc => hc) fun _ hlt => Nat.lt_succ_of_lt hlt
  | @construct loc f args rest hbare hargs hf ih =>
    have hinner : f.linksOptionally = true := by
      rwa [linksOptionally, hbare] at hoptional
    rw [site_construct, calleeChars_eq hbare] at hb
    have hnew := LexesTo.blank (lexesTo_new (f.site depth ++ (optArgsChars depth (some args) ++ rest)))
    obtain ⟨kind, word, after, hl, hdot⟩ := hf.opens
    have hhead : Answers TokenBuffer.BeforeOptional
        (∃ loc g, · = .construct loc g none ∧ g.links < f.links) ((level n).calleeHead ctx b) := by
      refine answers_calleeHead_new hb hnew fun c m hm hc => ?_
      refine answers_construct_optional hc hnew (.blank hl) hdot fun d k hd => ih hinner ?_ hd
      refine hc.room_behind_new hnew hd (Nat.le_refl _) ?_
      rw [hc.left_eq, ← hb.left_eq]
      omega
    -- without arguments it has no link left
    refine hhead.bind fun e' c he' hc => ?_
    obtain ⟨loc', g, rfl, -⟩ := he'
    obtain ⟨ds, kind', word', after', hd, hl, hk⟩ := hc
    exact GoesOnFrom.ofOptional hl hk (Nat.succ_pos _) _ c k rfl hd
  | wrapped loc hcall hargs hf =>
    rw [linksOptionally, hcall] at hoptional
    exact absurd hoptional Bool.false_ne_true

end Expr.Linked

/-! ### Names and strings as parts -/

theorem Expr.site_ident (id : Ident) : (ident id).site depth = id.name.toList := by
  have hle : accessPrecedence ≤ primaryPrecedence := by decide
  exact (site_eq (e := ident id) hle).trans (chars_word _)

/-- **Names are read back** as what a callee starts with. -/
theorem headReads_name {name : String} {next : TokenKind} (loc : Loc) (hname : ctx.Names name)
    (hasync : name ≠ "async") (hf : Follows rest next) (harrow : next ≠ .punct .arrow) :
    (Expr.ident ⟨name, loc, .unknown⟩).HeadReads ctx name.toList rest := by
  obtain ⟨kind, hkind, htoken⟩ := hname
  obtain ⟨word, after, hnext⟩ := hf.lexes
  have hopens := opens_name hkind htoken hf.endsWord
  refine ⟨⟨kind, name, rest, hopens.standard, ?_⟩, fun n b _ hb => ?_⟩
  · rintro rfl
    exact nomatch hkind
  · refine (hb.answers_peekKind (.blank hopens.standard)).bind fun kind' c hkind' hc => ?_
    rw [hkind']
    refine .ite (fun hnew => ?_) fun _ => ?_
    · rw [eq_of_beq hnew] at hkind
      exact nomatch hkind
    · cases n with
      | zero => rfl
      | succ m =>
        refine ((level m).answers_operandName hkind hasync hc hopens.blank hnext harrow).mono
          (fun _ hd => hd) ?_
        rintro _ ⟨loc', rfl⟩
        rfl

theorem Expr.Linked.ofName {name : String} {next : TokenKind} (loc : Loc) (hname : ctx.Names name)
    (hasync : name ≠ "async") (hf : Follows rest next) (harrow : next ≠ .punct .arrow) :
    (Expr.ident ⟨name, loc, .unknown⟩).Linked ctx depth rest := by
  refine .head ?_ rfl
  rw [site_ident]
  exact headReads_name loc hname hasync hf harrow

theorem endsWord_optArgsChars (args : List Arg) (rest : List Char) :
    EndsWord (optArgsChars depth (some args) ++ rest) := by
  rw [optArgsChars, chars_parens]
  exact endsWord_cons (by decide) _

/-- Strings are printed as literals. -/
theorem isStringLiteral_quoted (value : String) : IsStringLiteral (Text.quoted value) value := by
  refine ⟨?_, ?_⟩
  · have hscan := Scan.scan_literal value []
    rwa [List.append_nil] at hscan
  · rw [Text.quoted, String.toList_ofList, List.drop_one, List.tail_cons, List.dropLast_concat,
      decodeString_escapeChars]

theorem chars_operand_str {least : Nat} (depth : Nat) (hleast : least ≤ primaryPrecedence) (loc : Loc)
    (value : String) : (operand least (.str loc value) ((Expr.str loc value).bare depth)).chars =
      (Text.quoted value).toList := by
  have hbare : ¬(Expr.str loc value).precedence < least := Nat.not_lt.mpr hleast
  rw [Layout.operand, chars_append, chars_commentsBefore, List.nil_append, if_neg hbare]
  exact chars_word _

/-- A string is read back as a key. -/
theorem Expr.Linked.stringKey (loc l : Loc) (value : String)
    (he : e.Linked ctx depth ('[' :: ((Text.quoted value).toList ++ ']' :: rest))) :
    (Expr.index loc false e (.str l value)).Linked ctx depth rest := by
  have hchars := chars_operand_str depth (Nat.zero_le _) l value
  refine .index loc false (fun n b _ hb => ?_) (by rwa [hchars])
  rw [hchars] at hb
  have hclose := lexesTo_sign .rBracket (by decide) rest
  refine answers_level (fun n => ?_) n
  refine ((isStringLiteral_quoted value).answers_operand hb (level n)).bind fun e c he hc => ?_
  refine answers_stop hc hclose (.inl (by decide)) ?_ _
  obtain ⟨l', rfl⟩ := he
  rfl

/-- A string is read back as the only argument. -/
theorem argsRead_string (loc : Loc) (value : String) :
    ArgsRead ctx depth (some [⟨false, .str loc value⟩]) rest := by
  refine .some fun n b _ hb => ?_
  have hchars : (commas (argLayouts depth [⟨false, .str loc value⟩])).chars =
      (Text.quoted value).toList := by
    rw [argLayouts, argLayouts, chars_commas_singleton, chars_append]
    exact chars_operand_str depth (by decide) loc value
  rw [hchars] at hb
  refine ((isStringLiteral_quoted value).answers_args hb n).mono (fun _ hc => hc) ?_
  rintro _ ⟨loc', rfl⟩
  rfl

/-! ### Reading back a `new` expression -/

/-- What answers is a result if no bound is used up. -/
theorem Answers.exists_ok {α : Type} {P : α → Prop} {p : TokenParser α}
    {R : α → TokenBuffer → Prop} (h : Answers E P (p b)) (hsafe : Safe b.source b p R)
    (hb : b.Coherent) : ∃ a c, p b = .ok a c ∧ P a ∧ E c := by
  have hout := hsafe rfl (.refl hb)
  cases hp : p b with
  | ok a c =>
    rw [hp] at h
    exact ⟨a, c, rfl, h⟩
  | error e c =>
    rw [hp] at h hout
    exact absurd (hout.2.genuine.symm.trans h) Bool.false_ne_true

/-- **When a `new` expression is read back.**  Let a callee without a call stand behind `new` as it is
printed, with its arguments if there are any, and let its parts be read back.  Then a `new` expression
is read.  It is the one that was printed, and all of it, exactly if no link of the callee is optional;
otherwise it ends before the first optional link, and has no arguments. -/
theorem construct_reread_iff {f : Expr} (loc : Loc) (hbare : f.containsCall = false)
    (hf : f.Linked ctx depth (optArgsChars depth args ++ rest)) (hargs : ArgsRead ctx depth args rest)
    (hb : b.Before (((Expr.construct loc f args).bare depth).chars ++ rest))
    (hn : 2 * b.left + 1 ≤ n) :
    ∃ e c, (level n).constructExpr ctx b = .ok e c ∧
      ((e.unmarked = (Expr.construct loc f args).unmarked ∧ c.Before rest) ↔
        f.linksOptionally = false) ∧
      (f.linksOptionally = true → c.BeforeOptional ∧ ∃ loc g, e = .construct loc g none) := by
  have hroom : (level n).Room n b 1 := ⟨hn, by rw [level_depth]; omega⟩
  have hsafe : Safe b.source b ((level n).constructExpr ctx) _ :=
    (level_total n b.source).constructExpr hroom
  rw [Expr.chars_construct, Expr.calleeChars_eq hbare, List.append_assoc, List.cons_append,
    List.append_assoc] at hb
  have hnew := lexesTo_new (f.site depth ++ (optArgsChars depth args ++ rest))
  by_cases hlinks : f.linksOptionally = true
  · obtain ⟨kind, word, after, hl, hdot⟩ := hf.opens
    have hread := answers_construct_optional hb hnew (.blank hl) hdot fun c k hc =>
      hf.answers_optional hlinks (hb.room_behind_new hnew hc (Nat.le_refl _) hn) hc
    obtain ⟨e, c, hok, ⟨loc', g, rfl, hlt⟩, hc⟩ := hread.exists_ok hsafe hb.1
    refine ⟨_, c, hok, iff_of_false (fun hsame => ?_) (by simp [hlinks]), fun _ => ⟨hc, loc', g, rfl⟩⟩
    have hcallee : g.unmarked = f.unmarked := (Expr.construct.inj hsame.1).2.1
    rw [← g.links_unmarked, hcallee, f.links_unmarked] at hlt
    exact Nat.lt_irrefl _ hlt
  · have hplain : f.linksOptionally = false := by simpa using hlinks
    have hread := hargs.answers_construct loc hb hnew hf.opens
      (fun c k hn hc => hf.answers hplain hn hc (hargs.goesOnFrom f)) hn
    obtain ⟨e, c, hok, hsame, hc⟩ := hread.exists_ok hsafe hb.1
    exact ⟨e, c, hok, iff_of_true ⟨hsame, hc⟩ hplain, fun h => absurd h hlinks⟩
/-- Two `new` expressions, one in the callee of the other, and links behind each. -/
theorem nestedNew_reread :
    let source := "new new a.b(\"c\").d[\"e\"](\"f\");"
    let loc := Loc.point 0
    let name := Expr.ident ⟨"a", loc, .unknown⟩
    let inner := Expr.construct loc (.member loc false name "b") (some [⟨false, .str loc "c"⟩])
    let outer := Expr.construct loc (.index loc false (.member loc false inner "d") (.str loc "e"))
      (some [⟨false, .str loc "f"⟩])
    ∃ e c, (level 100).constructExpr .top (.ofString source) = .ok e c ∧
      e.unmarked = outer.unmarked ∧ c.Before [';'] := by
  intro source loc name inner outer
  have hname : Context.top.Names "a" := ⟨.ident, rfl, isToken_ident (by decide) (by decide)⟩
  have hb : IsMemberName "b" := ⟨.ident, rfl, isToken_ident (by decide) (by decide)⟩
  have hd : IsMemberName "d" := ⟨.ident, rfl, isToken_ident (by decide) (by decide)⟩
  have hinner : ∀ rest, inner.Linked .top 0 (".".toList ++ ("d".toList ++ '[' :: rest)) := by
    intro rest
    refine .construct loc rfl (argsRead_string loc "c") ?_
    refine .member loc false (fun _ _ _ => nofun) hb (endsWord_optArgsChars _ _) ?_
    exact .ofName loc hname (by decide) (goesOn_member false hb _).follows (by decide)
  have houter : (Expr.index loc false (.member loc false inner "d") (.str loc "e")).Linked .top 0
      (optArgsChars 0 (some [⟨false, .str loc "f"⟩]) ++ [';']) := by
    refine .stringKey loc loc "e" ?_
    exact .member loc false (fun _ _ _ => nofun) hd (endsWord_cons (by decide) _) (hinner _)
  have hbefore : (TokenBuffer.ofString source).Before ((outer.bare 0).chars ++ [';']) :=
    ⟨TokenBuffer.coherent_ofString _, by decide +kernel⟩
  obtain ⟨e, c, hok, hread, -⟩ := construct_reread_iff (n := 100) loc rfl houter
    (argsRead_string loc "f") hbefore (by decide +kernel)
  exact ⟨e, c, hok, hread.mpr rfl⟩

/-- What stands behind `new` in a module that is one such expression. -/
def Program.callee? (p : Program) : Option Expr :=
  match p.body with
  | [.expr _ (.construct _ f _)] => some f
  | _ => none

/-- A callee whose link is optional. -/
def optionalCallee : String := "new (a?.b)(c);"

/-- The parentheses around such a callee do not survive, and without them the link and the call are
no part of a `new` expression. -/
theorem optionalCallee_split :
    ∃ p f q, Program.parse optionalCallee = .ok p ∧ p.callee? = some f ∧ f.containsCall = false ∧
      accessPrecedence ≤ f.precedence ∧ p.print = "new a?.b(c);\n" ∧
      Program.parse p.print = .ok q ∧ q.callee? = none := by
  have hsource : (Program.parse optionalCallee).toOption.any (fun p =>
      p.callee?.any (fun f => !f.containsCall && decide (accessPrecedence ≤ f.precedence)) &&
        (p.print == "new a?.b(c);\n" &&
          (Program.parse p.print).toOption.any (·.callee?.isNone))) = true := by decide +kernel
  obtain ⟨p, hp, hsource⟩ := (Option.any_eq_true _ _).mp hsource
  rw [Bool.and_eq_true, Bool.and_eq_true, beq_iff_eq] at hsource
  obtain ⟨hcallee, hprint, hreread⟩ := hsource
  obtain ⟨f, hf, hbare⟩ := (Option.any_eq_true _ _).mp hcallee
  rw [Bool.and_eq_true, Bool.not_eq_true', decide_eq_true_eq] at hbare
  obtain ⟨q, hq, hnone⟩ := (Option.any_eq_true _ _).mp hreread
  exact ⟨p, f, q, Program.parse_of_toOption hp, hf, hbare.1, hbare.2, hprint,
    Program.parse_of_toOption hq, Option.isNone_iff_eq_none.mp hnone⟩

/-- The callee of a module that is one `new` expression is found without the marks of its source. -/
theorem Program.callee?_unmarked (p : Program) :
    p.callee?.map Expr.unmarked = Program.callee? { p with body := stmtsUnmarked p.body } := by
  obtain ⟨loc, body, comments⟩ := p
  cases body with
  | nil => rfl
  | cons s ss =>
    cases s with
    | expr loc e => cases e <;> cases ss <;> rfl
    | _ => rfl

/-- The same callee with arguments that are none. -/
def idleCallee : String := "new (a?.b)();"

/-- So what is printed for a source without comments need not be read as the same statements. -/
theorem idleCallee_changed :
    ¬ ∀ source p, Program.parse source = .ok p → p.comments = [] →
      ∃ q, Program.parse p.print = .ok q ∧ stmtsUnmarked q.body = stmtsUnmarked p.body := by
  intro hprints
  have hsource : (Program.parse idleCallee).toOption.any (fun p =>
      p.comments.isEmpty && (p.callee?.isSome &&
        (Program.parse p.print).toOption.any (·.callee?.isNone))) = true := by decide +kernel
  obtain ⟨p, hp, hsource⟩ := (Option.any_eq_true _ _).mp hsource
  rw [Bool.and_eq_true, Bool.and_eq_true, List.isEmpty_iff] at hsource
  obtain ⟨hcomments, hcallee, hreread⟩ := hsource
  obtain ⟨q, hq, hsame⟩ := hprints _ p (Program.parse_of_toOption hp) hcomments
  rw [hq] at hreread
  have hnone : q.callee? = none := Option.isNone_iff_eq_none.mp hreread
  -- the callee would be found in what is read again
  have hmap : p.callee?.map Expr.unmarked = q.callee?.map Expr.unmarked := by
    rw [p.callee?_unmarked, q.callee?_unmarked, hsame]
    rfl
  rw [hnone] at hmap
  rw [Option.map_eq_none_iff.mp hmap] at hcallee
  exact nomatch hcallee

end ImportSeam
