import ImportSeam.Proofs.Cover.Parallel
import ImportSeam.Proofs.Cover.Unmarked

namespace ImportSeam

open TokenParser TokenBuffer

variable {ctx : Context} {r r' : Rules}

/-! ### The rules -/

/-- The second rules follow the first. -/
structure Rules.Agree (r r' : Rules) : Prop where
  sound : r.Sound
  sound' : r'.Sound
  expr : ∀ ctx least ends,
    Parallel (AlikeBy Expr.unmarked) (r.expr ctx least ends) (r'.expr ctx least ends)
  operand : ∀ ctx ends,
    Parallel (AlikeBy Expr.unmarked) (r.operand ctx ends) (r'.operand ctx ends)
  construct : ∀ ctx, Parallel (AlikeBy Expr.unmarked) (r.construct ctx) (r'.construct ctx)
  pat : ∀ ctx, Parallel (AlikeBy Pat.unmarked) (r.pat ctx) (r'.pat ctx)
  stmt : ∀ ctx, Parallel (AlikeBy Stmt.unmarked) (r.stmt ctx) (r'.stmt ctx)
  elem : ∀ ctx, Parallel (AlikeBy JsxElem.unmarked) (r.elem ctx) (r'.elem ctx)

/-- Everything but its place. -/
theorem Ident.unmarked_of_saying {t t' : Token} (h : t.saying = t'.saying) (m : Mention) :
    Ident.unmarked ⟨t.text, t.loc, m⟩ = Ident.unmarked ⟨t'.text, t'.loc, m⟩ := by
  rw [Ident.unmarked, Ident.unmarked, Token.text_of_saying h]

theorem parallel_bindingName (ctx : Context) :
    Parallel (AlikeBy Ident.unmarked) (bindingName ctx) (bindingName ctx) := by
  refine (parallel_consume .standard).bind fun t t' ht => ?_
  rw [Token.kind_of_face (Token.face_of_saying ht)]
  exact .ite (fun _ => .pure (Ident.unmarked_of_saying ht _)) fun _ => .throw

namespace Rules.Agree

variable (hr : r.Agree r')
include hr

theorem sequence (ctx : Context) (ends : List TokenKind) :
    Parallel (AlikeBy Expr.unmarked) (r.sequence ctx ends) (r'.sequence ctx ends) := hr.expr ctx _ ends

theorem assignment (ctx : Context) (ends : List TokenKind) :
    Parallel (AlikeBy Expr.unmarked) (r.assignment ctx ends) (r'.assignment ctx ends) :=
  hr.expr ctx _ ends

theorem parenthesized (ctx : Context) :
    Parallel (AlikeBy Expr.unmarked) (r.parenthesized ctx) (r'.parenthesized ctx) := by
  refine (parallel_expectPunct .lParen .standard).next fun _ => ?_
  refine (hr.sequence ctx _).bind fun e e' he => ?_
  exact (parallel_expectPunct .rParen .standard).next fun _ => .pure he

theorem default? (ctx : Context) (ends : List TokenKind) :
    Parallel (AlikeBy (Option.map Expr.unmarked)) (r.default? ctx ends) (r'.default? ctx ends) := by
  refine (parallel_acceptPunct .assign .standard).next fun ok => ?_
  exact .optionally ok fun _ => hr.assignment ctx ends

theorem stmtsUntil (ctx : Context) (stop : TokenKind) :
    Parallel (AlikeBy (List.map Stmt.unmarked)) (r.stmtsUntil ctx stop) (r'.stmtsUntil ctx stop) := by
  refine .collect ?_ _ _
  refine (parallel_peek .standard).bind fun t t' ht => ?_
  rw [Token.kind_of_face ht]
  refine .ite (fun _ => .pure rfl) fun _ => .ite (fun _ => .throw) fun _ => ?_
  exact (hr.stmt ctx).bind fun s s' hs => .pure (congrArg some hs)

theorem block (ctx : Context) :
    Parallel (AlikeBy (List.map Stmt.unmarked)) (r.block ctx) (r'.block ctx) := by
  refine (parallel_expectPunct .lBrace .standard).next fun _ => ?_
  refine (hr.stmtsUntil ctx _).bind fun ss ss' hss => ?_
  exact (parallel_expectPunct .rBrace .standard).next fun _ => .pure hss

end Rules.Agree

/-! ### Keys and patterns -/

theorem firm_stringValue : Firm (AlikeBy Prod.snd) stringValue stringValue where
  keeps _ := runs_stringValue.mono fun v _ _ _ => ⟨v, rfl⟩
  follows hw hb hp := by
    obtain ⟨t, b₁, ht, h⟩ := bind_ok hp
    refine ((firm_expect rfl .standard).follows hw hb ht).bind fun t' b₁' hsaying hb₁ => ?_
    have htext : unquoted t' = unquoted t := by
      rw [unquoted, unquoted, Token.text_of_saying hsaying]
    rw [htext]
    cases hvalue : decodeString (unquoted t) with
    | some value =>
      rw [hvalue] at h
      cases h
      exact ⟨rfl, hb₁⟩
    | none =>
      rw [hvalue] at h
      cases h

/-- A key without the places in it.  The kind of its token is kept. -/
def Key.unplaced : Key → Key
  | .direct text kind => .direct text kind
  | .computed e => .computed e.unmarked

theorem Key.unmarked_of_unplaced {k k' : Key} (h : k.unplaced = k'.unplaced) :
    k.unmarked = k'.unmarked := by
  cases k with
  | direct text kind =>
    cases k' with
    | direct text' kind' =>
      obtain ⟨rfl, rfl⟩ := Key.direct.inj h
      rfl
    | computed e' => exact nomatch h
  | computed e =>
    cases k' with
    | direct text' kind' => exact nomatch h
    | computed e' => exact h

theorem isFinal_of_startsKey {allowPrivate : Bool} {kind : TokenKind}
    (h : startsKey allowPrivate kind = true) : kind.isFinal = false := by
  cases kind <;> first | rfl | cases h

/-- A key ends with a token, so it is read alike also where it comes last. -/
theorem Rules.Agree.key_firm (hr : r.Agree r') (ctx : Context) (allowPrivate : Bool) :
    Firm (AlikeBy Key.unplaced) (r.key ctx allowPrivate) (r'.key ctx allowPrivate) where
  keeps _ := (hr.sound.key allowPrivate).mono fun key _ _ _ => ⟨key, rfl⟩
  follows {w w' b b' key c} hw hb hp := by
    obtain ⟨t, b₁, ht, h⟩ := bind_ok hp
    obtain ⟨-, rfl, hc₁⟩ := (runs_peek .standard).keeps_ok hb.coherent ht
    obtain ⟨t', b₁', ht', -, rfl, hc₁'⟩ := succeeds_peek_any .standard (.refl hb.coherent')
    have hface := hb.face hw .standard
    have hb₁ := hb.unread hc₁ hc₁'
    rw [Rules.key, bind_of_ok ht', ← Token.kind_of_face hface]
    by_cases hopen : ((b.upcoming .standard).kind == .punct .lBracket) = true
    · rw [if_pos hopen] at h ⊢
      obtain ⟨_, b₂, hskip, h⟩ := bind_ok h
      obtain ⟨e, b₃, he, h⟩ := bind_ok h
      obtain ⟨_, b₄, hclose, h⟩ := bind_ok h
      obtain ⟨hkeeps₂, -⟩ := (runs_skip .standard).keeps_ok hb₁.coherent hskip
      obtain ⟨hkeeps₃, -⟩ := (hr.sound.assignment _).keeps_ok hkeeps₂.coherent he
      obtain ⟨-, hkind, -⟩ := (runs_expectPunct _ _).keeps_ok hkeeps₃.coherent hclose
      -- no bracket is closed in the tail
      have hlt₃ : w.length < b₃.left :=
        lt_of_apart hw.left (by decide) hb₁.suffix (hkeeps₂.trans hkeeps₃) hkind
      have hlt₂ := Nat.lt_of_lt_of_le hlt₃ hkeeps₃.left_le
      refine ((parallel_skip .standard).follows hw hb₁ hskip hlt₂).bind fun _ b₂' _ hb₂ => ?_
      refine ((hr.assignment ctx _).follows hw hb₂ he hlt₃).bind fun e' b₃' he' hb₃ => ?_
      refine ((firm_expectPunct .rBracket).follows hw hb₃ hclose).bind fun _ b₄' _ hb₄ => ?_
      cases h
      exact ⟨congrArg Key.computed he', hb₄⟩
    rw [if_neg hopen] at h ⊢
    by_cases hstarts : (!startsKey allowPrivate (b.upcoming .standard).kind) = true
    · rw [if_pos hstarts] at h
      cases h
    rw [if_neg hstarts] at h ⊢
    by_cases hstr : ((b.upcoming .standard).kind == .str) = true
    · rw [if_pos hstr] at h ⊢
      obtain ⟨v, b₂, hv, h⟩ := bind_ok h
      refine (firm_stringValue.follows hw hb₁ hv).bind fun v' b₂' hv' hb₂ => ?_
      cases h
      exact ⟨congrArg (Key.direct · _) hv', hb₂⟩
    · rw [if_neg hstr] at h ⊢
      obtain ⟨_, b₂, hskip, h⟩ := bind_ok h
      have hfinal : (b.upcoming .standard).kind.isFinal = false :=
        isFinal_of_startsKey (by simpa using hstarts)
      have hfinal₁ : (b₁.upcoming .standard).kind.isFinal = false := by rwa [hc₁.upcoming]
      refine (answers_skip hw hb₁ hfinal₁ hskip).bind fun _ b₂' _ hb₂ => ?_
      cases h
      exact ⟨congrArg (Key.direct · _) (Token.text_of_face hface hfinal), hb₂⟩

theorem Rules.Agree.key (hr : r.Agree r') (ctx : Context) (allowPrivate : Bool) :
    Parallel (AlikeBy Key.unplaced) (r.key ctx allowPrivate) (r'.key ctx allowPrivate) :=
  (hr.key_firm ctx allowPrivate).parallel

namespace Rules.Agree

variable (hr : r.Agree r')
include hr

theorem elemPats (ctx : Context) : ∀ n n',
    Parallel (AlikeBy (Prod.map elemPatsUnmarked optPatUnmarked)) (r.elemPats ctx n)
      (r'.elemPats ctx n')
  | 0, _ => .exhausted
  | n + 1, 0 => .spent (hr.sound.elemPats (n + 1))
  | n + 1, n' + 1 => by
    refine (parallel_acceptPunct .rBracket .standard).next fun _ => .ite (fun _ => .pure rfl) fun _ => ?_
    refine (parallel_acceptPunct .comma .standard).next fun _ => .ite (fun _ => ?_) fun _ => ?_
    · refine (elemPats ctx n n').bind fun es es' hes => .pure ?_
      obtain ⟨helems, hrest⟩ := Prod.mk.inj hes
      exact Prod.ext (congrArg (List.cons none) helems) hrest
    refine (parallel_acceptPunct .ellipsis .standard).next fun _ => .ite (fun _ => ?_) fun _ => ?_
    · refine (hr.pat ctx).bind fun p p' hp => ?_
      refine (parallel_expectPunct .rBracket .standard).next fun _ => .pure ?_
      exact Prod.ext rfl (congrArg some hp)
    refine (hr.pat ctx).bind fun p p' hp => ?_
    refine (hr.default? ctx _).bind fun d d' hd => ?_
    have hitem := Binder.unmarked_congr hp hd
    refine (parallel_acceptPunct .comma .standard).next fun _ => .ite (fun _ => ?_) fun _ => ?_
    · refine (elemPats ctx n n').bind fun es es' hes => .pure ?_
      obtain ⟨helems, hrest⟩ := Prod.mk.inj hes
      exact Prod.ext (congrArg₂ List.cons (congrArg some hitem) helems) hrest
    · refine (parallel_expectPunct .rBracket .standard).next fun _ => .pure ?_
      exact Prod.ext (congrArg (fun x => [some x]) hitem) rfl

theorem propPat (ctx : Context) :
    Parallel (AlikeBy PropPat.unmarked) (r.propPat ctx) (r'.propPat ctx) := by
  refine (parallel_peek .standard).bind fun t t' ht => ?_
  refine (hr.key ctx false).bind fun key key' hkey => ?_
  refine (parallel_acceptPunct .colon .standard).next fun _ => .ite (fun _ => ?_) fun _ => ?_
  · refine (hr.pat ctx).bind fun p p' hp => ?_
    refine (hr.default? ctx _).bind fun d d' hd => .pure ?_
    exact congrArg₂ (PropPat.mk · · false) (Key.unmarked_of_unplaced hkey)
      (Binder.unmarked_congr hp hd)
  · cases key with
    | computed e => exact .throw
    | direct text kind =>
      cases key' with
      | computed e' => cases hkey
      | direct text' kind' =>
        obtain ⟨rfl, rfl⟩ := Key.direct.inj hkey
        refine .ite (fun _ => .throw) fun _ => ?_
        refine (hr.default? ctx _).bind fun d d' hd => .pure ?_
        exact congrArg (PropPat.mk _ · false) (Binder.unmarked_congr rfl hd)

theorem propPats (ctx : Context) : ∀ n n',
    Parallel (AlikeBy (Prod.map propsUnmarked (Option.map Ident.unmarked))) (r.propPats ctx n)
      (r'.propPats ctx n')
  | 0, _ => .exhausted
  | n + 1, 0 => .spent (hr.sound.propPats (n + 1))
  | n + 1, n' + 1 => by
    refine (parallel_acceptPunct .rBrace .standard).next fun _ => .ite (fun _ => .pure rfl) fun _ => ?_
    refine (parallel_acceptPunct .ellipsis .standard).next fun _ => .ite (fun _ => ?_) fun _ => ?_
    · refine (parallel_bindingName ctx).bind fun id id' hid => ?_
      refine (parallel_expectPunct .rBrace .standard).next fun _ => .pure ?_
      exact Prod.ext rfl (congrArg some hid)
    refine (hr.propPat ctx).bind fun p p' hp => ?_
    refine (parallel_acceptPunct .comma .standard).next fun _ => .ite (fun _ => ?_) fun _ => ?_
    · refine (propPats ctx n n').bind fun ps ps' hps => .pure ?_
      obtain ⟨hprops, hrest⟩ := Prod.mk.inj hps
      exact Prod.ext (congrArg₂ List.cons hp hprops) hrest
    · refine (parallel_expectPunct .rBrace .standard).next fun _ => .pure ?_
      exact Prod.ext (congrArg (fun x => [x]) hp) rfl

theorem pattern (ctx : Context) :
    Parallel (AlikeBy Pat.unmarked) (r.pattern ctx) (r'.pattern ctx) := by
  refine (parallel_peekKind .standard).next fun k => ?_
  split
  · refine .spanning ?_
    refine (parallel_expectPunct .lBracket .standard).next fun _ => ?_
    refine (hr.elemPats ctx _ _).bind fun es es' hes => .pure fun _ _ => ?_
    obtain ⟨helems, hrest⟩ := Prod.mk.inj hes
    exact congrArg₂ (Pat.array _) helems hrest
  · refine .spanning ?_
    refine (parallel_expectPunct .lBrace .standard).next fun _ => ?_
    refine (hr.propPats ctx _ _).bind fun ps ps' hps => .pure fun _ _ => ?_
    obtain ⟨hprops, hrest⟩ := Prod.mk.inj hps
    exact congrArg₂ (Pat.object _) hprops hrest
  · exact (parallel_bindingName ctx).bind fun id id' hid => .pure (congrArg Pat.ident hid)

end Rules.Agree

/-! ### Templates and functions -/

theorem templateText_of_saying {t t' : Token} (h : t.saying = t'.saying) (isFirst : Bool) :
    templateText t isFirst = templateText t' isFirst := by
  rw [templateText, templateText, Token.text_of_saying h,
    Token.kind_of_face (Token.face_of_saying h)]

theorem parallel_declaredName? (ctx : Context) :
    Parallel (AlikeBy (Option.map Ident.unmarked)) (declaredName? ctx) (declaredName? ctx) := by
  refine (parallel_consumeIf (fun _ _ ht => by rw [Token.kind_of_face ht]) .standard).bind
    fun o o' ho => .pure ?_
  cases o with
  | none =>
    cases o' with
    | none => rfl
    | some t' => cases ho
  | some t =>
    cases o' with
    | none => cases ho
    | some t' => exact congrArg some (Ident.unmarked_of_saying (Option.some.inj ho) _)

namespace Rules.Agree

variable (hr : r.Agree r')
include hr

theorem templateParts (ctx : Context) : ∀ n n' t t' isFirst, t.saying = t'.saying →
    Parallel (AlikeBy fun ps => templateUnmarked ps.1) (r.templateParts ctx n t isFirst)
      (r'.templateParts ctx n' t' isFirst)
  | 0, _, _, _, _, _ => .exhausted
  | n + 1, n', t, t', isFirst, ht => by
    have step : ∀ m', Parallel (AlikeBy fun ps => templateUnmarked ps.1)
        (r.templateParts ctx (n + 1) t isFirst) (r'.templateParts ctx (m' + 1) t' isFirst) := by
      intro m'
      unfold Rules.templateParts
      dsimp only
      rw [Token.kind_of_face (Token.face_of_saying ht), templateText_of_saying ht]
      split
      · exact .pure rfl
      · refine (hr.sequence ctx _).bind fun e e' he => ?_
        refine (parallel_expectPunct .rBrace .standard).next fun _ => ?_
        refine (parallel_consume .templateTail).bind fun u u' hu => ?_
        refine (templateParts ctx n m' u u' false hu).bind fun ps ps' hps => .pure ?_
        exact congrArg₂ (TemplatePart.text _ :: TemplatePart.subst · :: ·) he hps
      · exact .throw
      · exact .throw
    cases n' with
    | zero => exact .spent (step 0).keeps
    | succ m' => exact step m'

theorem templateAfter (ctx : Context) {t t' : Token} (ht : t.saying = t'.saying) :
    Parallel (AlikeBy fun ps => templateUnmarked ps.1) (r.templateAfter ctx t)
      (r'.templateAfter ctx t') := hr.templateParts ctx _ _ t t' true ht

theorem param (ctx : Context) : Parallel (AlikeBy Param.unmarked) (r.param ctx) (r'.param ctx) := by
  refine (parallel_acceptPunct .ellipsis .standard).next fun isRest => ?_
  refine (hr.pat ctx).bind fun p p' hp => ?_
  refine (hr.default? ctx _).bind fun d d' hd => .pure ?_
  exact congrArg (Param.mk isRest) (Binder.unmarked_congr hp hd)

theorem params (ctx : Context) :
    Parallel (AlikeBy (List.map Param.unmarked)) (r.params ctx) (r'.params ctx) :=
  (parallel_expectPunct .lParen .standard).next fun _ => .separated .rParen (hr.param ctx) _ _

theorem funcAfterName (isAsync isGenerator : Bool) :
    Parallel (AlikeBy Func.unmarked) (r.funcAfterName isAsync isGenerator)
      (r'.funcAfterName isAsync isGenerator) := by
  refine (hr.params _).bind fun ps ps' hps => ?_
  exact (hr.block _).bind fun ss ss' hss => .pure <| congrArg₂ (Func.mk false isAsync isGenerator)
    (alike_of_eq paramsUnmarked_eq hps) (congrArg FuncBody.block (alike_of_eq stmtsUnmarked_eq hss))

theorem signature (ctx : Context) :
    Parallel (AlikeBy (Prod.map (Option.map Ident.unmarked) Func.unmarked)) (r.signature ctx)
      (r'.signature ctx) := by
  refine (parallel_acceptWord "async").next fun isAsync => ?_
  refine (parallel_expectKeyword .kFunction).next fun _ => ?_
  refine (parallel_acceptPunct .star .standard).next fun isGenerator => ?_
  refine (parallel_declaredName? ctx).bind fun name name' hname => ?_
  exact (hr.funcAfterName isAsync isGenerator).bind fun f f' hf => .pure (Prod.ext hname hf)

theorem funcExpr (ctx : Context) :
    Parallel (AlikeBy Expr.unmarked) (r.funcExpr ctx) (r'.funcExpr ctx) := by
  refine .spanning ?_
  refine (hr.signature ctx).bind fun s s' hs => .pure fun _ _ => ?_
  obtain ⟨hname, hfunc⟩ := Prod.mk.inj hs
  exact congrArg₂ (Expr.func _) hname hfunc

end Rules.Agree

/-! ### Members -/

/-- A member that starts with its key: a method if parameters follow, or else nothing is read. -/
def Rules.keyedMethod? (r : Rules) (ctx : Context) (allowPrivate : Bool) (start : Nat) :
    TokenParser (Option (Key × Member)) := do
  let key ← r.key ctx allowPrivate
  if (← peekKind) == .punct .lParen then
    let func ← r.funcAfterName false false
    return some (key, .method func)
  restore start
  return none

/-- What is read of a method. -/
abbrev methodUnmarked : Option (Key × Member) → Option (Key × Member) :=
  Option.map (Prod.map Key.unmarked Member.unmarked)

/-- The parent and the members of a class. -/
abbrev classTailUnmarked : Option Expr × List ClassMember → Option Expr × List ClassMember :=
  Prod.map (Option.map Expr.unmarked) (List.map ClassMember.unmarked)

namespace Rules.Agree

variable (hr : r.Agree r')
include hr

/-- Where no parameters follow the key, nothing is read. -/
theorem keyedMethod?_none (ctx : Context) {allowPrivate : Bool} {w w' : List Char}
    {b b' c : TokenBuffer} {key : Key} (hw : Tails w w') (hb : b.Beside w w' b')
    (hkey : r.key ctx allowPrivate b = .ok key c)
    (hparen : (c.upcoming .standard).kind ≠ .punct .lParen) :
    Answers (b.Beside w w') (· = none) (r'.keyedMethod? ctx allowPrivate b'.mark b') := by
  refine ((hr.key_firm ctx allowPrivate).follows hw hb hkey).bind_eq fun key' c' hkey' _ hc => ?_
  obtain ⟨hkeeps, -⟩ := (hr.sound'.key _).keeps_ok hb.coherent' hkey'
  obtain ⟨kind', d', hkind', hkeeps', hk', -⟩ :=
    (runs_peekKind .standard).succeeds (fun _ _ => nofun) (.refl hkeeps.coherent)
  have hparen' : ¬(kind' == .punct .lParen) = true := by
    rw [beq_iff_eq, hk']
    exact hc.kind_ne hw hparen TokenKind.noConfusion nofun
  rw [bind_of_ok hkind', if_neg hparen']
  exact ⟨rfl, hb.unread (.refl hb.coherent) (hkeeps.trans hkeeps').restore⟩

theorem keyedMethod? (ctx : Context) (allowPrivate : Bool) {w w' : List Char} {b b' : TokenBuffer}
    (hw : Tails w w') (hb : b.Beside w w' b') :
    FollowsFrom w w' b b' (AlikeBy methodUnmarked) (r.keyedMethod? ctx allowPrivate b.mark)
      (r'.keyedMethod? ctx allowPrivate b'.mark) := by
  intro o c hp hl
  obtain ⟨key, b₁, hkey, h⟩ := bind_ok hp
  obtain ⟨kind, b₂, hkind, h⟩ := bind_ok h
  obtain ⟨hkeeps₁, -⟩ := (hr.sound.key _).keeps_ok hb.coherent hkey
  obtain ⟨hkeeps₂, rfl, hc₂⟩ := (runs_peekKind _).keeps_ok hkeeps₁.coherent hkind
  by_cases hparen : ((b₁.upcoming .standard).kind == .punct .lParen) = true
  · rw [if_pos hparen] at h
    obtain ⟨func, b₃, hfunc, h⟩ := bind_ok h
    cases h
    obtain ⟨hkeeps₃, -⟩ := (hr.sound.funcAfterName ctx _ _).keeps_ok hkeeps₂.coherent hfunc
    have hlt₂ := Nat.lt_of_lt_of_le hl hkeeps₃.left_le
    have hlt₁ := Nat.lt_of_lt_of_le hlt₂ hkeeps₂.left_le
    refine ((hr.key ctx _).follows hw hb hkey hlt₁).bind fun key' b₁' hkey' hb₁ => ?_
    refine ((parallel_peekKind _).follows hw hb₁ hkind hlt₂).bind fun kind' b₂' hkind' hb₂ => ?_
    subst hkind'
    rw [if_pos hparen]
    refine ((hr.funcAfterName _ _).follows hw hb₂ hfunc hl).bind fun func' b₃' hfunc' hb₃ => ?_
    refine ⟨congrArg some (Prod.ext ?_ ?_), hb₃⟩
    · exact Key.unmarked_of_unplaced hkey'
    · exact congrArg Member.method hfunc'
  · rw [if_neg hparen] at h
    cases h
    have hparen₁ : (b₁.upcoming .standard).kind ≠ .punct .lParen := by simpa using hparen
    refine (hr.keyedMethod?_none ctx hw hb hkey hparen₁).mono (fun c' hc' => ?_) fun o' ho' => ?_
    · exact hc'.unread (hkeeps₁.trans hkeeps₂).restore (.refl hc'.coherent')
    · subst ho'
      rfl

theorem method? (ctx : Context) (allowPrivate : Bool) :
    Parallel (AlikeBy methodUnmarked) (r.method? ctx allowPrivate) (r'.method? ctx allowPrivate) where
  keeps _ := (hr.sound.method? allowPrivate).mono fun o _ _ _ => ⟨o, rfl⟩
  follows hw hb := by
    refine .peekTwo hw hb fun {ts ts' c c'} hts _ _ _ hc => ?_
    obtain ⟨a, next⟩ := ts
    obtain ⟨a', next'⟩ := ts'
    have hword : ∀ word, a.isWord word = a'.isWord word := Token.isWord_of_face hts.first
    have hkind : a.kind = a'.kind := Token.kind_of_face hts.first
    have hstarts : startsKey allowPrivate next.kind = startsKey allowPrivate next'.kind :=
      hts.test _ rfl
    have hstar : (next.kind == .punct .star) = (next'.kind == .punct .star) :=
      hts.test (· == .punct .star) rfl
    have hline : next.newlineBefore = next'.newlineBefore := hts.newline
    dsimp only
    rw [hword "get", hword "set", hword "async", hstarts, hstar, hline, hkind]
    refine .mark (.ite (fun _ => ?_) fun _ => .ite (fun _ => ?_) fun _ => .ite (fun _ => ?_) fun _ => ?_)
    · refine Parallel.follows ?_ hw hc
      refine (parallel_skip _).next fun _ => ?_
      refine (hr.key ctx _).bind fun key key' hkey => ?_
      refine (hr.funcAfterName _ _).bind fun f f' hf => .pure (congrArg some (Prod.ext ?_ ?_))
      · exact Key.unmarked_of_unplaced hkey
      · show Member.unmarked _ = Member.unmarked _
        split
        · exact congrArg Member.getter hf
        · exact congrArg Member.setter hf
    · refine Parallel.follows ?_ hw hc
      have tail : ∀ isAsync, Parallel (AlikeBy methodUnmarked) (do
          let isGenerator ← acceptPunct .star
          let key ← r.key ctx allowPrivate
          let func ← r.funcAfterName isAsync isGenerator
          return some (key, Member.method func)) (do
          let isGenerator ← acceptPunct .star
          let key ← r'.key ctx allowPrivate
          let func ← r'.funcAfterName isAsync isGenerator
          return some (key, Member.method func)) := by
        intro isAsync
        refine (parallel_acceptPunct _ _).next fun isGenerator => ?_
        refine (hr.key ctx _).bind fun key key' hkey => ?_
        refine (hr.funcAfterName _ _).bind fun f f' hf => .pure (congrArg some (Prod.ext ?_ ?_))
        · exact Key.unmarked_of_unplaced hkey
        · exact congrArg Member.method hf
      exact .ite (fun _ => (parallel_skip _).next fun _ => tail _) fun _ => tail _
    · exact (Parallel.pure (V := AlikeBy methodUnmarked) rfl).follows hw hc
    · exact hr.keyedMethod? ctx allowPrivate hw hc

theorem objMember (ctx : Context) :
    Parallel (BuildAlike ObjMember.unmarked) (r.objMember ctx) (r'.objMember ctx) := by
  refine (parallel_acceptPunct .ellipsis .standard).next fun _ => .ite (fun _ => ?_) fun _ => ?_
  · exact (hr.assignment ctx _).bind fun e e' he => .pure fun _ _ =>
      congrArg (ObjMember.spread _) he
  refine (hr.method? ctx false).bind fun o o' ho => ?_
  cases o with
  | some m =>
    cases o' with
    | none => cases ho
    | some m' =>
      obtain ⟨hkey, hmember⟩ := Prod.mk.inj (Option.some.inj ho)
      exact .pure fun _ _ => congrArg₂ (ObjMember.valued _) hkey hmember
  | none =>
    cases o' with
    | some m' => cases ho
    | none =>
      refine (parallel_peek .standard).bind fun t t' _ => ?_
      refine (hr.key ctx false).bind fun key key' hkey => ?_
      refine (parallel_acceptPunct .colon .standard).next fun _ => .ite (fun _ => ?_) fun _ => ?_
      · refine (hr.assignment ctx _).bind fun e e' he => .pure fun _ _ => ?_
        exact congrArg₂ (ObjMember.valued _) (Key.unmarked_of_unplaced hkey)
          (congrArg (Member.field ∘ some) he)
      cases key with
      | computed e => exact .throw
      | direct text kind =>
        cases key' with
        | computed e' => cases hkey
        | direct text' kind' =>
          obtain ⟨rfl, rfl⟩ := Key.direct.inj hkey
          refine .ite (fun _ => .throw) fun _ => ?_
          refine (parallel_acceptPunct .assign .standard).next fun _ => .ite (fun _ => ?_) fun _ => ?_
          · refine (hr.assignment ctx _).bind fun e e' he => .pure fun _ _ => ?_
            exact congrArg (ObjMember.valued _ _ ∘ Member.field ∘ some ∘ Expr.binary _ _ _) he
          · exact .pure fun _ _ => rfl

theorem objMembers (ctx : Context) :
    Parallel (AlikeBy (List.map ObjMember.unmarked)) (r.objMembers ctx) (r'.objMembers ctx) :=
  (parallel_expectPunct .lBrace .standard).next fun _ =>
    .separated .rBrace (.spanning (hr.objMember ctx)) _ _

theorem objectLiteral (ctx : Context) :
    Parallel (AlikeBy Expr.unmarked) (r.objectLiteral ctx) (r'.objectLiteral ctx) := by
  exact .spanning ((hr.objMembers ctx).bind fun ms ms' hms => .pure fun _ _ =>
    congrArg (Expr.object _) (alike_of_eq membersUnmarked_eq hms))

theorem methodOrField (ctx : Context) (isStatic : Bool) :
    Parallel (AlikeBy ClassMember.unmarked) (r.methodOrField ctx isStatic)
      (r'.methodOrField ctx isStatic) := by
  refine (hr.method? ctx true).bind fun o o' ho => ?_
  cases o with
  | some m =>
    cases o' with
    | none => cases ho
    | some m' =>
      obtain ⟨hkey, hmember⟩ := Prod.mk.inj (Option.some.inj ho)
      exact .pure (congrArg₂ (ClassMember.mk · isStatic ·) hkey hmember)
  | none =>
    cases o' with
    | some m' => cases ho
    | none =>
      refine (hr.key ctx true).bind fun key key' hkey => ?_
      refine (hr.default? ctx _).bind fun d d' hd => ?_
      have hfield := congrArg Member.field (alike_of_eq optUnmarked_eq hd)
      exact parallel_semicolon.next fun _ => .pure <|
        congrArg₂ (ClassMember.mk · isStatic ·) (Key.unmarked_of_unplaced hkey) hfield

theorem classMember (ctx : Context) :
    Parallel (AlikeBy ClassMember.unmarked) (r.classMember ctx) (r'.classMember ctx) := by
  refine parallel_peekTwo.bind fun ts ts' hts => ?_
  obtain ⟨a, next⟩ := ts
  obtain ⟨a', next'⟩ := ts'
  have hopen : ¬Shut "static".toList := by
    intro hshut
    rcases hshut.getLast? with h | h <;> cases h
  have hblock : (a.isWord "static" && next.kind == .punct .lBrace) =
      (a'.isWord "static" && next'.kind == .punct .lBrace) :=
    hts.after_word hopen (· == .punct .lBrace)
  have hfield : (a.isWord "static" &&
        !(next.kind ∈ [.punct .lParen, .punct .assign, .punct .semicolon, .punct .rBrace])) =
      (a'.isWord "static" &&
        !(next'.kind ∈ [.punct .lParen, .punct .assign, .punct .semicolon, .punct .rBrace])) :=
    hts.after_word hopen fun k =>
      !(k ∈ [.punct .lParen, .punct .assign, .punct .semicolon, .punct .rBrace])
  dsimp only
  rw [hblock, hfield]
  refine .ite (fun hstatic => ?_) fun _ => ?_
  · refine (parallel_skip _).next fun _ => ?_
    refine (hr.block _).bind fun ss ss' hss => .pure ?_
    have hident : a'.kind = .ident := by
      simp only [Token.isWord, Bool.and_eq_true, beq_iff_eq] at hstatic
      exact hstatic.1.1
    have hkind : a.kind = a'.kind := Token.kind_of_face hts.first
    have htext : a.text = a'.text := Token.text_of_face hts.first (by rw [hkind, hident]; rfl)
    rw [hkind, htext]
    exact congrArg (ClassMember.mk _ _ ∘ Member.staticBlock) (alike_of_eq stmtsUnmarked_eq hss)
  · exact .ite (fun _ => (parallel_skip _).next fun _ => hr.methodOrField ctx _)
      fun _ => hr.methodOrField ctx _

theorem classMembers (ctx : Context) :
    Parallel (AlikeBy (List.map ClassMember.unmarked)) (r.classMembers ctx) (r'.classMembers ctx) := by
  refine (Parallel.collect (e := Option.map ClassMember.unmarked) ?_ _ _).bind fun os os' hos =>
    .pure ?_
  · refine (parallel_acceptPunct _ _).next fun _ => .ite (fun _ => .pure rfl) fun _ => ?_
    refine (parallel_acceptPunct _ _).next fun _ => .ite (fun _ => .pure rfl) fun _ => ?_
    exact (hr.classMember ctx).bind fun m m' hm => .pure (congrArg (some <| some ·) hm)
  · show List.map _ (os.filterMap id) = List.map _ (os'.filterMap id)
    rw [List.map_filterMap, List.map_filterMap]
    have hboth := congrArg (List.filterMap id) hos
    rwa [List.filterMap_map, List.filterMap_map] at hboth

theorem classTail (ctx : Context) :
    Parallel (AlikeBy classTailUnmarked) (r.classTail ctx) (r'.classTail ctx) := by
  refine (parallel_acceptKeyword _).next fun ok => ?_
  refine (Parallel.optionally ok fun _ => hr.expr ctx _ _).bind fun parent parent' hparent => ?_
  refine (parallel_expectPunct _ _).next fun _ => ?_
  exact (hr.classMembers ctx).bind fun ms ms' hms => .pure (Prod.ext hparent hms)

theorem classSignature (ctx : Context) :
    Parallel (AlikeBy (Prod.map (Option.map Ident.unmarked) classTailUnmarked)) (r.classSignature ctx)
      (r'.classSignature ctx) := by
  refine (parallel_expectKeyword .kClass).next fun _ => ?_
  refine (parallel_declaredName? ctx).bind fun name name' hname => ?_
  exact (hr.classTail ctx).bind fun c c' hc => .pure (Prod.ext hname hc)

theorem classExpr (ctx : Context) :
    Parallel (AlikeBy Expr.unmarked) (r.classExpr ctx) (r'.classExpr ctx) := by
  refine .spanning ((hr.classSignature ctx).bind fun c c' hc => .pure fun _ _ => ?_)
  obtain ⟨hname, hparts⟩ := Prod.mk.inj hc
  obtain ⟨hparent, hmembers⟩ := Prod.mk.inj hparts
  have hparent := alike_of_eq optUnmarked_eq hparent
  have hmembers := alike_of_eq classUnmarked_eq hmembers
  change Expr.classExpr _ _ (optUnmarked _) (classUnmarked _) =
    .classExpr _ _ (optUnmarked _) (classUnmarked _)
  rw [hname, hparent, hmembers]

end Rules.Agree

/-! ### Markup -/

theorem parallel_tagWord : Parallel (AlikeBy Token.saying) tagWord tagWord := parallel_expect _ _

theorem parallel_attributeName : Parallel Eq attributeName attributeName := by
  refine parallel_tagWord.bind fun t t' ht => ?_
  refine (parallel_acceptPunct _ _).next fun _ => .ite (fun _ => ?_) fun _ => ?_
  · refine parallel_tagWord.bind fun u u' hu => .pure ?_
    rw [Token.text_of_saying ht, Token.text_of_saying hu]
  · exact .pure (by rw [Token.text_of_saying ht])

theorem parallel_tagPath (n n' : Nat) : Parallel Eq (tagPath n) (tagPath n') := by
  refine (Parallel.collect (e := id) ?_ n n').mono fun path path' hpath => ?_
  · refine (parallel_acceptPunct _ _).next fun _ => .ite (fun _ => ?_) fun _ => .pure rfl
    exact parallel_tagWord.bind fun t t' ht => .pure (by rw [AlikeBy, Token.text_of_saying ht])
  · rwa [AlikeBy, List.map_id, List.map_id] at hpath

theorem parallel_tagName (n n' : Nat) :
    Parallel (AlikeBy (Option.map JsxTag.unmarked)) (tagName n) (tagName n') := by
  refine (parallel_peekKind _).next fun _ => .ite (fun _ => .pure rfl) fun _ => ?_
  refine parallel_tagWord.bind fun t t' ht => ?_
  have htext := Token.text_of_saying ht
  refine (parallel_acceptPunct _ _).next fun _ => .ite (fun _ => ?_) fun _ => ?_
  · refine parallel_tagWord.bind fun u u' hu => .pure ?_
    rw [AlikeBy, htext, Token.text_of_saying hu]
  have hbase := Ident.unmarked_of_saying ht .unknown
  refine (parallel_tagPath n n').next fun path => .ite (fun _ => ?_) fun _ => ?_
  · exact .pure (congrArg (some <| JsxTag.member · path) hbase)
  rw [htext]
  refine .ite (fun _ => .pure rfl) fun _ => .pure ?_
  rw [htext] at hbase
  exact congrArg (some ∘ JsxTag.ident) hbase

/-- Places do not matter for closing tags. -/
theorem tagsMatch_unmarked (tag tag' : Option JsxTag) :
    tagsMatch (tag.map JsxTag.unmarked) (tag'.map JsxTag.unmarked) = tagsMatch tag tag' := by
  rcases tag with - | (_ | _ | _) <;> rcases tag' with - | (_ | _ | _) <;> rfl

namespace Rules.Agree

variable (hr : r.Agree r')
include hr

theorem container (ctx : Context) :
    Parallel (AlikeBy JsxContent.unmarked) (r.container ctx) (r'.container ctx) := by
  refine (parallel_expectPunct _ _).next fun _ => ?_
  refine (parallel_acceptPunct _ _).next fun _ => .ite (fun _ => .pure rfl) fun _ => ?_
  refine (hr.sequence ctx _).bind fun e e' he => ?_
  refine (parallel_expectPunct _ _).next fun _ => .pure ?_
  exact congrArg (JsxContent.container ∘ some) he

theorem attributeValue (ctx : Context) :
    Parallel (AlikeBy JsxContent.unmarked) (r.attributeValue ctx) (r'.attributeValue ctx) := by
  refine (parallel_peek _).bind fun t t' ht => ?_
  have hkind := Token.kind_of_face ht
  rw [hkind]
  split
  · next hstr =>
    have htext : t.text = t'.text := Token.text_of_face ht (by rw [hkind, hstr]; rfl)
    exact (parallel_skip _).next fun _ => .pure (congrArg JsxContent.text htext)
  · exact hr.container ctx
  · exact (hr.elem ctx).bind fun e e' he => .pure (congrArg JsxContent.elem he)
  · exact .throw

theorem attr (ctx : Context) : Parallel (AlikeBy JsxAttr.unmarked) (r.attr ctx) (r'.attr ctx) := by
  refine (parallel_peekKind _).next fun _ => .ite (fun _ => ?_) fun _ => ?_
  · refine (parallel_expectPunct _ _).next fun _ => (parallel_expectPunct _ _).next fun _ => ?_
    refine (hr.assignment ctx _).bind fun e e' he => ?_
    exact (parallel_expectPunct _ _).next fun _ => .pure (congrArg JsxAttr.spread he)
  refine parallel_attributeName.next fun name => ?_
  refine (parallel_acceptPunct _ _).next fun ok => ?_
  exact (Parallel.optionally ok fun _ => hr.attributeValue ctx).bind fun v v' hv =>
    .pure (congrArg (JsxAttr.named name) (alike_of_eq optContentUnmarked_eq hv))

theorem attrs (ctx : Context) :
    Parallel (AlikeBy (List.map JsxAttr.unmarked)) (r.attrs ctx) (r'.attrs ctx) := by
  refine .collect ?_ _ _
  refine (parallel_peek _).bind fun t t' ht => ?_
  rw [Token.kind_of_face ht]
  split
  · exact .pure rfl
  · exact .pure rfl
  · exact .throw
  · exact (hr.attr ctx).bind fun a a' ha => .pure (congrArg some ha)

/-- The text of a child is the same because it is consumed. -/
theorem child? (ctx : Context) :
    Parallel (AlikeBy (Option.map JsxContent.unmarked)) (r.child? ctx) (r'.child? ctx) where
  keeps b := by
    refine (runs_peek _).bind fun t b₁ _ _ => ?_
    split
    · exact (runs_skip _).bind fun _ b₂ _ _ => .pure ⟨_, rfl⟩
    · exact .pure ⟨_, rfl⟩
    · exact (hr.sound.container false).bind fun v b₂ _ _ => .pure ⟨_, rfl⟩
    · exact (hr.sound.elem _ _).bind fun e b₂ _ _ => .pure ⟨_, rfl⟩
    · exact .throw
    · exact .throw
  follows hw hb := by
    refine .peek hw hb fun {c c'} hc hface => ?_
    rw [Token.kind_of_face hface]
    split
    · intro o d hp hl
      obtain ⟨_, b₁, hskip, h⟩ := bind_ok hp
      cases h
      refine (answers_pass hw hc hskip hl).bind fun _ b₁' hsaying hb₁ => ⟨?_, hb₁⟩
      exact congrArg (some <| JsxContent.text ·) (Token.text_of_saying hsaying)
    · exact (Parallel.pure (V := AlikeBy (Option.map JsxContent.unmarked)) rfl).follows hw hc
    · refine Parallel.follows ?_ hw hc
      exact (hr.container ctx).bind fun v v' hv => .pure (congrArg some hv)
    · refine Parallel.follows ?_ hw hc
      exact (hr.elem ctx).bind fun e e' he => .pure (congrArg (some <| JsxContent.elem ·) he)
    · exact Parallel.throw.follows hw hc
    · exact Parallel.throw.follows hw hc

theorem element (ctx : Context) :
    Parallel (AlikeBy JsxElem.unmarked) (r.element ctx) (r'.element ctx) := by
  refine (parallel_expectPunct _ _).next fun _ => ?_
  refine (parallel_tagName _ _).bind fun tag tag' htag => ?_
  rw [isSome_of_alike htag]
  have hattrs : Parallel (AlikeBy (List.map JsxAttr.unmarked))
      (if tag'.isSome then r.attrs ctx else Pure.pure [])
      (if tag'.isSome then r'.attrs ctx else Pure.pure []) :=
    .ite (fun _ => hr.attrs ctx) fun _ => .pure rfl
  refine .join (hattrs.bind fun as as' has => ?_)
  have has := alike_of_eq attrsUnmarked_eq has
  refine (parallel_acceptPunct _ _).next fun _ => .ite (fun _ => ?_) fun _ => ?_
  · refine (parallel_expectPunct _ _).next fun _ => .pure ?_
    exact congrArg₂ (JsxElem.mk · · []) htag has
  refine (parallel_expectPunct _ _).next fun _ => ?_
  refine (Parallel.collect (hr.child? ctx) _ _).bind fun cs cs' hcs => ?_
  refine (parallel_consume _).bind fun close close' _ => ?_
  refine (parallel_tagName _ _).bind fun closing closing' hclosing => ?_
  have hmatch : tagsMatch closing tag = tagsMatch closing' tag' := by
    rw [← tagsMatch_unmarked, hclosing, htag, tagsMatch_unmarked]
  rw [hmatch]
  refine .ite (fun _ => .throw) fun _ => (parallel_expectPunct _ _).next fun _ => .pure ?_
  have hcs := alike_of_eq contentsUnmarked_eq hcs
  change JsxElem.mk _ (attrsUnmarked as) (contentsUnmarked cs) =
    ⟨_, attrsUnmarked as', contentsUnmarked cs'⟩
  rw [htag, has, hcs]

end Rules.Agree

end ImportSeam
