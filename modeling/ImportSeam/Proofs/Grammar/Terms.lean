import ImportSeam.Proofs.Grammar.Formed
import ImportSeam.Proofs.Grammar.Logic
import ImportSeam.Proofs.Token.Extent

/-!
# Terms as they are read

Every production is given rules that read formed trees and reads a formed tree itself.
-/

namespace ImportSeam

open TokenParser

variable {b b' : TokenBuffer} {ctx : Context} {r : Rules}

/-! ### Tokens -/

theorem scan_kind_of_upcoming {mode : LexMode} {kind : TokenKind}
    (h : (b.upcoming mode).kind = kind) (hk : kind ≠ .invalid) :
    (scan mode (mode.trivia b.position).stop.rest).kind = some kind :=
  scan_kind_of_readToken h hk

theorem isToken_upcoming {mode : LexMode} {kind : TokenKind} (h : (b.upcoming mode).kind = kind)
    (hk : kind ≠ .invalid) : IsToken mode kind (b.upcoming mode).text :=
  ⟨(mode.trivia b.position).stop.rest, scan_kind_of_upcoming h hk, rfl⟩

/-- No comment stands where skipping has stopped. -/
theorem commentAt?_stop (c : Cursor) : commentAt? (skipTrivia c).stop.rest = none := by
  fun_induction skipTrivia c with
  | case1 c hr =>
    rw [hr]
    rfl
  | case2 c d r hr hd ih => exact ih
  | case3 c d r hr _ hd ih => exact ih
  | case4 c d r hr _ _ kind n hcomment stop text newline ih => exact ih
  | case5 c d r hr hline hskip hcomment =>
    rw [hr]
    exact hcomment

/-- The beginning of a text without a comment is none either. -/
theorem commentAt?_take {cs : List Char} (h : commentAt? cs = none) (n : Nat) :
    commentAt? (cs.take n) = none := by
  have hstart : ∀ d t, cs.take n = '/' :: d :: t → ∃ r, cs = '/' :: d :: r := by
    intro d t heq
    obtain ⟨r, hr⟩ := List.take_prefix n cs
    exact ⟨t ++ r, by rw [← hr, heq]; rfl⟩
  unfold commentAt?
  split
  · next heq =>
    obtain ⟨r, rfl⟩ := hstart _ _ heq
    exact nomatch h
  · next heq =>
    obtain ⟨r, rfl⟩ := hstart _ _ heq
    exact nomatch h
  · rfl

theorem isRegexText_upcoming (h : (b.upcoming .operand).kind = .regex) :
    IsRegexText (b.upcoming .operand).text := by
  refine ⟨isToken_upcoming h nofun, ?_⟩
  show commentAt? (String.ofList _).toList = none
  rw [String.toList_ofList]
  exact commentAt?_take (commentAt?_stop b.position) _

theorem Context.ne_invalid_of_isName {kind : TokenKind} (h : ctx.isName kind = true) :
    kind ≠ .invalid := by
  rintro rfl
  exact absurd h (by simp [Context.isName])

theorem names_upcoming (h : ctx.isName (b.upcoming .standard).kind = true) :
    ctx.Names (b.upcoming .standard).text :=
  ⟨_, h, isToken_upcoming rfl (Context.ne_invalid_of_isName h)⟩

/-- An expression that is just a name has the name at or behind the offset. -/
def Expr.NameFrom (offset : Nat) : Expr → Prop
  | .ident id => offset ≤ id.loc.start
  | _ => True

theorem Expr.NameFrom.mono {e : Expr} {m n : Nat} (h : e.NameFrom n) (hmn : m ≤ n) :
    e.NameFrom m := by
  cases e <;> first | exact Nat.le_trans hmn h | trivial

theorem runs_bindingName :
    Runs b (bindingName ctx) fun id _ =>
      id.Fresh ctx ∧ b.position.offset ≤ id.loc.start := by
  refine (runs_consume .standard).bind fun t b₁ _ h₁ => ?_
  obtain ⟨rfl, _⟩ := h₁
  refine .ite (fun h => .pure ⟨⟨rfl, names_upcoming h⟩, b.offset_le_upcoming _⟩) fun _ => .throw

theorem runs_declaredName? :
    Runs b (declaredName? ctx) fun o _ => ∀ id ∈ o, id.Fresh ctx := by
  refine (runs_consumeIf _ .standard).bind fun t b₁ _ h₁ => .pure ?_
  rw [h₁.1]
  split
  · next h =>
    rintro id hid
    obtain rfl := Option.some.inj hid
    exact ⟨rfl, names_upcoming h⟩
  · simp

theorem runs_stringValue : Runs b stringValue fun _ b' =>
    b.Consumes [.read .standard b.position] b' := by
  refine (runs_expect _ .standard).bind fun t b₁ _ h₁ => ?_
  split
  · exact .pure h₁.2.2
  · exact .throw

/-! ### The rules -/

/-- Nothing stands at the position that would make the end of a tag another sign. -/
def TokenBuffer.BehindTag (b : TokenBuffer) : Prop :=
  ∀ c ∈ b.position.rest.head?, c ≠ '=' ∧ c ≠ '>'

/-- The rules read formed trees.  A statement that could take an `else` is not followed by one. -/
structure Rules.Sound (r : Rules) : Prop where
  expr : ∀ b ctx least ends, Runs b (r.expr ctx least ends) fun e _ =>
    e.Formed ctx ∧ e.NameFrom b.position.offset
  operand : ∀ b ctx ends, Runs b (r.operand ctx ends) fun e _ => e.Formed ctx
  construct : ∀ b ctx, Runs b (r.construct ctx) fun e _ => e.Formed ctx
  pat : ∀ b ctx, Runs b (r.pat ctx) fun p _ => p.Formed ctx
  stmt : ∀ b ctx, Runs b (r.stmt ctx) fun s b' => s.Formed ctx ∧
    (s.endsWithOpenIf = true → (b'.upcoming .standard).kind ≠ .keyword .kElse)
  elem : ∀ b ctx, Runs b (r.elem ctx) fun e b' => e.Formed ctx ∧ b'.BehindTag

theorem Rules.sound_exhausted : Rules.exhausted.Sound where
  expr _ _ _ _ := runs_exhausted
  operand _ _ _ := runs_exhausted
  construct _ _ := runs_exhausted
  pat _ _ := runs_exhausted
  stmt _ _ := runs_exhausted
  elem _ _ := runs_exhausted

namespace Rules.Sound

variable (hr : r.Sound)
include hr

theorem sequence (ends : List TokenKind) : Runs b (r.sequence ctx ends) fun e _ =>
    e.Formed ctx ∧ e.NameFrom b.position.offset := hr.expr b ctx _ ends

theorem assignment (ends : List TokenKind) : Runs b (r.assignment ctx ends) fun e _ =>
    e.Formed ctx ∧ e.NameFrom b.position.offset := hr.expr b ctx _ ends

theorem parenthesized : Runs b (r.parenthesized ctx) fun e _ =>
    e.Formed ctx ∧ e.NameFrom b.position.offset := by
  refine (runs_expectPunct .lParen .standard).bind fun _ b₁ _ h₁ => ?_
  refine (hr.sequence _).bind fun e b₂ _ h₂ => ?_
  refine (runs_expectPunct .rParen .standard).bind fun _ b₃ _ _ => .pure ?_
  exact ⟨h₂.1, h₂.2.mono h₁.2.offset_le⟩

theorem default? (ends : List TokenKind) : Runs b (r.default? ctx ends) fun o _ =>
    optFormed ctx o := by
  refine (runs_acceptPunct .assign .standard).bind fun ok b₁ _ _ => ?_
  exact runs_optionally ok (fun _ => (hr.assignment ends).mono fun _ _ _ h => h.1)
    fun _ => trivial

theorem stmtsUntil (stop : TokenKind) : Runs b (r.stmtsUntil ctx stop) fun ss _ =>
    ∀ s ∈ ss, s.Formed ctx := by
  refine runs_collect_all _ (fun b => ?_) _
  refine (runs_peek .standard).bind fun t b₁ _ _ => ?_
  refine .ite (fun _ => .pure (by simp)) fun _ => ?_
  refine .ite (fun _ => .throw) fun _ => ?_
  refine (hr.stmt _ _).bind fun s b₂ _ h => .pure ?_
  simpa using h.1

end Rules.Sound

/-! ### Lists -/

/-- A property of lists that passes from the items to the list. -/
theorem forms_of_forall {α : Type} {F : List α → Prop} (hnil : F [])
    (hcons : ∀ a as, F [a] → F as → F (a :: as)) : ∀ as : List α, (∀ a ∈ as, F [a]) → F as
  | [], _ => hnil
  | a :: as, h =>
    hcons a as (h a List.mem_cons_self)
      (forms_of_forall hnil hcons as fun x hx => h x (List.mem_cons_of_mem a hx))

theorem stmtsFormed_of_forall {ss : List Stmt} (h : ∀ s ∈ ss, s.Formed ctx) :
    stmtsFormed ctx ss :=
  forms_of_forall trivial (fun _ _ hs hss => ⟨hs.1, hss⟩) ss fun s hs => ⟨h s hs, trivial⟩

theorem argsFormed_of_forall {as : List Arg} (h : ∀ a ∈ as, a.value.Formed ctx) :
    argsFormed ctx as :=
  forms_of_forall trivial (fun ⟨_, _⟩ _ ha has => ⟨ha.1, has⟩) as fun ⟨_, _⟩ ha => ⟨h _ ha, trivial⟩

theorem paramsFormed_of_forall {ps : List Param} (h : ∀ p ∈ ps, p.binder.Formed ctx) :
    paramsFormed ctx ps :=
  forms_of_forall trivial (fun ⟨_, _⟩ _ hp hps => ⟨hp.1, hps⟩) ps fun ⟨_, _⟩ hp => ⟨h _ hp, trivial⟩

theorem objFormed_of_forall {ms : List ObjMember} (h : ∀ m ∈ ms, objFormed ctx [m]) :
    objFormed ctx ms := by
  refine forms_of_forall trivial (fun m ms hm hms => ?_) ms h
  cases m <;> exact ⟨hm.1, hms⟩

theorem classFormed_of_forall {ms : List ClassMember} (h : ∀ m ∈ ms, classFormed ctx [m]) :
    classFormed ctx ms :=
  forms_of_forall trivial (fun ⟨_, _, _⟩ _ hm hms => ⟨hm.1, hms⟩) ms h

theorem attrsFormed_of_forall {as : List JsxAttr} (h : ∀ a ∈ as, attrsFormed ctx [a]) :
    attrsFormed ctx as := by
  refine forms_of_forall trivial (fun a as ha has => ?_) as h
  cases a <;> exact ⟨ha.1, has⟩

theorem casesFormed_of_forall {cs : List SwitchCase} (h : ∀ c ∈ cs, casesFormed ctx [c]) :
    casesFormed ctx cs :=
  forms_of_forall trivial (fun ⟨_, _⟩ _ hc hcs => ⟨hc.1, hcs⟩) cs h

/-! ### Keys and patterns -/

/-- The first token consumed is the next one. -/
def TokenBuffer.Begins (b b' : TokenBuffer) : Prop :=
  ∃ ts, b.Consumes (.read .standard b.position :: ts) b'

namespace TokenBuffer.Begins

variable {b₁ b₂ : TokenBuffer}

theorem trans (h : b.Begins b₁) (h' : b₁.Keeps b₂) : b.Begins b₂ := by
  obtain ⟨ts, hts⟩ := h
  obtain ⟨us, hus⟩ := h'
  exact ⟨ts ++ us, hts.trans hus⟩

theorem after (h : b.Consumes [] b₁) (h' : b₁.Begins b₂) : b.Begins b₂ := by
  obtain ⟨ts, hts⟩ := h'
  refine ⟨ts, ?_⟩
  have := h.trans hts
  rwa [h.position] at this

theorem since_start (h : b.Begins b') : (b'.since b.mark).start = (b.upcoming .standard).loc.start := by
  obtain ⟨ts, hts⟩ := h
  rw [hts.since_cons]
  rfl

/-- The first token starts at or before the position reached. -/
theorem start_le (h : b.Begins b') : (b.upcoming .standard).loc.start ≤ b'.position.offset := by
  obtain ⟨ts, hts⟩ := h
  have hf := hts.follow
  rw [hts.position]
  exact Nat.le_trans (start_le_stop _ _) (reaches_endOf hf.2).offset_le

end TokenBuffer.Begins

/-- A key is spelled as its token if it is not quoted. -/
def Key.Spelled : Key → Prop
  | .direct text kind => kind = .str ∨ IsToken .standard kind text
  | .computed _ => True

theorem names_of_spelled {text : String} {kind : TokenKind} (h : Key.Spelled (.direct text kind))
    (hk : ctx.isName kind = true) : ctx.Names text := by
  refine ⟨kind, hk, h.resolve_left ?_⟩
  rintro rfl
  exact absurd hk (by simp [Context.isName])

theorem startsKey_ne_invalid {allowPrivate : Bool} {kind : TokenKind}
    (h : startsKey allowPrivate kind = true) : kind ≠ .invalid := by
  rintro rfl
  exact absurd h (by simp [startsKey])

namespace Rules.Sound

variable (hr : r.Sound)
include hr

theorem block : Runs b (r.block ctx) fun ss _ => stmtsFormed ctx ss := by
  refine (runs_expectPunct .lBrace .standard).bind fun _ b₁ _ _ => ?_
  refine (hr.stmtsUntil _).bind fun ss b₂ _ h => ?_
  exact (runs_expectPunct .rBrace .standard).bind fun _ b₃ _ _ => .pure (stmtsFormed_of_forall h)

theorem key (allowPrivate : Bool) : Runs b (r.key ctx allowPrivate) fun key b' =>
    key.Formed ctx allowPrivate ∧ key.Spelled ∧ b.Begins b' := by
  refine (runs_peek .standard).bind fun t b₁ _ h₁ => ?_
  obtain ⟨rfl, h₁⟩ := h₁
  refine .ite (fun _ => ?_) fun hb => ?_
  · refine (runs_skip .standard).bind fun _ b₂ _ h₂ => ?_
    refine (hr.assignment _).bind fun e b₃ k₃ h₃ => ?_
    refine (runs_expectPunct .rBracket .standard).bind fun _ b₄ k₄ _ => .pure ?_
    exact ⟨h₃.1, trivial, .after h₁ (.trans ⟨[], h₂⟩ (k₃.trans k₄))⟩
  refine .ite (fun _ => .throw) fun hs => ?_
  have hs : startsKey allowPrivate (b.upcoming .standard).kind = true := by simpa using hs
  refine .ite (fun hstr => ?_) fun hstr => ?_
  · refine runs_stringValue.bind fun v b₂ _ h₂ => .pure ?_
    have hstr : (b.upcoming .standard).kind = .str := by simpa using hstr
    exact ⟨.inl hstr, .inl hstr, .after h₁ ⟨[], h₂⟩⟩
  · refine (runs_skip .standard).bind fun _ b₂ _ h₂ => .pure ?_
    have htok : IsToken .standard _ (b.upcoming .standard).text :=
      isToken_upcoming rfl (startsKey_ne_invalid hs)
    exact ⟨.inr ⟨_, hs, by simpa using hstr, by simpa using hb, htok⟩, .inr htok,
      .after h₁ ⟨[], h₂⟩⟩

theorem elemPats : ∀ (n : Nat) (b : TokenBuffer), Runs b (r.elemPats ctx n) fun es _ =>
    elemPatsFormed ctx es.1 ∧ optPatFormed ctx es.2
  | 0, _ => runs_exhausted
  | n + 1, b => by
    refine (runs_acceptPunct .rBracket .standard).bind fun _ b₁ _ _ => ?_
    refine .ite (fun _ => .pure ⟨trivial, trivial⟩) fun _ => ?_
    refine (runs_acceptPunct .comma .standard).bind fun _ b₂ _ _ => ?_
    refine .ite (fun _ => ?_) fun _ => ?_
    · exact (elemPats n b₂).bind fun es b₃ _ h => .pure h
    refine (runs_acceptPunct .ellipsis .standard).bind fun _ b₃ _ _ => ?_
    refine .ite (fun _ => ?_) fun _ => ?_
    · refine (hr.pat _ _).bind fun p b₄ _ hp => ?_
      exact (runs_expectPunct .rBracket .standard).bind fun _ b₅ _ _ => .pure ⟨trivial, hp⟩
    refine (hr.pat _ _).bind fun p b₄ _ hp => ?_
    refine (hr.default? _).bind fun init b₅ _ hi => ?_
    refine (runs_acceptPunct .comma .standard).bind fun _ b₆ _ _ => ?_
    refine .ite (fun _ => ?_) fun _ => ?_
    · exact (elemPats n b₆).bind fun es b₇ _ h => .pure ⟨⟨⟨hp, hi⟩, h.1⟩, h.2⟩
    · exact (runs_expectPunct .rBracket .standard).bind fun _ b₇ _ _ =>
        .pure ⟨⟨⟨hp, hi⟩, trivial⟩, trivial⟩

theorem propPat : Runs b (r.propPat ctx) fun p _ =>
    p.key.Formed ctx false ∧ p.binder.Formed ctx := by
  refine (runs_peek .standard).bind fun t b₁ _ _ => ?_
  refine (hr.key false).bind fun key b₂ _ hk => ?_
  refine (runs_acceptPunct .colon .standard).bind fun _ b₃ _ _ => ?_
  refine .ite (fun _ => ?_) fun _ => ?_
  · refine (hr.pat _ _).bind fun p b₄ _ hp => ?_
    exact (hr.default? _).bind fun init b₅ _ hi => .pure ⟨hk.1, hp, hi⟩
  · cases key with
    | computed e => exact .throw
    | direct text kind =>
      refine .ite (fun _ => .throw) fun hname => ?_
      have hname := names_of_spelled hk.2.1 (by simpa using hname)
      exact (hr.default? _).bind fun init b₅ _ hi => .pure ⟨hk.1, ⟨rfl, hname⟩, hi⟩

theorem propPats : ∀ (n : Nat) (b : TokenBuffer), Runs b (r.propPats ctx n) fun ps _ =>
    propsFormed ctx ps.1 ∧ ∀ id ∈ ps.2, id.Fresh ctx
  | 0, _ => runs_exhausted
  | n + 1, b => by
    refine (runs_acceptPunct .rBrace .standard).bind fun _ b₁ _ _ => ?_
    refine .ite (fun _ => .pure ⟨trivial, by simp⟩) fun _ => ?_
    refine (runs_acceptPunct .ellipsis .standard).bind fun _ b₂ _ _ => ?_
    refine .ite (fun _ => ?_) fun _ => ?_
    · refine runs_bindingName.bind fun id b₃ _ hid => ?_
      exact (runs_expectPunct .rBrace .standard).bind fun _ b₄ _ _ =>
        .pure ⟨trivial, by simpa using hid.1⟩
    refine hr.propPat.bind fun ⟨key, binder, isShorthand⟩ b₃ _ hp => ?_
    refine (runs_acceptPunct .comma .standard).bind fun _ b₄ _ _ => ?_
    refine .ite (fun _ => ?_) fun _ => ?_
    · exact (propPats n b₄).bind fun ps b₅ _ h => .pure ⟨⟨hp, h.1⟩, h.2⟩
    · exact (runs_expectPunct .rBrace .standard).bind fun _ b₅ _ _ =>
        .pure ⟨⟨hp, trivial⟩, by simp⟩

theorem pattern : Runs b (r.pattern ctx) fun p _ => p.Formed ctx := by
  refine (runs_peekKind .standard).bind fun k b₁ _ _ => ?_
  split
  · refine runs_spanning ?_
    refine (runs_expectPunct .lBracket .standard).bind fun _ b₂ _ _ => ?_
    exact (hr.elemPats _ _).bind fun es b₃ _ h => .pure h
  · refine runs_spanning ?_
    refine (runs_expectPunct .lBrace .standard).bind fun _ b₂ _ _ => ?_
    exact (hr.propPats _ _).bind fun ps b₃ _ h => .pure h
  · exact runs_bindingName.bind fun id b₂ _ h => .pure h.1

end Rules.Sound

/-! ### Templates -/

/-- A token of a template carries raw text between its delimiters. -/
def Token.HasText (t : Token) (isFirst : Bool) : Prop :=
  t.kind = .templateChunk ∨ t.kind = .templateEnd → IsTemplateText (templateText t isFirst)

theorem isTemplateText_take {cs : List Char} {kind : TokenKind}
    (h : (Scan.template cs).kind = some kind) :
    IsTemplateText (String.ofList ((cs.take (Scan.template cs).length).take
      ((cs.take (Scan.template cs).length).length - if kind == .templateChunk then 2 else 1))) := by
  obtain ⟨raw, rest, hraw, ⟨rfl, rfl, hl⟩ | ⟨rfl, rfl, hl⟩⟩ := Scan.template_eq h
  · rw [hl, IsTemplateText]
    simpa [List.take_append, List.take_of_length_le] using hraw
  · rw [hl, IsTemplateText]
    simpa [List.take_append, List.take_of_length_le] using hraw

theorem hasText_tail (b : TokenBuffer) : (b.upcoming .templateTail).HasText false := by
  intro hk
  have hs := scan_kind_of_upcoming (b := b) rfl
    (by rintro h; rw [h] at hk; simp at hk)
  have := isTemplateText_take hs
  simpa [templateText, TokenBuffer.upcoming, readToken, Cursor.taken, scan] using this

theorem hasText_first (b : TokenBuffer) : (b.upcoming .standard).HasText true := by
  intro hk
  have hs := scan_kind_of_upcoming (b := b) rfl
    (by rintro h; rw [h] at hk; simp at hk)
  obtain ⟨r, hr, ho⟩ := Scan.ordinary_template hs hk
  rw [show scan .standard = Scan.ordinary .standard from rfl, ho] at hs
  have := isTemplateText_take hs
  rw [hr] at ho
  simpa [templateText, TokenBuffer.upcoming, readToken, Cursor.taken, scan, hr, ho,
    Nat.add_comm 1] using this

namespace Rules.Sound

variable (hr : r.Sound)
include hr

theorem templateParts : ∀ (n : Nat) (b : TokenBuffer) (t : Token) (isFirst : Bool),
    t.HasText isFirst → Runs b (r.templateParts ctx n t isFirst) fun ps _ =>
      partsFormed ctx ps.1
  | 0, _, _, _, _ => runs_exhausted
  | n + 1, b, t, isFirst, ht => by
    unfold Rules.templateParts
    dsimp only
    split
    · next hk => exact .pure ⟨ht (.inr hk), trivial⟩
    · next hk =>
      refine (hr.sequence _).bind fun e b₁ _ he => ?_
      refine (runs_expectPunct .rBrace .standard).bind fun _ b₂ _ _ => ?_
      refine (runs_consume .templateTail).bind fun u b₃ _ hu => ?_
      refine (templateParts n b₃ u false (hu.1 ▸ hasText_tail b₂)).bind fun ps b₄ _ hps => ?_
      exact .pure ⟨ht (.inl hk), he.1, hps⟩
    · exact .throw
    · exact .throw

theorem templateAfter {t : Token} (ht : t.HasText true) :
    Runs b (r.templateAfter ctx t) fun ps _ => partsFormed ctx ps.1 :=
  hr.templateParts _ _ _ _ ht

end Rules.Sound

/-! ### Functions -/

namespace Rules.Sound

variable (hr : r.Sound)
include hr

theorem params : Runs b (r.params ctx) fun ps _ => paramsFormed ctx ps := by
  refine (runs_expectPunct .lParen .standard).bind fun _ b₁ _ _ => ?_
  refine Runs.mono (runs_separated .rParen (fun b => ?_) _ _) fun ps _ _ h =>
    paramsFormed_of_forall h
  refine (runs_acceptPunct .ellipsis .standard).bind fun _ b₂ _ _ => ?_
  refine (hr.pat _ _).bind fun p b₃ _ hp => ?_
  exact (hr.default? _).bind fun init b₄ _ hi => .pure ⟨hp, hi⟩

theorem funcAfterName (ctx : Context) (isAsync isGenerator : Bool) :
    Runs b (r.funcAfterName isAsync isGenerator) fun f _ =>
      f.Formed ctx false ∧ f.isAsync = isAsync ∧ f.isGenerator = isGenerator := by
  refine hr.params.bind fun ps b₁ _ hps => ?_
  refine hr.block.bind fun ss b₂ _ hss => .pure ?_
  exact ⟨⟨rfl, nofun, fun _ => rfl, hps, hss⟩, rfl, rfl⟩

theorem signature : Runs b (r.signature ctx) fun s _ =>
    (∀ id ∈ s.1, id.Fresh ctx) ∧ s.2.Formed ctx false := by
  refine (runs_acceptWord "async").bind fun isAsync b₁ _ _ => ?_
  refine (runs_expectKeyword .kFunction).bind fun _ b₂ _ _ => ?_
  refine (runs_acceptPunct .star .standard).bind fun isGenerator b₃ _ _ => ?_
  refine runs_declaredName?.bind fun name b₄ _ hname => ?_
  exact (hr.funcAfterName ctx _ _).bind fun f b₅ _ hf => .pure ⟨hname, hf.1⟩

theorem funcExpr : Runs b (r.funcExpr ctx) fun e _ =>
    e.Formed ctx ∧ e.NameFrom b.position.offset := by
  refine runs_spanning ?_
  exact hr.signature.bind fun s b₁ _ hs => .pure ⟨hs, trivial⟩

end Rules.Sound

/-! ### Members -/

/-- A member of a class behind an optional `static`: a method, or else a field. -/
def Rules.methodOrField (r : Rules) (ctx : Context) (isStatic : Bool) :
    TokenParser ClassMember := do
  if let some (key, member) ← r.method? ctx true then return ⟨key, isStatic, member⟩
  let key ← r.key ctx true
  let value ← r.default? ctx [.punct .semicolon, .punct .rBrace]
  TokenParser.semicolon
  return ⟨key, isStatic, .field value⟩

/-- Whether the member is a method, a getter or a setter. -/
def Member.isMethod : Member → Bool
  | .getter _ | .setter _ | .method _ => true
  | _ => false

theorem Member.fitsObject_of_isMethod {m : Member} (h : m.isMethod = true) :
    m.fitsObject = true := by
  cases m <;> simp_all [Member.isMethod, Member.fitsObject]

theorem Member.nameAfter_of_isMethod {m : Member} (h : m.isMethod = true) (n : Nat) :
    m.NameAfter n := by
  cases m <;> simp_all [Member.isMethod, Member.NameAfter]

theorem Member.fitsKey_of_isMethod {m : Member} (h : m.isMethod = true) (key : Key)
    (isStatic : Bool) : m.FitsKey key isStatic := by
  cases m <;> simp_all [Member.isMethod, Member.FitsKey]

namespace Rules.Sound

variable (hr : r.Sound)
include hr

theorem method? (allowPrivate : Bool) : Runs b (r.method? ctx allowPrivate) fun o b' =>
    match o with
    | some (key, m) => key.Formed ctx allowPrivate ∧ m.Formed ctx ∧ m.isMethod = true
    | none => b.Consumes [] b' := by
  refine runs_peekTwo.bind fun ts b₁ _ h₁ => ?_
  obtain ⟨rfl, h₁⟩ := h₁
  -- the rest may go back to here
  refine RunsFrom.bind runs_mark fun start b₂ _ h₂ => ?_
  obtain ⟨rfl, rfl⟩ := h₂
  refine .ite (fun _ => ?_) fun _ => .ite (fun _ => ?_) fun _ => .ite (fun _ => ?_) fun _ => ?_
  · refine .bind (runs_skip _) fun _ b₂ _ _ => ?_
    refine .bind (hr.key _) fun key b₃ _ hk => ?_
    refine .bind (hr.funcAfterName ctx _ _) fun f b₄ _ hf => .pure ?_
    have hplain : f.isPlain = true := by simp [Func.isPlain, hf.2]
    refine ⟨hk.1, ?_⟩
    split <;> exact ⟨⟨hplain, hf.1⟩, rfl⟩
  · have tail : ∀ b₂ isAsync, RunsFrom b₁ b₂ (do
        let isGenerator ← acceptPunct .star
        let key ← r.key ctx allowPrivate
        let func ← r.funcAfterName isAsync isGenerator
        return some (key, Member.method func)) fun o b' =>
          match o with
          | some (key, m) => key.Formed ctx allowPrivate ∧ m.Formed ctx ∧ m.isMethod = true
          | none => b.Consumes [] b' := by
      intro b₂ isAsync
      refine .bind (runs_acceptPunct _ _) fun isGenerator b₃ _ _ => ?_
      refine .bind (hr.key _) fun key b₄ _ hk => ?_
      exact .bind (hr.funcAfterName ctx _ _) fun f b₅ _ hf => .pure ⟨hk.1, hf.1, rfl⟩
    refine .ite (fun _ => .bind (runs_skip _) fun _ b₂ _ _ => tail b₂ _) fun _ => tail b₁ _
  · exact .pure h₁
  · refine .bind (hr.key _) fun key b₂ _ hk => ?_
    refine .bind (runs_peekKind _) fun kind b₃ _ _ => .ite (fun _ => ?_) fun _ => ?_
    · exact .bind (hr.funcAfterName ctx _ _) fun f b₄ _ hf => .pure ⟨hk.1, hf.1, rfl⟩
    · exact .chain .restore fun _ b₄ _ h₄ => .pure (by simpa using h₁.trans h₄)

end Rules.Sound

namespace Rules.Sound

variable (hr : r.Sound)
include hr

theorem objMember : Runs b (r.objMember ctx) fun build b' =>
    objFormed ctx [build (b'.since b.mark)] := by
  refine (runs_acceptPunct .ellipsis .standard).bind fun ok b₁ _ h₁ => ?_
  refine .ite (fun _ => ?_) fun hok => ?_
  · exact (hr.assignment _).bind fun e b₂ _ he => .pure ⟨he.1, trivial⟩
  have h₁ : b.Consumes [] b₁ := by simpa [TokenBuffer.Accepts, hok] using h₁.2
  refine (hr.method? false).bind fun o b₂ _ h₂ => ?_
  split
  · next key m =>
    obtain ⟨hk, hm, hmethod⟩ := h₂
    exact .pure ⟨⟨hk, m.fitsObject_of_isMethod hmethod, m.nameAfter_of_isMethod hmethod _, hm⟩,
      trivial⟩
  · next hnone =>
    have h₂ : b₁.Consumes [] b₂ := by
      cases o with
      | none => exact h₂
      | some km => exact absurd rfl (hnone km.1 km.2)
    refine (runs_peek .standard).bind fun t b₃ _ h₃ => ?_
    obtain ⟨rfl, h₃⟩ := h₃
    have hsame : b.Consumes [] b₂ := by simpa using h₁.trans h₂
    refine (hr.key false).bind fun key b₄ _ h₄ => ?_
    have hbegin : b.Begins b₄ := .after hsame (.after h₃ h₄.2.2)
    refine (runs_acceptPunct .colon .standard).bind fun colon b₅ k₅ h₅ => ?_
    refine .ite (fun hcolon => ?_) fun _ => ?_
    · subst hcolon
      refine (hr.assignment _).bind fun e b₆ k₆ he => .pure ⟨⟨h₄.1, rfl, ?_, he.1⟩, trivial⟩
      have hlt : (b.upcoming .standard).loc.start < b₅.position.offset :=
        calc (b.upcoming .standard).loc.start ≤ b₄.position.offset := hbegin.start_le
          _ ≤ (b₄.upcoming .standard).loc.start := b₄.offset_le_upcoming _
          _ < b₅.position.offset := h₅.2.start_lt (by simpa using h₅.1.symm)
      rw [(hbegin.trans (k₅.trans k₆)).since_start]
      cases e with
      | ident id => exact Nat.lt_of_lt_of_le hlt he.2
      | _ => trivial
    cases key with
    | computed e => exact .throw
    | direct text kind =>
      refine .ite (fun _ => .throw) fun hkind => ?_
      have hkind : ctx.isName kind = true := by simpa using hkind
      have hname := names_of_spelled h₄.2.1 hkind
      have hkey : IsKey false text .ident := .inr (h₄.1.resolve_left fun h => by
        rw [h] at hkind
        simp [Context.isName] at hkind)
      refine (runs_acceptPunct .assign .standard).bind fun _ b₆ k₆ _ => .ite (fun _ => ?_) fun _ => ?_
      · refine (hr.assignment _).bind fun e b₇ _ he => .pure ?_
        exact ⟨⟨hkey, rfl, trivial, .inl ⟨rfl, ⟨rfl, hname⟩, .inl rfl⟩, he.1⟩, trivial⟩
      · refine .pure ⟨⟨⟨rfl, hname⟩, ?_⟩, trivial⟩
        rw [(hbegin.trans (k₅.trans k₆)).since_start, ← hsame.upcoming]

theorem objMembers : Runs b (r.objMembers ctx) fun ms _ => objFormed ctx ms := by
  refine (runs_expectPunct .lBrace .standard).bind fun _ b₁ _ _ => ?_
  exact Runs.mono (runs_separated .rBrace (fun b => runs_spanning hr.objMember) _ _)
    fun ms _ _ h => objFormed_of_forall h

theorem objectLiteral : Runs b (r.objectLiteral ctx) fun e _ =>
    e.Formed ctx ∧ e.NameFrom b.position.offset :=
  runs_spanning (hr.objMembers.bind fun _ _ _ h => .pure ⟨h, trivial⟩)

theorem methodOrField (isStatic : Bool) :
    Runs b (r.methodOrField ctx isStatic) fun m _ => classFormed ctx [m] := by
  refine (hr.method? true).bind fun o b₁ _ h₁ => ?_
  split
  · next key m =>
    obtain ⟨hk, hm, hmethod⟩ := h₁
    exact .pure ⟨⟨hk, m.fitsKey_of_isMethod hmethod _ _, hm⟩, trivial⟩
  · refine (hr.key true).bind fun key b₂ _ hk => ?_
    refine (hr.default? _).bind fun value b₃ _ hv => ?_
    exact runs_semicolon.bind fun _ b₄ _ _ => .pure ⟨⟨hk.1, trivial, hv⟩, trivial⟩

theorem classMember : Runs b (r.classMember ctx) fun m _ => classFormed ctx [m] := by
  refine runs_peekTwo.bind fun ts b₁ _ h₁ => ?_
  obtain ⟨rfl, h₁⟩ := h₁
  refine .ite (fun hstatic => ?_) fun _ => ?_
  · refine (runs_skip _).bind fun _ b₂ _ _ => ?_
    refine hr.block.bind fun ss b₃ _ hss => .pure ⟨⟨?_, ⟨rfl, ?_⟩, hss⟩, trivial⟩
    all_goals
      simp only [Token.isWord, Bool.and_eq_true, beq_iff_eq] at hstatic
      obtain ⟨⟨hkind, htext⟩, -⟩ := hstatic
    · exact .inr ⟨.ident, rfl, nofun, nofun, isToken_upcoming hkind nofun⟩
    · rw [hkind, htext]
  · exact .ite (fun _ => (runs_skip _).bind fun _ b₂ _ _ => hr.methodOrField _)
      fun _ => hr.methodOrField _

theorem classMembers : Runs b (r.classMembers ctx) fun ms _ => classFormed ctx ms := by
  refine (runs_collect_all (fun o => ∀ m ∈ o, classFormed ctx [m]) (fun b => ?_) _).bind
    fun os b₁ _ hos => .pure (classFormed_of_forall fun m hm => ?_)
  · refine (runs_acceptPunct _ _).bind fun _ b₁ _ _ => .ite (fun _ => .pure (by simp)) fun _ => ?_
    refine (runs_acceptPunct _ _).bind fun _ b₂ _ _ => .ite (fun _ => .pure (by simp)) fun _ => ?_
    exact hr.classMember.bind fun m b₃ _ hm => .pure (by simpa using hm)
  · obtain ⟨o, ho, hom⟩ := List.mem_filterMap.1 hm
    exact hos o ho m hom

theorem classTail : Runs b (r.classTail ctx) fun c _ =>
    optFormed ctx c.1 ∧ classFormed ctx c.2 := by
  refine (runs_acceptKeyword _).bind fun ok b₁ _ _ => ?_
  refine (runs_optionally (T := fun o _ => optFormed ctx o) ok
    (fun _ => (hr.expr _ _ _ _).mono fun _ _ _ h => h.1) fun _ => trivial).bind
    fun parent b₂ _ hp => ?_
  refine (runs_expectPunct _ _).bind fun _ b₃ _ _ => ?_
  exact hr.classMembers.bind fun ms b₄ _ hms => .pure ⟨hp, hms⟩

theorem classSignature : Runs b (r.classSignature ctx) fun c _ =>
    (∀ id ∈ c.1, id.Fresh ctx) ∧ optFormed ctx c.2.1 ∧ classFormed ctx c.2.2 := by
  refine (runs_expectKeyword .kClass).bind fun _ b₁ _ _ => ?_
  refine runs_declaredName?.bind fun name b₂ _ hname => ?_
  exact hr.classTail.bind fun c b₃ _ hc => .pure ⟨hname, hc⟩

theorem classExpr : Runs b (r.classExpr ctx) fun e _ =>
    e.Formed ctx ∧ e.NameFrom b.position.offset :=
  runs_spanning (hr.classSignature.bind fun _ _ _ h => .pure ⟨h, trivial⟩)

end Rules.Sound

/-! ### Markup -/

theorem runs_tagWord : Runs b tagWord fun t _ =>
    IsTagWord t.text ∧ t = b.upcoming .jsxTag := by
  refine (runs_expect _ _).mono fun t _ _ h => ⟨?_, h.1⟩
  obtain ⟨rfl, hk, -⟩ := h
  exact isToken_upcoming hk nofun

theorem runs_attributeName : Runs b attributeName fun n _ => n.Formed := by
  refine runs_tagWord.bind fun t b₁ _ ht => ?_
  refine (runs_acceptPunct _ _).bind fun _ b₂ _ _ => .ite (fun _ => ?_) fun _ => ?_
  · exact runs_tagWord.bind fun u b₃ _ hu => .pure ⟨hu.1, by simpa using ht.1⟩
  · exact .pure ⟨ht.1, by simp⟩

theorem runs_tagPath (n : Nat) : Runs b (tagPath n) fun path _ => ∀ p ∈ path, IsTagWord p := by
  refine runs_collect_all _ (fun b => ?_) n
  refine (runs_acceptPunct _ _).bind fun _ b₁ _ _ => .ite (fun _ => ?_) fun _ => .pure (by simp)
  exact runs_tagWord.bind fun t b₂ _ ht => .pure (by simpa using ht.1)

theorem runs_tagName (n : Nat) : Runs b (tagName n) fun o _ => ∀ t ∈ o, t.Formed := by
  refine (runs_peekKind _).bind fun _ b₁ _ _ => .ite (fun _ => .pure (by simp)) fun _ => ?_
  refine runs_tagWord.bind fun t b₂ _ ht => ?_
  refine (runs_acceptPunct _ _).bind fun _ b₃ _ _ => .ite (fun _ => ?_) fun _ => ?_
  · refine runs_tagWord.bind fun u b₄ _ hu => .pure ?_
    simp only [Option.mem_some_iff, forall_eq']
    exact ⟨⟨hu.1, by simpa using ht.1⟩, nofun⟩
  refine (runs_tagPath n).bind fun path b₄ _ hpath => ?_
  refine .ite (fun hne => .pure ?_) fun _ => .ite (fun hmarkup => .pure ?_) fun hmarkup => .pure ?_
  all_goals simp only [Option.mem_some_iff, forall_eq']
  · exact ⟨rfl, ht.1, by simpa using hne, hpath⟩
  · exact ⟨⟨ht.1, by simp⟩, fun _ => hmarkup⟩
  · exact ⟨rfl, ht.1, by simpa using hmarkup⟩

namespace Scan

/-- The end of a tag is not read in front of a character that makes it another sign. -/
theorem longest?_gt {cs : List Char} (h : Punctuator.longest? cs = some .gt) :
    ∀ c ∈ (cs.drop 1).head?, c ≠ '=' ∧ c ≠ '>' := by
  obtain ⟨hstarts, before, after, hall, hlonger⟩ := List.find?_eq_some_iff_append.mp h
  have hbefore : before = Punctuator.all.takeWhile (· != .gt) := by
    have hnot : ∀ q ∈ before, (q != Punctuator.gt) = true := by
      intro q hq
      rw [bne_iff_ne]
      rintro rfl
      have := hlonger _ hq
      rw [hstarts] at this
      exact nomatch this
    rw [hall, List.takeWhile_append_of_pos hnot]
    simp
  obtain ⟨r, rfl⟩ : ∃ r, cs = '>' :: r := by
    obtain ⟨r, hr⟩ := List.isPrefixOf_iff_prefix.mp hstarts
    exact ⟨r, hr.symm⟩
  intro c hc
  have hgtEq : Punctuator.gtEq ∈ before := hbefore ▸ by decide
  have hgtGt : Punctuator.gtGt ∈ before := hbefore ▸ by decide
  obtain ⟨t, rfl⟩ : ∃ t, r = c :: t := List.head?_eq_some_iff.mp hc
  constructor
  · rintro rfl
    exact absurd (hlonger _ hgtEq) (by simp [Punctuator.chars])
  · rintro rfl
    exact absurd (hlonger _ hgtGt) (by simp [Punctuator.chars])

theorem tag_gt {cs : List Char} (h : (scan .jsxTag cs).kind = some (.punct .gt)) :
    ∀ c ∈ (cs.drop (scan .jsxTag cs).length).head?, c ≠ '=' ∧ c ≠ '>' := by
  cases cs with
  | nil => exact nomatch h
  | cons c r =>
    have hpunct : ordinary .jsxTag (c :: r) = punctuator (c :: r) := by
      have hkind : (ordinary .jsxTag (c :: r)).kind = some (.punct .gt) := h
      unfold ordinary at hkind ⊢
      dsimp only at hkind ⊢
      split at hkind
      · split at hkind
        · rcases attributeString_kind c r with hk | hk <;> exact nomatch hk.symm.trans hkind
        · rcases string_kind c r with hk | hk <;> exact nomatch hk.symm.trans hkind
      split at hkind
      · rcases template_kind r with hk | hk | hk <;> exact nomatch hk.symm.trans hkind
      split at hkind
      · rcases number_kind (c :: r) with hk | hk <;> exact nomatch hk.symm.trans hkind
      split at hkind
      · rcases number_kind (c :: r) with hk | hk <;> exact nomatch hk.symm.trans hkind
      split at hkind
      · rcases privateName_kind r with hk | hk <;> exact nomatch hk.symm.trans hkind
      split at hkind
      · rcases regex_kind r with hk | hk <;> exact nomatch hk.symm.trans hkind
      split at hkind
      · rcases word_kind (LexMode.jsxTag == .jsxTag) (c :: r) with hk | hk | ⟨k, hk⟩ <;>
          exact nomatch hk.symm.trans hkind
      · simp only [*, if_false, Bool.false_eq_true]
    have hscan : scan .jsxTag (c :: r) = punctuator (c :: r) := hpunct
    rw [hscan] at h ⊢
    unfold punctuator at h ⊢
    split at h
    · split at h <;> exact nomatch h
    · next p hp heq =>
      obtain rfl := TokenKind.punct.inj (Option.some.inj h)
      exact longest?_gt heq
    · exact nomatch h

end Scan

/-- Behind the end of a tag. -/
theorem behindTag_of_gt (hk : (b.upcoming .jsxTag).kind = .punct .gt)
    (h : b.Consumes [.read .jsxTag b.position] b') : b'.BehindTag := by
  have hpos : b'.position = (readToken .jsxTag b.position).stop := h.position
  unfold TokenBuffer.BehindTag
  rw [hpos]
  exact Scan.tag_gt (scan_kind_of_upcoming hk nofun)

/-- A text right behind a tag starts with neither of the two characters. -/
theorem standBehindTag_text (hb : b.BehindTag) (hk : (b.upcoming .jsxText).kind = .jsxText)
    (cs : List JsxContent) : standBehindTag (.text (b.upcoming .jsxText).text :: cs) = true := by
  obtain ⟨⟨c, r, hcr, hc⟩, hlen⟩ := Scan.jsxText_eq (scan_kind_of_upcoming hk nofun)
  have hhead : (b.upcoming .jsxText).text.toList.head? = some c := by
    show (String.ofList (b.position.rest.take (Scan.jsxText b.position.rest).length)).toList.head? = _
    have hcr : b.position.rest = c :: r := hcr
    have hpos : 0 < Scan.run Scan.isTextChar (c :: r) := Scan.run_pos hc
    rw [String.toList_ofList, List.head?_take, if_neg, hcr]
    · rfl
    · have hlen : (Scan.jsxText b.position.rest).length = Scan.run Scan.isTextChar b.position.rest := hlen
      rw [hlen, hcr]
      exact Nat.ne_of_gt hpos
  obtain ⟨heq, hgt⟩ := hb c (by rw [show b.position.rest = c :: r from hcr]; rfl)
  simp [standBehindTag, hhead, heq, hgt]

/-- No text follows text: the first one takes everything up to a brace or a tag. -/
theorem upcoming_after_text (h : b.Consumes [.read .jsxText b.position] b')
    (hk : (b.upcoming .jsxText).kind = .jsxText) :
    (b'.upcoming .jsxText).kind ≠ .jsxText := by
  obtain ⟨-, hlen⟩ := Scan.jsxText_eq (scan_kind_of_upcoming hk nofun)
  have hrest : b'.position.rest = b.position.rest.dropWhile Scan.isTextChar := by
    rw [h.position, ← Scan.drop_run]
    exact congrArg (List.drop · b.position.rest) hlen
  intro hk'
  obtain ⟨⟨c, r, hcr, hc⟩, -⟩ := Scan.jsxText_eq (scan_kind_of_upcoming hk' nofun)
  have hdrop : b.position.rest.dropWhile Scan.isTextChar = c :: r := hrest ▸ hcr
  have hne : b.position.rest.dropWhile Scan.isTextChar ≠ [] := by simp [hdrop]
  have hnot := List.head_dropWhile_not Scan.isTextChar hne
  simp [hdrop, hc] at hnot

namespace Rules.Sound

variable (hr : r.Sound)
include hr

theorem container (inTag : Bool) : Runs b (r.container ctx) fun c _ =>
    c.Formed ctx inTag ∧ ∃ e, c = .container e := by
  refine (runs_expectPunct _ _).bind fun _ b₁ _ _ => ?_
  refine (runs_acceptPunct _ _).bind fun _ b₂ _ _ =>
    .ite (fun _ => .pure ⟨trivial, none, rfl⟩) fun _ => ?_
  refine (hr.sequence _).bind fun e b₃ _ he => ?_
  exact (runs_expectPunct _ _).bind fun _ b₄ _ _ => .pure ⟨he.1, some e, rfl⟩

theorem attributeValue : Runs b (r.attributeValue ctx) fun c _ => c.Formed ctx true := by
  refine (runs_peek _).bind fun t b₁ _ h₁ => ?_
  obtain ⟨rfl, -⟩ := h₁
  split
  · next hk =>
    exact (runs_skip _).bind fun _ b₂ _ _ => .pure (isToken_upcoming hk nofun)
  · exact (hr.container true).mono fun _ _ _ h => h.1
  · exact (hr.elem _ _).bind fun e b₂ _ he => .pure he.1
  · exact .throw

theorem attr : Runs b (r.attr ctx) fun a _ => attrsFormed ctx [a] := by
  refine (runs_peekKind _).bind fun _ b₁ _ _ => .ite (fun _ => ?_) fun _ => ?_
  · refine (runs_expectPunct _ _).bind fun _ b₂ _ _ => ?_
    refine (runs_expectPunct _ _).bind fun _ b₃ _ _ => ?_
    refine (hr.assignment _).bind fun e b₄ _ he => ?_
    exact (runs_expectPunct _ _).bind fun _ b₅ _ _ => .pure ⟨he.1, trivial⟩
  · refine runs_attributeName.bind fun name b₂ _ hname => ?_
    refine (runs_acceptPunct _ _).bind fun ok b₃ _ _ => ?_
    refine (runs_optionally (T := fun o _ => optContentFormed ctx o) ok
      (fun _ => hr.attributeValue) fun _ => trivial).bind fun value b₄ _ hv => ?_
    exact .pure ⟨⟨hname, hv⟩, trivial⟩

theorem attrs : Runs b (r.attrs ctx) fun as _ => attrsFormed ctx as := by
  refine (runs_collect_all (fun a => attrsFormed ctx [a]) (fun b => ?_) _).mono
    fun as _ _ h => attrsFormed_of_forall h
  refine (runs_peek _).bind fun t b₁ _ _ => ?_
  split
  · exact .pure (by simp)
  · exact .pure (by simp)
  · exact .throw
  · exact hr.attr.bind fun a b₂ _ ha => .pure (by simpa using ha)

theorem children : Runs b (TokenParser.collect r.depth (r.child? ctx)) fun cs _ =>
    contentsFormed ctx cs ∧ (b.BehindTag → standBehindTag cs = true) := by
  refine (runs_collect (T := fun b cs => (contentsFormed ctx cs ∧
    (b.BehindTag → standBehindTag cs = true)) ∧
      (startsWithText cs = true → (b.upcoming .jsxText).kind = .jsxText)) (fun b => ?_) _ b).mono
    fun _ _ _ h => h.1
  refine (runs_peek _).bind fun t b₁ _ h₁ => ?_
  obtain ⟨rfl, h₁⟩ := h₁
  split
  · next hk =>
    refine (runs_skip _).bind fun _ b₂ _ h₂ => .pure fun cs hcs => ?_
    refine ⟨⟨⟨⟨isToken_upcoming hk nofun, fun _ => ?_, nofun⟩, hcs.1.1⟩, fun hb => ?_⟩, fun _ => hk⟩
    · rw [← h₁.upcoming] at hk
      exact Bool.eq_false_iff.2 fun h => upcoming_after_text h₂ hk (hcs.2 h)
    · exact standBehindTag_text hb hk cs
  · exact .pure ⟨⟨trivial, fun _ => rfl⟩, nofun⟩
  · refine (hr.container false).bind fun c b₂ _ hc => .pure fun cs hcs => ?_
    obtain ⟨hc, e, rfl⟩ := hc
    exact ⟨⟨⟨⟨hc, nofun, nofun⟩, hcs.1.1⟩, fun _ => rfl⟩, nofun⟩
  · refine (hr.elem _ _).bind fun e b₂ _ he => .pure fun cs hcs => ?_
    exact ⟨⟨⟨⟨he.1, nofun, fun _ => hcs.1.2 he.2⟩, hcs.1.1⟩, fun _ => rfl⟩, nofun⟩
  · exact .throw
  · exact .throw

theorem element : Runs b (r.element ctx) fun e b' => e.Formed ctx ∧ b'.BehindTag := by
  refine (runs_expectPunct _ _).bind fun _ b₁ _ _ => ?_
  refine (runs_tagName _).bind fun tag b₂ _ htag => ?_
  have hattrs : Runs b₂ (if tag.isSome then r.attrs ctx else pure []) fun as _ =>
      attrsFormed ctx as ∧ (tag = none → as.isEmpty = true) := by
    refine .ite (fun hs => hr.attrs.mono fun as _ _ h => ⟨h, ?_⟩) fun _ => .pure ⟨trivial, fun _ => rfl⟩
    rintro rfl
    simp at hs
  refine .join (hattrs.bind fun attrs b₃ _ ha => ?_)
  refine (runs_acceptPunct _ _).bind fun _ b₄ _ _ => .ite (fun _ => ?_) fun _ => ?_
  · refine (runs_expectPunct _ _).bind fun _ b₅ _ h₅ => .pure ⟨⟨htag, ⟨ha.2, rfl⟩, ha.1, trivial⟩, ?_⟩
    exact behindTag_of_gt h₅.1 h₅.2
  refine (runs_expectPunct _ _).bind fun _ b₅ _ h₅ => ?_
  refine hr.children.bind fun children b₆ _ hc => ?_
  refine (runs_consume _).bind fun close b₇ _ _ => ?_
  refine (runs_tagName _).bind fun closing b₈ _ _ => ?_
  refine .ite (fun _ => .throw) fun _ => ?_
  refine (runs_expectPunct _ _).bind fun _ b₉ _ h₉ => .pure ⟨⟨htag, ⟨ha.2, ?_⟩, ha.1, hc.1⟩, ?_⟩
  · exact hc.2 (behindTag_of_gt h₅.1 h₅.2)
  · exact behindTag_of_gt h₉.1 h₉.2

end Rules.Sound

end ImportSeam
