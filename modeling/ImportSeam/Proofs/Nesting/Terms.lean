import ImportSeam.Proofs.Nesting.Span

/-!
# Where terms stand

Every production is given rules that read nested parts, and reads nested parts itself: what it
holds stands in a row between the buffer it started with and the one it left.

## Main definitions

* `Rules.Nests` — the rules read nested parts.

## Main results

* `Rules.Nests.pattern`, `Rules.Nests.signature`, `Rules.Nests.objectLiteral`,
  `Rules.Nests.element` — patterns, functions, literals and markup.
-/

namespace ImportSeam

open TokenParser BufferedToken

variable {b b₁ b' : TokenBuffer} {ctx : Context} {r : Rules} {mode : LexMode} {xs : List Part}

/-! ### Tokens -/

namespace TokenBuffer

/-- The token is the last one consumed. -/
def Last (b : TokenBuffer) (t : Token) : Prop :=
  t.loc.Within b.source ∧ t.loc.stop = b.position.offset

theorem Consumes.last (h : b.Consumes [.read mode b.position] b') : b'.Last (b.upcoming mode) := by
  refine ⟨?_, ?_⟩
  · rw [h.source]
    exact h.upcoming_within
  · rw [h.position]
    rfl

/-- What was consumed since a mark, where the first token is known. -/
theorem Consumes.since_eq (h : b.Consumes [.read mode b.position] b₁) (k : b₁.Keeps b') :
    b'.since b.mark = ⟨(b.upcoming mode).loc.start, b'.position.offset⟩ := by
  obtain ⟨ts, hts⟩ := k
  exact (h.trans hts).since_cons

/-- A single token behind a part. -/
theorem EndsAt.token (h : b.Consumes [.read mode b.position] b') :
    b.EndsAt b' [] (b.upcoming mode).loc := by
  have hkeeps : b.Keeps b' := ⟨_, h⟩
  have hlast := h.last
  rw [Last, h.source] at hlast
  exact .of_spans hkeeps.spans hlast.1 (b.offset_le_upcoming mode) hlast.2

/-- A list with a closing token behind it. -/
theorem EndsAt.closed (h : b.Spans b₁ xs) (h' : b₁.Consumes [.read mode b₁.position] b') :
    b.EndsAt b' xs (b₁.upcoming mode).loc := by
  obtain ⟨ts, hts⟩ := h.keeps
  have hlast := h'.last
  rw [Last, h'.source, hts.source] at hlast
  have hstart := Nat.le_trans hts.offset_le (b₁.offset_le_upcoming mode)
  exact .of_spans (h.before ⟨_, h'⟩) hlast.1 hstart hlast.2

/-- All that was consumed, where the first token is no part of the list. -/
theorem EndsAt.since (h : b.Consumes [.read mode b.position] b₁) (h' : b₁.Spans b' xs) :
    b.EndsAt b' xs (b'.since b.mark) := by
  have hkeeps : b.Keeps b' := .trans ⟨_, h⟩ h'.keeps
  obtain ⟨ts, hts⟩ := hkeeps
  have hw := hts.coherent.since_within (hts.mark ▸ Nat.le_add_right b.mark ts.length)
  rw [hts.source] at hw
  have hcovers := h.since_eq h'.keeps
  refine .of_spans (h'.after ⟨_, h⟩) hw ?_ (by rw [hcovers])
  rw [hcovers]
  exact b.offset_le_upcoming mode

end TokenBuffer

/-- A token that can be a name, as the name of something. -/
theorem spans_name {id : Ident} (role : NameRole)
    (h : b.Consumes [.read .standard b.position] b')
    (hname : ctx.isName (b.upcoming .standard).kind = true)
    (hloc : id.loc = (b.upcoming .standard).loc) : b.Spans b' [.name role id] :=
  .token h (Context.solid_of_isName hname) hloc rfl

theorem runs_bindingName_spans (role : NameRole) :
    Runs b (bindingName ctx) fun id b' => b.Spans b' [.name role id] := by
  refine (runs_consume .standard).bind fun t b₁ _ h₁ => ?_
  obtain ⟨rfl, h₁⟩ := h₁
  exact .ite (fun hname => .pure (spans_name role h₁ hname rfl)) fun _ => .throw

theorem runs_declaredName?_spans :
    Runs b (declaredName? ctx) fun o b' => b.Spans b' (Part.ofName? o) := by
  refine (runs_consumeIf _ .standard).bind fun t b₁ k₁ h₁ => .pure ?_
  obtain ⟨rfl, h₁⟩ := h₁
  split
  · next hname =>
    rw [if_pos hname] at h₁
    exact spans_name .own h₁ hname rfl
  · exact k₁.spans

/-- Absent entries of a list add nothing. -/
theorem flatMap_filterMap_id {α β : Type} (f : α → List β) (os : List (Option α)) :
    (os.filterMap id).flatMap f = os.flatMap fun o => o.elim [] f := by
  induction os with
  | nil => rfl
  | cons o os ih =>
    cases o with
    | none => exact ih
    | some a => exact congrArg (f a ++ ·) ih

/-! ### The rules -/

/-- The rules read nested parts. -/
structure Rules.Nests (r : Rules) : Prop where
  expr : ∀ b ctx least ends, Runs b (r.expr ctx least ends) fun e b' => b.Spans b' [.expr e]
  operand : ∀ b ctx ends, Runs b (r.operand ctx ends) fun e b' => b.Spans b' [.expr e]
  construct : ∀ b ctx, Runs b (r.construct ctx) fun e b' => b.Spans b' [.expr e]
  pat : ∀ b ctx, Runs b (r.pat ctx) fun p b' => b.Spans b' [.pat p]
  stmt : ∀ b ctx, Runs b (r.stmt ctx) fun s b' => b.Spans b' [.stmt s]
  elem : ∀ b ctx, Runs b (r.elem ctx) fun e b' => b.Spans b' e.nodes

theorem Rules.nests_exhausted : Rules.exhausted.Nests where
  expr _ _ _ _ := runs_exhausted
  operand _ _ _ := runs_exhausted
  construct _ _ := runs_exhausted
  pat _ _ := runs_exhausted
  stmt _ _ := runs_exhausted
  elem _ _ := runs_exhausted

namespace Rules.Nests

variable (hr : r.Nests)
include hr

theorem sequence (ends : List TokenKind) :
    Runs b (r.sequence ctx ends) fun e b' => b.Spans b' [.expr e] := hr.expr b ctx _ ends

theorem assignment (ends : List TokenKind) :
    Runs b (r.assignment ctx ends) fun e b' => b.Spans b' [.expr e] := hr.expr b ctx _ ends

theorem parenthesized : Runs b (r.parenthesized ctx) fun e b' => b.Spans b' [.expr e] := by
  refine (runs_expectPunct .lParen .standard).bind fun _ b₁ k₁ _ => ?_
  refine (hr.sequence _).bind fun e b₂ _ he => ?_
  refine (runs_expectPunct .rParen .standard).bind fun _ b₃ k₃ _ => .pure ?_
  exact (he.after k₁).before k₃

theorem default? (ends : List TokenKind) :
    Runs b (r.default? ctx ends) fun o b' => b.Spans b' (Part.ofExpr? o) := by
  refine (runs_acceptPunct .assign .standard).bind fun ok b₁ k₁ _ => ?_
  refine (runs_optionally_spans (T := Part.ofExpr?) ok rfl (hr.assignment ends)).mono ?_
  exact fun o b₂ _ ho => ho.after k₁

theorem stmtsUntil (stop : TokenKind) :
    Runs b (r.stmtsUntil ctx stop) fun ss b' => b.Spans b' (ss.map .stmt) := by
  simp only [List.map_eq_flatMap]
  refine runs_collect_spans (fun b => ?_) _ b
  refine (runs_peek .standard).bind fun t b₁ k₁ _ => ?_
  refine .ite (fun _ => .pure k₁.spans) fun _ => .ite (fun _ => .throw) fun _ => ?_
  exact (hr.stmt _ _).bind fun s b₂ _ hs => .pure (hs.after k₁)

theorem block : Runs b (r.block ctx) fun ss b' => b.Begun b' ∧ b.Spans b' (ss.map .stmt) := by
  refine (runs_begin_punct .lBrace .standard).bind fun _ b₁ k₁ h₁ => ?_
  refine (hr.stmtsUntil _).bind fun ss b₂ k₂ hss => ?_
  refine (runs_expectPunct .rBrace .standard).bind fun _ b₃ k₃ _ => .pure ?_
  exact ⟨h₁.before (k₂.trans k₃), (hss.after k₁).before k₃⟩

/-! ### Keys and patterns -/

/-- A key that is not computed is the token that was consumed. -/
theorem key (allowPrivate : Bool) : Runs b (r.key ctx allowPrivate) fun key b' =>
    b.Spans b' key.nodes ∧ ∀ text kind, key = .direct text kind →
      kind = (b.upcoming .standard).kind ∧ b.Consumes [.read .standard b.position] b' := by
  refine (runs_peek .standard).bind fun t b₁ k₁ h₁ => ?_
  obtain ⟨rfl, h₁⟩ := h₁
  refine .ite (fun _ => ?_) fun _ => .ite (fun _ => .throw) fun _ => ?_
  · refine (runs_skip .standard).bind fun _ b₂ k₂ _ => ?_
    refine (hr.assignment _).bind fun e b₃ _ he => ?_
    refine (runs_expectPunct .rBracket .standard).bind fun _ b₄ k₄ _ => .pure ⟨?_, nofun⟩
    exact (he.after (k₁.trans k₂)).before k₄
  have direct : ∀ {text : String} {b₂ : TokenBuffer},
      b₁.Consumes [.read .standard b₁.position] b₂ →
      b.Spans b₂ (Key.direct text (b.upcoming .standard).kind).nodes ∧ ∀ text' kind,
        Key.direct text (b.upcoming .standard).kind = .direct text' kind →
        kind = (b.upcoming .standard).kind ∧ b.Consumes [.read .standard b.position] b₂ := by
    intro text b₂ h₂
    have h₂ := h₁.trans h₂
    rw [h₁.position] at h₂
    have hkeeps : b.Keeps b₂ := ⟨_, h₂⟩
    exact ⟨hkeeps.spans, fun _ _ h => ⟨(Key.direct.inj h).2.symm, h₂⟩⟩
  refine .ite (fun _ => ?_) fun _ => ?_
  · exact runs_stringValue.bind fun _ b₂ _ h₂ => .pure (direct h₂)
  · exact (runs_skip .standard).bind fun _ b₂ _ h₂ => .pure (direct h₂)

theorem elemPats : ∀ (n : Nat) (b : TokenBuffer), Runs b (r.elemPats ctx n) fun es b' =>
    b.Spans b' (es.1.flatMap Binder.nodes? ++ Part.ofPat? es.2)
  | 0, _ => runs_exhausted
  | n + 1, b => by
    refine (runs_acceptPunct .rBracket .standard).bind fun _ b₁ k₁ _ => ?_
    refine .ite (fun _ => .pure k₁.spans) fun _ => ?_
    refine (runs_acceptPunct .comma .standard).bind fun _ b₂ k₂ _ => ?_
    refine .ite (fun _ => ?_) fun _ => ?_
    · exact (elemPats n b₂).bind fun es b₃ _ hes => .pure (hes.after (k₁.trans k₂))
    refine (runs_acceptPunct .ellipsis .standard).bind fun _ b₃ k₃ _ => ?_
    have k₃ := k₁.trans (k₂.trans k₃)
    refine .ite (fun _ => ?_) fun _ => ?_
    · refine (hr.pat _ _).bind fun p b₄ _ hp => ?_
      refine (runs_expectPunct .rBracket .standard).bind fun _ b₅ k₅ _ => .pure ?_
      exact (hp.after k₃).before k₅
    refine (hr.pat _ _).bind fun p b₄ _ hp => ?_
    refine (hr.default? _).bind fun init b₅ _ hinit => ?_
    have hbinder : b.Spans b₅ (Binder.nodes ⟨p, init⟩) := (hp.append hinit).after k₃
    refine (runs_acceptPunct .comma .standard).bind fun _ b₆ k₆ _ => ?_
    refine .ite (fun _ => ?_) fun _ => ?_
    · refine (elemPats n b₆).bind fun es b₇ _ hes => .pure ?_
      rw [List.flatMap_cons, List.append_assoc]
      exact hbinder.append (hes.after k₆)
    · refine (runs_expectPunct .rBracket .standard).bind fun _ b₇ k₇ _ => .pure ?_
      rw [List.flatMap_singleton]
      exact hbinder.append (k₆.trans k₇).spans

theorem propPat : Runs b (r.propPat ctx) fun p b' => b.Spans b' p.nodes := by
  refine (runs_peek .standard).bind fun t b₁ k₁ h₁ => ?_
  obtain ⟨rfl, h₁⟩ := h₁
  refine (hr.key false).bind fun key b₂ _ hkey => ?_
  refine (runs_acceptPunct .colon .standard).bind fun _ b₃ k₃ _ => ?_
  refine .ite (fun _ => ?_) fun _ => ?_
  · refine (hr.pat _ _).bind fun p b₄ _ hp => ?_
    refine (hr.default? _).bind fun init b₅ _ hinit => .pure ?_
    exact (hkey.1.append ((hp.append hinit).after k₃)).after k₁
  · cases key with
    | computed e => exact .throw
    | direct text kind =>
      refine .ite (fun _ => .throw) fun hname => ?_
      obtain ⟨rfl, h₂⟩ := hkey.2 text kind rfl
      refine (hr.default? _).bind fun init b₄ _ hinit => .pure ?_
      -- the key is the name that is bound
      have hid : b₁.Spans b₂ [.name .pattern ⟨text, (b.upcoming .standard).loc, .unknown⟩] :=
        spans_name _ h₂ (by simpa using hname) (by rw [h₁.upcoming])
      exact (hid.patIdent.append (hinit.after k₃)).after k₁

theorem propPats : ∀ (n : Nat) (b : TokenBuffer), Runs b (r.propPats ctx n) fun ps b' =>
    b.Spans b' (ps.1.flatMap PropPat.nodes ++ (ps.2.map (.name .pattern)).toList)
  | 0, _ => runs_exhausted
  | n + 1, b => by
    refine (runs_acceptPunct .rBrace .standard).bind fun _ b₁ k₁ _ => ?_
    refine .ite (fun _ => .pure k₁.spans) fun _ => ?_
    refine (runs_acceptPunct .ellipsis .standard).bind fun _ b₂ k₂ _ => ?_
    have k₂ := k₁.trans k₂
    refine .ite (fun _ => ?_) fun _ => ?_
    · refine (runs_bindingName_spans .pattern).bind fun id b₃ _ hid => ?_
      refine (runs_expectPunct .rBrace .standard).bind fun _ b₄ k₄ _ => .pure ?_
      exact (hid.after k₂).before k₄
    refine hr.propPat.bind fun p b₃ _ hp => ?_
    have hp := hp.after k₂
    refine (runs_acceptPunct .comma .standard).bind fun _ b₄ k₄ _ => ?_
    refine .ite (fun _ => ?_) fun _ => ?_
    · refine (propPats n b₄).bind fun ps b₅ _ hps => .pure ?_
      rw [List.flatMap_cons, List.append_assoc]
      exact hp.append (hps.after k₄)
    · refine (runs_expectPunct .rBrace .standard).bind fun _ b₅ k₅ _ => .pure ?_
      rw [List.flatMap_singleton]
      exact hp.append (k₄.trans k₅).spans

theorem pattern : Runs b (r.pattern ctx) fun p b' => b.Spans b' [.pat p] := by
  refine (runs_peekKind .standard).bind fun k b₁ k₁ _ => ?_
  split
  · refine (runs_node ?_).mono fun p b' _ hp => hp.after k₁
    refine (runs_begin_punct .lBracket .standard).bind fun _ b₂ k₂ h₂ => ?_
    refine (hr.elemPats _ _).bind fun es b₃ k₃ hes => .pure ⟨h₂.before k₃, fun loc => ?_⟩
    exact ⟨rfl, hes.after k₂⟩
  · refine (runs_node ?_).mono fun p b' _ hp => hp.after k₁
    refine (runs_begin_punct .lBrace .standard).bind fun _ b₂ k₂ h₂ => ?_
    refine (hr.propPats _ _).bind fun ps b₃ k₃ hps => .pure ⟨h₂.before k₃, fun loc => ?_⟩
    exact ⟨rfl, hps.after k₂⟩
  · exact (runs_bindingName_spans .pattern).bind fun id b₂ _ hid => .pure (hid.patIdent.after k₁)

/-! ### Templates -/

/-- A template begins with the token before it and ends with the last token consumed. -/
theorem templateParts : ∀ (n : Nat) (b : TokenBuffer) (t : Token) (isFirst : Bool), b.Last t →
    Runs b (r.templateParts ctx n t isFirst) fun ps b' =>
      b.Spans b' (ps.1.flatMap TemplatePart.nodes) ∧ ps.2.Within b.source ∧
        ps.2.start = t.loc.start ∧ ps.2.stop = b'.position.offset
  | 0, _, _, _, _ => runs_exhausted
  | n + 1, b, t, isFirst, ht => by
    unfold Rules.templateParts
    dsimp only
    split
    · refine .intro fun hb => .pure ⟨(TokenBuffer.Keeps.refl hb).spans, ht.1, rfl, ht.2⟩
    · refine (hr.sequence _).bind fun e b₁ _ he => ?_
      refine (runs_expectPunct .rBrace .standard).bind fun _ b₂ k₂ _ => ?_
      refine (runs_consume .templateTail).bind fun u b₃ k₃ hu => ?_
      obtain ⟨rfl, hu⟩ := hu
      refine (templateParts n b₃ _ false hu.last).bind fun ps b₄ k₄ hps => ?_
      obtain ⟨hparts, hw, hstart, hstop⟩ := hps
      have hkeeps : b.Keeps b₃ := he.keeps.trans (k₂.trans k₃)
      have horder := ht.1.ordered
      have hnext : t.loc.stop ≤ (b₂.upcoming .templateTail).loc.start := by
        obtain ⟨ts, hts⟩ := he.keeps.trans k₂
        rw [ht.2]
        exact Nat.le_trans hts.offset_le (b₂.offset_le_upcoming _)
      have hend := hw.ordered
      rw [hkeeps.source] at hw
      refine .pure ⟨he.append (hparts.after (k₂.trans k₃)), ht.1.join hw, ?_, ?_⟩
      · rw [Loc.join, Nat.min_eq_left (by omega)]
      · rw [Loc.join, Nat.max_eq_right (by omega), hstop]
    · exact .throw
    · exact .throw

theorem templateAfter {t : Token} (ht : b.Last t) : Runs b (r.templateAfter ctx t) fun ps b' =>
    b.Spans b' (ps.1.flatMap TemplatePart.nodes) ∧ ps.2.Within b.source ∧
      ps.2.start = t.loc.start ∧ ps.2.stop = b'.position.offset :=
  hr.templateParts _ _ _ _ ht

/-! ### Functions -/

theorem params : Runs b (r.params ctx) fun ps b' => b.Spans b' (ps.flatMap (·.binder.nodes)) := by
  refine (runs_expectPunct .lParen .standard).bind fun _ b₁ k₁ _ => ?_
  refine (runs_separated_spans .rParen (fun b => ?_) _ b₁).mono fun ps b₂ _ hps => hps.after k₁
  refine (runs_acceptPunct .ellipsis .standard).bind fun _ b₂ k₂ _ => ?_
  refine (hr.pat _ _).bind fun p b₃ _ hp => ?_
  exact (hr.default? _).bind fun init b₄ _ hinit => .pure ((hp.append hinit).after k₂)

theorem funcAfterName (isAsync isGenerator : Bool) :
    Runs b (r.funcAfterName isAsync isGenerator) fun f b' => b.Spans b' f.nodes := by
  refine hr.params.bind fun ps b₁ _ hps => ?_
  exact hr.block.bind fun ss b₂ _ hss => .pure (hps.append hss.2)

theorem signature : Runs b (r.signature ctx) fun s b' =>
    b.Begun b' ∧ b.Spans b' (Part.ofName? s.1 ++ s.2.nodes) := by
  refine (runs_acceptWord "async").bind fun isAsync b₁ k₁ _ => ?_
  refine (runs_begin_keyword .kFunction).bind fun _ b₂ k₂ h₂ => ?_
  refine (runs_acceptPunct .star .standard).bind fun isGenerator b₃ k₃ _ => ?_
  refine runs_declaredName?_spans.bind fun name b₄ k₄ hname => ?_
  refine (hr.funcAfterName _ _).bind fun f b₅ k₅ hf => .pure ⟨?_, ?_⟩
  · exact (h₂.before (k₃.trans (k₄.trans k₅))).after k₁
  · exact (hname.append hf).after (k₁.trans (k₂.trans k₃))

theorem funcExpr : Runs b (r.funcExpr ctx) fun e b' => b.Spans b' [.expr e] :=
  runs_node (hr.signature.bind fun _ _ _ hs => .pure ⟨hs.1, fun _ => ⟨rfl, hs.2⟩⟩)

/-! ### Members -/

theorem method? (allowPrivate : Bool) : Runs b (r.method? ctx allowPrivate) fun o b' =>
    match o with
    | some (key, m) => b.Spans b' (key.nodes ++ m.nodes)
    | none => b.Consumes [] b' := by
  refine runs_peekTwo.bind fun ts b₁ k₁ h₁ => ?_
  obtain ⟨rfl, h₁⟩ := h₁
  -- the rest may go back to here
  refine RunsFrom.bind runs_mark fun start b₂ _ h₂ => ?_
  obtain ⟨rfl, rfl⟩ := h₂
  refine .ite (fun _ => ?_) fun _ => .ite (fun _ => ?_) fun _ => .ite (fun _ => ?_) fun _ => ?_
  · refine .bind (runs_skip _) fun _ b₂ k₂ _ => ?_
    refine .bind (hr.key _) fun key b₃ _ hkey => ?_
    refine .bind (hr.funcAfterName _ _) fun f b₄ _ hf => .pure ?_
    have hmember := (hkey.1.append hf).after (k₁.trans k₂)
    dsimp only
    split <;> exact hmember
  · have tail : ∀ b₂ isAsync, b.Keeps b₂ → RunsFrom b₁ b₂ (do
        let isGenerator ← acceptPunct .star
        let key ← r.key ctx allowPrivate
        let func ← r.funcAfterName isAsync isGenerator
        return some (key, Member.method func)) fun o b' =>
          match o with
          | some (key, m) => b.Spans b' (key.nodes ++ m.nodes)
          | none => b.Consumes [] b' := by
      intro b₂ isAsync k₂
      refine .bind (runs_acceptPunct _ _) fun isGenerator b₃ k₃ _ => ?_
      refine .bind (hr.key _) fun key b₄ _ hkey => ?_
      refine .bind (hr.funcAfterName _ _) fun f b₅ _ hf => .pure ?_
      exact (hkey.1.append hf).after (k₂.trans k₃)
    refine .ite (fun _ => ?_) fun _ => tail b₁ _ k₁
    exact .bind (runs_skip _) fun _ b₂ k₂ _ => tail b₂ _ (k₁.trans k₂)
  · exact .pure h₁
  · refine .bind (hr.key _) fun key b₂ _ hkey => ?_
    refine .bind (runs_peekKind _) fun kind b₃ k₃ _ => .ite (fun _ => ?_) fun _ => ?_
    · refine .bind (hr.funcAfterName _ _) fun f b₄ _ hf => .pure ?_
      exact (hkey.1.append (hf.after k₃)).after k₁
    · exact .chain .restore fun _ b₄ _ h₄ => .pure (h₁.trans h₄)

theorem objMember : Runs b (r.objMember ctx) fun build b' =>
    ∀ loc, b.Spans b' (build loc).nodes := by
  refine (runs_acceptPunct .ellipsis .standard).bind fun ok b₁ k₁ _ => ?_
  refine .ite (fun _ => ?_) fun _ => ?_
  · exact (hr.assignment _).bind fun e b₂ _ he => .pure fun _ => he.after k₁
  refine (hr.method? false).bind fun o b₂ k₂ h₂ => ?_
  split
  · next key m => exact .pure fun _ => h₂.after k₁
  refine (runs_peek .standard).bind fun t b₃ k₃ h₃ => ?_
  obtain ⟨rfl, h₃⟩ := h₃
  have k₃ := k₁.trans (k₂.trans k₃)
  refine (hr.key false).bind fun key b₄ _ hkey => ?_
  refine (runs_acceptPunct .colon .standard).bind fun colon b₅ k₅ _ => .ite (fun _ => ?_) fun _ => ?_
  · refine (hr.assignment _).bind fun e b₆ _ he => .pure fun _ => ?_
    exact (hkey.1.append (he.after k₅)).after k₃
  cases key with
  | computed e => exact .throw
  | direct text kind =>
    refine .ite (fun _ => .throw) fun hname => ?_
    obtain ⟨rfl, h₄⟩ := hkey.2 text kind rfl
    -- the key is the name that the shorthand stands for
    have hid : b.Spans b₄ [.name .value ⟨text, (b₂.upcoming .standard).loc, .unknown⟩] := by
      refine .after k₃ (spans_name _ h₄ (by simpa using hname) ?_)
      rw [h₃.upcoming]
    refine (runs_acceptPunct .assign .standard).bind fun _ b₆ k₆ _ => .ite (fun _ => ?_) fun _ => ?_
    · refine (hr.assignment _).bind fun e b₇ _ he => .pure fun _ => ?_
      exact hid.patIdent.target.join (.single (he.after (k₅.trans k₆))) rfl rfl
    · exact .pure fun _ => hid.before (k₅.trans k₆)

theorem objMembers : Runs b (r.objMembers ctx) fun ms b' =>
    b.Begun b' ∧ b.Spans b' (ms.flatMap ObjMember.nodes) := by
  refine (runs_begin_punct .lBrace .standard).bind fun _ b₁ k₁ h₁ => ?_
  refine (runs_separated_spans .rBrace (fun b => ?_) _ b₁).mono fun ms b₂ k₂ hms =>
    ⟨h₁.before k₂, hms.after k₁⟩
  exact runs_spanning (hr.objMember.mono fun _ _ _ h => h _)

theorem objectLiteral : Runs b (r.objectLiteral ctx) fun e b' => b.Spans b' [.expr e] :=
  runs_node (hr.objMembers.bind fun _ _ _ hms => .pure ⟨hms.1, fun _ => ⟨rfl, hms.2⟩⟩)

theorem methodOrField (isStatic : Bool) :
    Runs b (r.methodOrField ctx isStatic) fun m b' => b.Spans b' m.nodes := by
  refine (hr.method? true).bind fun o b₁ k₁ h₁ => ?_
  split
  · exact .pure h₁
  · refine (hr.key true).bind fun key b₂ _ hkey => ?_
    refine (hr.default? _).bind fun value b₃ _ hvalue => ?_
    refine runs_semicolon.bind fun _ b₄ k₄ _ => .pure ?_
    exact ((hkey.1.append hvalue).after k₁).before k₄

theorem classMember : Runs b (r.classMember ctx) fun m b' => b.Spans b' m.nodes := by
  refine runs_peekTwo.bind fun ts b₁ k₁ h₁ => ?_
  obtain ⟨rfl, -⟩ := h₁
  refine .ite (fun _ => ?_) fun _ => .ite (fun _ => ?_) fun _ => ?_
  · refine (runs_skip _).bind fun _ b₂ k₂ _ => ?_
    exact hr.block.bind fun ss b₃ _ hss => .pure (hss.2.after (k₁.trans k₂))
  · refine (runs_skip _).bind fun _ b₂ k₂ _ => ?_
    exact (hr.methodOrField _).mono fun m b₃ _ hm => hm.after (k₁.trans k₂)
  · exact (hr.methodOrField _).mono fun m b₂ _ hm => hm.after k₁

theorem classMembers : Runs b (r.classMembers ctx) fun ms b' =>
    b.Spans b' (ms.flatMap ClassMember.nodes) := by
  refine (runs_collect_spans (g := fun o => o.elim [] ClassMember.nodes) (fun b => ?_) _ b).bind
    fun os b₁ _ hos => .pure ?_
  · refine (runs_acceptPunct _ _).bind fun _ b₁ k₁ _ => .ite (fun _ => .pure k₁.spans) fun _ => ?_
    refine (runs_acceptPunct _ _).bind fun _ b₂ k₂ _ => ?_
    have k₂ := k₁.trans k₂
    refine .ite (fun _ => .pure k₂.spans) fun _ => ?_
    exact hr.classMember.bind fun m b₃ _ hm => .pure (hm.after k₂)
  · -- a semicolon holds nothing
    rw [flatMap_filterMap_id]
    exact hos

theorem classSignature : Runs b (r.classSignature ctx) fun c b' => b.Begun b' ∧
    b.Spans b' (Part.ofName? c.1 ++ Part.ofExpr? c.2.1 ++ c.2.2.flatMap ClassMember.nodes) := by
  refine (runs_begin_keyword .kClass).bind fun _ b₁ k₁ h₁ => ?_
  refine runs_declaredName?_spans.bind fun name b₂ k₂ hname => ?_
  have htail : Runs b₂ (r.classTail ctx) fun c b' =>
      b₂.Spans b' (Part.ofExpr? c.1 ++ c.2.flatMap ClassMember.nodes) := by
    refine (runs_acceptKeyword _).bind fun ok b₃ k₃ _ => ?_
    refine (runs_optionally_spans (T := Part.ofExpr?) ok rfl (hr.expr _ _ _ _)).bind
      fun parent b₄ _ hparent => ?_
    refine (runs_expectPunct _ _).bind fun _ b₅ k₅ _ => ?_
    refine hr.classMembers.bind fun ms b₆ _ hms => .pure ?_
    exact (hparent.append (hms.after k₅)).after k₃
  refine htail.bind fun c b₃ k₃ hc => .pure ⟨h₁.before (k₂.trans k₃), ?_⟩
  rw [List.append_assoc]
  exact (hname.append hc).after k₁

theorem classExpr : Runs b (r.classExpr ctx) fun e b' => b.Spans b' [.expr e] :=
  runs_node (hr.classSignature.bind fun _ _ _ hc => .pure ⟨hc.1, fun _ => ⟨rfl, hc.2⟩⟩)

end Rules.Nests

/-! ### Markup -/

theorem attrsNodes_eq (as : List JsxAttr) : attrsNodes as = as.flatMap fun a => attrsNodes [a] := by
  induction as with
  | nil => rfl
  | cons a as ih =>
    rw [List.flatMap_cons, ← ih]
    rcases a with ⟨name, _ | c⟩ | e <;> simp [attrsNodes]

theorem contentsNodes_eq (cs : List JsxContent) : contentsNodes cs = cs.flatMap JsxContent.nodes := by
  induction cs with
  | nil => rfl
  | cons c cs ih => rw [contentsNodes, ih, List.flatMap_cons]

theorem runs_tagName_spans (n : Nat) :
    Runs b (tagName n) fun o b' => b.Spans b' (Part.ofTag? o) := by
  refine (runs_peekKind _).bind fun _ b₁ k₁ _ => .ite (fun _ => .pure k₁.spans) fun _ => ?_
  refine (runs_expect _ _).bind fun t b₂ k₂ h₂ => ?_
  obtain ⟨rfl, hkind, h₂⟩ := h₂
  have hbase : b.Spans b₂ [.name .value ⟨(b₁.upcoming .jsxTag).text, (b₁.upcoming .jsxTag).loc,
      .unknown⟩] := .after k₁ (.token h₂ (hkind ▸ solid_ident) rfl rfl)
  refine (runs_acceptPunct _ _).bind fun _ b₃ k₃ _ => .ite (fun _ => ?_) fun _ => ?_
  · refine runs_tagWord.bind fun u b₄ k₄ _ => .pure ?_
    exact (k₁.trans (k₂.trans (k₃.trans k₄))).spans
  refine (runs_tagPath n).bind fun path b₄ k₄ _ => ?_
  refine .ite (fun _ => .pure (hbase.before (k₃.trans k₄))) fun _ => ?_
  refine .ite (fun _ => .pure ?_) fun _ => .pure (hbase.before (k₃.trans k₄))
  exact (k₁.trans (k₂.trans (k₃.trans k₄))).spans

namespace Rules.Nests

variable (hr : r.Nests)
include hr

theorem container : Runs b (r.container ctx) fun c b' => b.Spans b' c.nodes := by
  refine (runs_expectPunct _ _).bind fun _ b₁ k₁ _ => ?_
  refine (runs_acceptPunct _ _).bind fun _ b₂ k₂ _ => ?_
  have k₂ := k₁.trans k₂
  refine .ite (fun _ => .pure k₂.spans) fun _ => ?_
  refine (hr.sequence _).bind fun e b₃ _ he => ?_
  exact (runs_expectPunct _ _).bind fun _ b₄ k₄ _ => .pure ((he.after k₂).before k₄)

theorem attributeValue : Runs b (r.attributeValue ctx) fun c b' => b.Spans b' c.nodes := by
  refine (runs_peek _).bind fun t b₁ k₁ _ => ?_
  split
  · exact (runs_skip _).bind fun _ b₂ k₂ _ => .pure (k₁.trans k₂).spans
  · exact hr.container.mono fun c b₂ _ hc => hc.after k₁
  · exact (hr.elem _ _).bind fun e b₂ _ he => .pure (he.after k₁)
  · exact .throw

theorem attr : Runs b (r.attr ctx) fun a b' => b.Spans b' (attrsNodes [a]) := by
  refine (runs_peekKind _).bind fun _ b₁ k₁ _ => .ite (fun _ => ?_) fun _ => ?_
  · refine (runs_expectPunct _ _).bind fun _ b₂ k₂ _ => ?_
    refine (runs_expectPunct _ _).bind fun _ b₃ k₃ _ => ?_
    refine (hr.assignment _).bind fun e b₄ _ he => ?_
    refine (runs_expectPunct _ _).bind fun _ b₅ k₅ _ => .pure ?_
    exact (he.after (k₁.trans (k₂.trans k₃))).before k₅
  · refine runs_attributeName.bind fun name b₂ k₂ _ => ?_
    refine (runs_acceptPunct _ _).bind fun ok b₃ k₃ _ => ?_
    refine (runs_optionally_spans (T := fun o => attrsNodes [.named name o]) ok rfl ?_).bind
      fun value b₄ _ hvalue => .pure (hvalue.after (k₁.trans (k₂.trans k₃)))
    refine hr.attributeValue.mono fun c b₄ _ hc => ?_
    rw [attrsNodes, attrsNodes, List.append_nil]
    exact hc

theorem attrs : Runs b (r.attrs ctx) fun as b' => b.Spans b' (attrsNodes as) := by
  refine (runs_collect_spans (g := fun a => attrsNodes [a]) (fun b => ?_) _ b).mono
    fun as b₁ _ has => attrsNodes_eq as ▸ has
  refine (runs_peek _).bind fun t b₁ k₁ _ => ?_
  split
  · exact .pure k₁.spans
  · exact .pure k₁.spans
  · exact .throw
  · exact hr.attr.bind fun a b₂ _ ha => .pure (ha.after k₁)

theorem children : Runs b (TokenParser.collect r.depth (r.child? ctx)) fun cs b' =>
    b.Spans b' (contentsNodes cs) := by
  simp only [contentsNodes_eq]
  refine runs_collect_spans (fun b => ?_) _ b
  refine (runs_peek _).bind fun t b₁ k₁ _ => ?_
  split
  · exact (runs_skip _).bind fun _ b₂ k₂ _ => .pure (k₁.trans k₂).spans
  · exact .pure k₁.spans
  · exact hr.container.bind fun c b₂ _ hc => .pure (hc.after k₁)
  · exact (hr.elem _ _).bind fun e b₂ _ he => .pure (he.after k₁)
  · exact .throw
  · exact .throw

theorem element : Runs b (r.element ctx) fun e b' => b.Begun b' ∧ b.Spans b' e.nodes := by
  refine (runs_begin_punct .lt .standard).bind fun _ b₁ k₁ h₁ => ?_
  refine (runs_tagName_spans _).bind fun tag b₂ k₂ htag => ?_
  have hattrs : Runs b₂ (if tag.isSome then r.attrs ctx else pure []) fun as b' =>
      b₂.Spans b' (attrsNodes as) :=
    .ite (fun _ => hr.attrs) fun _ => .intro fun hb => .pure (TokenBuffer.Keeps.refl hb).spans
  refine .join (hattrs.bind fun attrs b₃ k₃ hattrs => ?_)
  have hopen : b.Spans b₃ (Part.ofTag? tag ++ attrsNodes attrs) := (htag.append hattrs).after k₁
  have hbegun : b.Begun b₃ := h₁.before (k₂.trans k₃)
  refine (runs_acceptPunct _ _).bind fun _ b₄ k₄ _ => .ite (fun _ => ?_) fun _ => ?_
  · refine (runs_expectPunct _ _).bind fun _ b₅ k₅ _ => .pure ⟨hbegun.before (k₄.trans k₅), ?_⟩
    exact hopen.append (k₄.trans k₅).spans
  refine (runs_expectPunct _ _).bind fun _ b₅ k₅ _ => ?_
  refine hr.children.bind fun children b₆ k₆ hchildren => ?_
  refine (runs_consume _).bind fun close b₇ k₇ _ => ?_
  refine (runs_tagName _).bind fun closing b₈ k₈ _ => .ite (fun _ => .throw) fun _ => ?_
  refine (runs_expectPunct _ _).bind fun _ b₉ k₉ _ => ?_
  -- the closing tag holds no part of its own
  have kclose := k₇.trans (k₈.trans k₉)
  have kopen := k₄.trans k₅
  refine .pure ⟨hbegun.before (kopen.trans (k₆.trans kclose)), ?_⟩
  exact (hopen.append (hchildren.after kopen)).before kclose

end Rules.Nests

end ImportSeam
